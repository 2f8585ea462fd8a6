import Mathlib.Logic.Basic
import Mathlib.Data.List.Basic
import Mathlib.Algebra.GroupWithZero.Nat

/-!
# Deterministic machines with outputs

A machine takes a state and an input to a new state and an output. `run` feeds it a list of
inputs and collects the outputs in order. An invariant that one step keeps holds along every
run (`run_invariant`), and every output of a run is the output of one step from a state where
the invariant holds (`mem_run_snd`). A map of states that commutes with the steps, outputs
included, on the states of an invariant sends runs to runs of the other machine (`run_map`):
this is how a concrete machine is shown to refine an abstract one.
-/

namespace Machine

variable {σ τ ι ο : Type*}

/-- Run `step` from `s` over the inputs: the last state and the outputs, in order. -/
def run (step : σ → ι → σ × ο) (s : σ) : List ι → σ × List ο
  | [] => (s, [])
  | i :: is =>
    let r := run step (step s i).1 is
    (r.1, (step s i).2 :: r.2)

section Run

variable (step : σ → ι → σ × ο)

@[simp] theorem run_nil (s : σ) : run step s [] = (s, []) := rfl

@[simp] theorem run_cons (s : σ) (i : ι) (is : List ι) :
    run step s (i :: is) =
      ((run step (step s i).1 is).1, (step s i).2 :: (run step (step s i).1 is).2) := rfl

@[simp] theorem length_run_snd (s : σ) (is : List ι) : (run step s is).2.length = is.length := by
  induction is generalizing s with
  | nil => rfl
  | cons i is ih => simp [ih]

theorem map_run_snd {g : ο → ι} (hg : ∀ s i, g (step s i).2 = i) (s : σ) (is : List ι) :
    (run step s is).2.map g = is := by
  induction is generalizing s with
  | nil => rfl
  | cons i is ih => simp [hg, ih]

theorem run_append (s : σ) (is is' : List ι) :
    run step s (is ++ is') =
      ((run step (run step s is).1 is').1, (run step s is).2 ++ (run step (run step s is).1 is').2) := by
  induction is generalizing s with
  | nil => rfl
  | cons i is ih => simp [ih]

variable (P : σ → Prop)

theorem run_invariant_of_mem {s : σ} (hs : P s) {is : List ι}
    (hP : ∀ s, ∀ i ∈ is, P s → P (step s i).1) : P (run step s is).1 := by
  induction is generalizing s with
  | nil => exact hs
  | cons i is ih =>
    exact ih (hP s i List.mem_cons_self hs) (fun s' i' hi' => hP s' i' (List.mem_cons_of_mem _ hi'))

theorem mem_run_snd_of_mem {s : σ} (hs : P s) {is : List ι}
    (hP : ∀ s, ∀ i ∈ is, P s → P (step s i).1) {o : ο} (ho : o ∈ (run step s is).2) :
    ∃ s', ∃ i ∈ is, P s' ∧ (step s' i).2 = o := by
  induction is generalizing s with
  | nil => cases ho
  | cons i is ih =>
    rcases List.mem_cons.mp ho with rfl | ho'
    · exact ⟨s, i, List.mem_cons_self, hs, rfl⟩
    · obtain ⟨s', i', hi', hs', hout⟩ :=
        ih (hP s i List.mem_cons_self hs) (fun s' i' hi' => hP s' i' (List.mem_cons_of_mem _ hi')) ho'
      exact ⟨s', i', List.mem_cons_of_mem _ hi', hs', hout⟩

/-- Every input of the run is allowed by `G` in the state it is taken in: a protocol the
machine's clients follow. -/
def Guarded (G : σ → ι → Prop) : σ → List ι → Prop
  | _, [] => True
  | s, i :: is => G s i ∧ Guarded G (step s i).1 is

/-- An invariant that each allowed step keeps holds at the end of every run that follows the
protocol. -/
theorem run_invariant_guarded {G : σ → ι → Prop} (hP : ∀ s i, P s → G s i → P (step s i).1)
    {s : σ} (hs : P s) {is : List ι} (hg : Guarded step G s is) : P (run step s is).1 := by
  induction is generalizing s with
  | nil => exact hs
  | cons i is ih => exact ih (hP s i hs hg.1) hg.2

variable (hP : ∀ s i, P s → P (step s i).1)
include hP

/-- An invariant of one step holds at the end of every run. -/
theorem run_invariant {s : σ} (hs : P s) (is : List ι) : P (run step s is).1 :=
  run_invariant_of_mem step P hs (fun s i _ => hP s i)

/-- Every output of a run is the output of one step from a state of the invariant. -/
theorem mem_run_snd {s : σ} (hs : P s) {is : List ι} {o : ο} (ho : o ∈ (run step s is).2) :
    ∃ s' i, P s' ∧ (step s' i).2 = o := by
  obtain ⟨s', i, -, hs', hout⟩ := mem_run_snd_of_mem step P hs (fun s i _ => hP s i) ho
  exact ⟨s', i, hs', hout⟩

/-- A map that commutes with the steps on the states of an invariant, outputs included, sends
each run to the run of the other machine from the image of its start. -/
theorem run_map (step' : τ → ι → τ × ο) (f : σ → τ)
    (hsim : ∀ s i, P s → (f (step s i).1, (step s i).2) = step' (f s) i) {s : σ} (hs : P s)
    (is : List ι) : (f (run step s is).1, (run step s is).2) = run step' (f s) is := by
  induction is generalizing s with
  | nil => rfl
  | cons i is ih =>
    have hstep := hsim s i hs
    rw [run_cons, run_cons, ← hstep, ← ih (hP s i hs)]

end Run

/-! ## Counters that issue fresh numbers

The C idiom x = c++, or a base handed out before c += n, issues the next numbers of a counter.
A step issues from the counter f when the numbers its output holds for input i are the next
size i values of f, and f moves past them. Over a run the numbers issued are then the interval
from the first value of f, each once, in order. -/

section Fresh

variable (step : σ → ι → σ × ο) (f : σ → ℕ) (size : ι → ℕ) (issued : ι → ο → List ℕ)

/-- The step issues the next size i numbers of f to input i. -/
def Issues : Prop :=
  ∀ s i, issued i (step s i).2 = List.range' (f s) (size i) ∧ f (step s i).1 = f s + size i

variable {step f size issued}

theorem Issues.run_fst (h : Issues step f size issued) (s : σ) (is : List ι) :
    f (run step s is).1 = f s + (is.map size).sum := by
  induction is generalizing s with
  | nil => simp
  | cons i is ih => simp only [run_cons, ih, (h s i).2, List.map_cons, List.sum_cons]; omega

/-- Over a run the issued numbers are the interval from the counter's first value. -/
theorem Issues.run_snd (h : Issues step f size issued) (s : σ) (is : List ι) :
    (is.zip (run step s is).2).flatMap (fun p => issued p.1 p.2) =
      List.range' (f s) (is.map size).sum := by
  induction is generalizing s with
  | nil => simp
  | cons i is ih =>
    rw [run_cons, List.zip_cons_cons, List.flatMap_cons, ih, (h s i).1, (h s i).2, List.map_cons,
      List.sum_cons, List.range'_append_1]

theorem Issues.flatMap_run_snd {g : ο → List ℕ} (h : Issues step f size (fun _ o => g o))
    (s : σ) (is : List ι) : (run step s is).2.flatMap g = List.range' (f s) (is.map size).sum := by
  have hzip : (is.zip (run step s is).2).map Prod.snd = (run step s is).2 :=
    List.map_snd_zip (by simp)
  calc (run step s is).2.flatMap g
      = ((is.zip (run step s is).2).map Prod.snd).flatMap g := by rw [hzip]
    _ = (is.zip (run step s is).2).flatMap (fun p => g p.2) := List.flatMap_map _ _ _
    _ = List.range' (f s) (is.map size).sum := h.run_snd s is

end Fresh

end Machine
