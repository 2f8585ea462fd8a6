import Mathlib.Data.List.Basic

/-!
# Sequences of steps that stop at the first failure

`runSteps` runs a step over a list of items. Each step gives the next state and possibly an
error, and the first error ends the run with the state that its step left. This is a chain of
blocks each ending in `if (ret < 0) return ret;`, where the failing block may already have
changed the state. The lemmas split a run at an item, carry an invariant over it, and compute
its error when every step's outcome depends on the item alone.
-/

namespace Steps

variable {σ β ε : Type*} (step : σ → β → σ × Option ε)

def runSteps : σ → List β → σ × Option ε
  | s, [] => (s, none)
  | s, t :: ts =>
    match step s t with
    | (s', none) => runSteps s' ts
    | (s', some e) => (s', some e)

@[simp] theorem runSteps_nil (s : σ) : runSteps step s [] = (s, none) := rfl

theorem runSteps_cons_of_none {s : σ} {t : β} (ts : List β) (h : (step s t).2 = none) :
    runSteps step s (t :: ts) = runSteps step (step s t).1 ts := by
  have hst : step s t = ((step s t).1, none) := by rw [← h]
  rw [runSteps, hst]

theorem runSteps_cons_of_some {s : σ} {t : β} {e : ε} (ts : List β) (h : (step s t).2 = some e) :
    runSteps step s (t :: ts) = ((step s t).1, some e) := by
  have hst : step s t = ((step s t).1, some e) := by rw [← h]
  rw [runSteps, hst]

theorem runSteps_append_of_none {s : σ} {l : List β} (l' : List β)
    (h : (runSteps step s l).2 = none) :
    runSteps step s (l ++ l') = runSteps step (runSteps step s l).1 l' := by
  induction l generalizing s with
  | nil => rfl
  | cons t ts ih =>
    cases ht : (step s t).2 with
    | none =>
      rw [runSteps_cons_of_none step ts ht] at h
      rw [List.cons_append, runSteps_cons_of_none step _ ht, runSteps_cons_of_none step ts ht,
        ih h]
    | some e =>
      rw [runSteps_cons_of_some step ts ht] at h
      cases h

@[simp] theorem runSteps_singleton (s : σ) (t : β) : runSteps step s [t] = step s t := by
  cases h : (step s t).2 with
  | none => rw [runSteps_cons_of_none step [] h, runSteps_nil, ← h]
  | some e => rw [runSteps_cons_of_some step [] h, ← h]

theorem runSteps_append_of_some {s : σ} {l : List β} (l' : List β) {e : ε}
    (h : (runSteps step s l).2 = some e) : runSteps step s (l ++ l') = runSteps step s l := by
  induction l generalizing s with
  | nil => cases h
  | cons t ts ih =>
    cases ht : (step s t).2 with
    | none =>
      rw [runSteps_cons_of_none step ts ht] at h
      rw [List.cons_append, runSteps_cons_of_none step _ ht, runSteps_cons_of_none step ts ht, ih h]
    | some e' =>
      rw [List.cons_append, runSteps_cons_of_some step _ ht, runSteps_cons_of_some step ts ht]

theorem runSteps_invariant (P : σ → Prop) {s : σ} {l : List β}
    (hstep : ∀ s t, t ∈ l → P s → P (step s t).1) (hs : P s) : P (runSteps step s l).1 := by
  induction l generalizing s with
  | nil => exact hs
  | cons t ts ih =>
    have ht := hstep s t (List.mem_cons_self ..) hs
    cases he : (step s t).2 with
    | none =>
      rw [runSteps_cons_of_none step ts he]
      exact ih (fun s' t' ht' => hstep s' t' (List.mem_cons_of_mem _ ht')) ht
    | some e =>
      rw [runSteps_cons_of_some step ts he]
      exact ht

/-- When whether a step fails, and with which error, depends on the item alone, a run ends
with the error of the first item that fails. -/
theorem runSteps_snd (err : β → Option ε) (herr : ∀ s t, (step s t).2 = err t) (s : σ)
    (l : List β) : (runSteps step s l).2 = l.findSome? err := by
  induction l generalizing s with
  | nil => rfl
  | cons t ts ih =>
    cases he : err t with
    | none =>
      rw [runSteps_cons_of_none step ts ((herr s t).trans he), ih, List.findSome?_cons, he]
    | some e =>
      rw [runSteps_cons_of_some step ts ((herr s t).trans he), List.findSome?_cons, he]

theorem runSteps_invariant_of_none (P : σ → Prop) {s : σ} {l : List β}
    (h : (runSteps step s l).2 = none)
    (hstep : ∀ s t, t ∈ l → P s → (step s t).2 = none → P (step s t).1) (hs : P s) :
    P (runSteps step s l).1 := by
  induction l generalizing s with
  | nil => exact hs
  | cons t ts ih =>
    cases he : (step s t).2 with
    | none =>
      rw [runSteps_cons_of_none step ts he] at h ⊢
      exact ih h (fun s' t' ht' => hstep s' t' (List.mem_cons_of_mem _ ht'))
        (hstep s t List.mem_cons_self hs he)
    | some e =>
      rw [runSteps_cons_of_some step ts he] at h
      cases h

theorem runSteps_of_some {s : σ} {l : List β} {e : ε} (h : (runSteps step s l).2 = some e) :
    ∃ s' t, t ∈ l ∧ step s' t = ((runSteps step s l).1, some e) := by
  induction l generalizing s with
  | nil => cases h
  | cons t ts ih =>
    cases he : (step s t).2 with
    | none =>
      rw [runSteps_cons_of_none step ts he] at h ⊢
      obtain ⟨s', t', ht', hs'⟩ := ih h
      exact ⟨s', t', List.mem_cons_of_mem _ ht', hs'⟩
    | some e' =>
      rw [runSteps_cons_of_some step ts he] at h ⊢
      cases h
      exact ⟨s, t, List.mem_cons_self, by rw [← he]⟩

section ItemErrors

variable (err : β → Option ε) (herr : ∀ s t, (step s t).2 = err t)
include herr

theorem runSteps_snd_eq_none {s : σ} {l : List β} (hl : ∀ x ∈ l, err x = none) :
    (runSteps step s l).2 = none := by
  rw [runSteps_snd step err herr, List.findSome?_eq_none_iff]
  exact hl

theorem runSteps_append_cons_of_some {s : σ} {pre : List β} {t : β} (post : List β) {e : ε}
    (hpre : ∀ x ∈ pre, err x = none) (ht : err t = some e) :
    runSteps step s (pre ++ t :: post) = ((step (runSteps step s pre).1 t).1, some e) := by
  rw [runSteps_append_of_none step _ (runSteps_snd_eq_none step err herr hpre)]
  exact runSteps_cons_of_some step post ((herr _ t).trans ht)

theorem runSteps_append_cons_of_none {s : σ} {pre : List β} {t : β} (post : List β)
    (hpre : ∀ x ∈ pre, err x = none) (ht : err t = none) :
    runSteps step s (pre ++ t :: post) = runSteps step (step (runSteps step s pre).1 t).1 post := by
  rw [runSteps_append_of_none step _ (runSteps_snd_eq_none step err herr hpre)]
  exact runSteps_cons_of_none step post ((herr _ t).trans ht)

end ItemErrors

end Steps
