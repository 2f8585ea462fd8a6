import Mathlib.Data.List.Basic

/-!
# Sequences of optional calls with one status

Driver bring-up code is a sequence of blocks, each compiled in or out by the preprocessor. A
block calls one function, which may itself make several calls, and folds the status `r` it
returns into the running status `ret` in one of three ways: `ret = r`; keeping the first
failure, `if (fails r && ret == ok) ret = r`; or not at all, when `r` is only logged. `run`
executes the blocks from `ret = ok` and returns the calls made and the final status.

The calls are those of the enabled blocks in order, whatever any status was (`run_fst`). When
no enabled block assigns, the final status is the first failure that an enabled block reports
(`run_snd_of_keeps`); when every block assigns, it is the status of the last enabled block
(`run_snd_of_assigns`).
-/

namespace Blocks

variable {γ α : Type*}

/-- How a block folds the status its callee returns into the running status. -/
inductive Update (α : Type*) where
  | assign
  | keepFirst (fails : α → Bool)
  | discard

/-- A block: whether it is compiled in, how it updates the status, and what its callee does
(the calls it makes and the status it returns). -/
structure Block (γ α : Type*) where
  enabled : Bool
  update : Update α
  callee : List γ × α

def Block.calls (b : Block γ α) : List γ := if b.enabled then b.callee.1 else []

/-- The failure a block reports: the status of an enabled block that keeps the first failure,
when that status fails. -/
def Block.report (b : Block γ α) : Option α :=
  match b.enabled, b.update with
  | true, .keepFirst fails => if fails b.callee.2 then some b.callee.2 else none
  | _, _ => none

@[simp] theorem calls_mk (e : Bool) (u : Update α) (c : List γ × α) :
    Block.calls ⟨e, u, c⟩ = if e then c.1 else [] := rfl

theorem report_keepFirst (fails : α → Bool) (c : List γ × α) :
    Block.report ⟨true, .keepFirst fails, c⟩ = Option.guard fails c.2 := by
  simp [Block.report, Option.guard]

theorem report_discard (e : Bool) (c : List γ × α) : Block.report ⟨e, .discard, c⟩ = none := by
  cases e <;> rfl

section Run

variable [DecidableEq α] (ok : α)

def Update.apply : Update α → α → α → α
  | .assign, _, r => r
  | .keepFirst fails, ret, r => if fails r ∧ ret = ok then r else ret
  | .discard, ret, _ => ret

/-- An update keeps a failed status: it never assigns, and what it takes for a failure is not
`ok`. -/
def Update.Keeps : Update α → Prop
  | .assign => False
  | .keepFirst fails => ∀ r, fails r → r ≠ ok
  | .discard => True

def step (st : List γ × α) (b : Block γ α) : List γ × α :=
  if b.enabled then (st.1 ++ b.callee.1, b.update.apply ok st.2 b.callee.2) else st

def run (bs : List (Block γ α)) : List γ × α := bs.foldl (step ok) ([], ok)

theorem step_fst (st : List γ × α) (b : Block γ α) : (step ok st b).1 = st.1 ++ b.calls := by
  by_cases he : b.enabled <;> simp [step, Block.calls, he]

theorem foldl_step_fst (bs : List (Block γ α)) (st : List γ × α) :
    (bs.foldl (step ok) st).1 = st.1 ++ bs.flatMap Block.calls := by
  induction bs generalizing st with
  | nil => simp
  | cons b bs ih => rw [List.foldl_cons, ih, step_fst, List.flatMap_cons, List.append_assoc]

theorem run_fst (bs : List (Block γ α)) : (run ok bs).1 = bs.flatMap Block.calls := by
  rw [run, foldl_step_fst, List.nil_append]

section Keeps

variable {ok} {b : Block γ α} (hb : b.enabled → b.update.Keeps ok)
include hb

omit [DecidableEq α] in
theorem report_ne {r : α} (h : b.report = some r) : r ≠ ok := by
  obtain ⟨e, u, c⟩ := b
  cases e with
  | false => simp [Block.report] at h
  | true =>
    cases u with
    | assign => exact absurd (hb rfl) id
    | keepFirst fails =>
      simp only [Block.report] at h
      split_ifs at h with hf
      cases h
      exact hb rfl _ hf
    | discard => simp [Block.report] at h

theorem step_snd_of_keeps (st : List γ × α) :
    (step ok st b).2 = if st.2 = ok then b.report.getD ok else st.2 := by
  obtain ⟨e, u, c⟩ := b
  cases e with
  | false => by_cases hs : st.2 = ok <;> simp [step, Block.report, hs]
  | true =>
    cases u with
    | assign => exact absurd (hb rfl) id
    | keepFirst fails =>
      by_cases hf : fails c.2 <;> by_cases hs : st.2 = ok <;>
        simp [step, Block.report, Update.apply, hf, hs]
    | discard => by_cases hs : st.2 = ok <;> simp [step, Block.report, Update.apply, hs]

end Keeps

theorem foldl_step_snd_of_keeps {bs : List (Block γ α)}
    (h : ∀ b ∈ bs, b.enabled → b.update.Keeps ok) (st : List γ × α) :
    (bs.foldl (step ok) st).2 = if st.2 = ok then (bs.findSome? Block.report).getD ok else st.2 := by
  induction bs generalizing st with
  | nil => split_ifs with hs <;> simp [hs]
  | cons b bs ih =>
    have hb := h b (List.mem_cons_self ..)
    rw [List.foldl_cons, ih (fun b' hb' => h b' (List.mem_cons_of_mem _ hb')),
      step_snd_of_keeps hb, List.findSome?_cons]
    by_cases hs : st.2 = ok
    · cases hr : b.report with
      | none => simp [hs]
      | some r => simp [hs, report_ne hb hr]
    · simp [hs]

/-- A run in which no enabled block assigns ends with the first failure an enabled block
reports, or `ok`. -/
theorem run_snd_of_keeps {bs : List (Block γ α)} (h : ∀ b ∈ bs, b.enabled → b.update.Keeps ok) :
    (run ok bs).2 = (bs.findSome? Block.report).getD ok := by
  rw [run, foldl_step_snd_of_keeps ok h, if_pos rfl]

theorem foldl_step_snd_of_assigns {bs : List (Block γ α)} (h : ∀ b ∈ bs, b.update = .assign)
    (st : List γ × α) :
    (bs.foldl (step ok) st).2 = ((bs.filter (·.enabled)).getLast?.map (·.callee.2)).getD st.2 := by
  induction bs generalizing st with
  | nil => rfl
  | cons b bs ih =>
    rw [List.foldl_cons, ih (fun b' hb' => h b' (List.mem_cons_of_mem _ hb'))]
    by_cases he : b.enabled
    · -- `b` assigns its status, which stands unless a later enabled block assigns again
      have hu : b.update = .assign := h b (List.mem_cons_self ..)
      rw [List.filter_cons_of_pos he, List.getLast?_cons]
      cases hl : (bs.filter (·.enabled)).getLast? with
      | none => simp [step, he, hu, Update.apply]
      | some b' => simp
    · rw [List.filter_cons_of_neg he]
      simp [step, he]

theorem run_snd_of_assigns {bs : List (Block γ α)} (h : ∀ b ∈ bs, b.update = .assign) :
    (run ok bs).2 = ((bs.filter (·.enabled)).getLast?.map (·.callee.2)).getD ok :=
  foldl_step_snd_of_assigns ok h ([], ok)

end Run

section FirstFailure

variable {p : α → Bool} {d : α}

theorem getD_find?_eq_iff (hd : p d = false) (l : List α) : (l.find? p).getD d = d ↔ ∀ x ∈ l, p x = false := by
  cases h : l.find? p with
  | none =>
    simp only [Option.getD_none, true_iff]
    intro x hx
    simpa using List.find?_eq_none.mp h x hx
  | some v =>
    have hv : p v = true := List.find?_some h
    simp only [Option.getD_some]
    constructor
    · rintro rfl
      rw [hd] at hv
      cases hv
    · intro hall
      rw [hall v (List.mem_of_find?_eq_some h)] at hv
      cases hv

theorem exists_append_of_getD_find?_ne (l : List α) (h : (l.find? p).getD d ≠ d) :
    ∃ pre post, l = pre ++ (l.find? p).getD d :: post ∧ ∀ x ∈ pre, p x = false := by
  cases hf : l.find? p with
  | none => simp [hf] at h
  | some v =>
    obtain ⟨-, pre, post, hl, hpre⟩ := List.find?_eq_some_iff_append.mp hf
    exact ⟨pre, post, hl, fun x hx => by simpa using hpre x hx⟩

end FirstFailure

end Blocks
