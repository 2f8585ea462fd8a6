import Mathlib.Data.List.TakeWhile

/-!
# Delimiter tokenisation and token-driven loops

`tokens p l` is `l` cut at every element satisfying `p`, with the empty pieces removed: the
token stream of a `strtok` scanner over the delimiter set `p`. `next p l` is one scanner call
on the remaining text. It skips the leading delimiters, returns the following run of
non-delimiters and consumes the delimiter that ends it. `scan` feeds the tokens one at a time
to a step that may fail, within a budget of iterations, and `foldSteps` is the same loop over
an explicit list.

Iterating `next` yields exactly `tokens` (`tokens_of_next_some`), so `scan` is `foldSteps`
over the first `n` tokens (`scan_eq_foldSteps`).
-/

namespace Tokenize

variable {α β σ ε : Type*} (p : α → Bool)

def tokens (l : List α) : List (List α) :=
  (l.splitOnP p).filter (fun t => !t.isEmpty)

def next (l : List α) : Option (List α × List α) :=
  match l.dropWhile p with
  | [] => none
  | a :: m => some (a :: m.takeWhile (fun x => !p x), (m.dropWhile (fun x => !p x)).drop 1)

/-- The loop over an explicit list: each step either gives the next state or an error, and the
first error ends the loop with the state reached before it. -/
def foldSteps (step : σ → β → Except ε σ) : σ → List β → σ × Option ε
  | s, [] => (s, none)
  | s, t :: ts =>
    match step s t with
    | .error e => (s, some e)
    | .ok s' => foldSteps step s' ts

/-- The scanner loop: at most `n` tokens are read, and the loop also ends at the end of the
text or at the first failing step. -/
def scan (step : σ → List α → Except ε σ) : ℕ → σ → List α → σ × Option ε
  | 0, s, _ => (s, none)
  | n + 1, s, l =>
    match next p l with
    | none => (s, none)
    | some (t, r) =>
      match step s t with
      | .error e => (s, some e)
      | .ok s' => scan step n s' r

@[simp] theorem tokens_nil : tokens p [] = [] := by
  simp [tokens]

theorem tokens_cons_of_delim {a : α} (l : List α) (ha : p a) :
    tokens p (a :: l) = tokens p l := by
  simp [tokens, List.splitOnP_cons_eq_if_modifyHead, ha]

theorem tokens_append_of_delims {d : List α} (l : List α) (hd : ∀ x ∈ d, p x) :
    tokens p (d ++ l) = tokens p l := by
  induction d with
  | nil => rfl
  | cons a d ih =>
    simp only [List.mem_cons, forall_eq_or_imp] at hd
    rw [List.cons_append, tokens_cons_of_delim p _ hd.1, ih hd.2]

theorem tokens_dropWhile (l : List α) : tokens p (l.dropWhile p) = tokens p l := by
  have h := tokens_append_of_delims p (d := l.takeWhile p) (l.dropWhile p)
    (fun _ hx => List.mem_takeWhile_imp hx)
  rw [List.takeWhile_append_dropWhile] at h
  exact h.symm

theorem tokens_of_word {w : List α} (hw : w ≠ []) (h : ∀ x ∈ w, p x = false) :
    tokens p w = [w] := by
  simp [tokens, List.splitOnP_eq_singleton h, hw]

theorem tokens_word_append {w : List α} (l : List α) {d : α} (hw : w ≠ [])
    (h : ∀ x ∈ w, p x = false) (hd : p d) : tokens p (w ++ d :: l) = w :: tokens p l := by
  rw [tokens, List.splitOnP_append_cons_of_forall_mem h d hd]
  simp [hw, tokens]

theorem next_eq_none_iff (l : List α) : next p l = none ↔ ∀ x ∈ l, p x := by
  rw [← List.dropWhile_eq_nil_iff]
  unfold next
  split <;> simp_all

theorem tokens_of_next_none {l : List α} (h : next p l = none) : tokens p l = [] := by
  rw [← tokens_dropWhile, List.dropWhile_eq_nil_iff.mpr ((next_eq_none_iff p l).mp h)]
  rfl

theorem tokens_of_next_some {l t r : List α} (h : next p l = some (t, r)) :
    tokens p l = t :: tokens p r := by
  unfold next at h
  split at h
  · cases h
  · rename_i a m hl
    obtain ⟨rfl, rfl⟩ := Option.some.inj h
    have ha : p a = false := by
      simpa [hl] using List.head_dropWhile_not p (l := l) (by simp [hl])
    have hw : ∀ x ∈ a :: m.takeWhile (fun x => !p x), p x = false := by
      intro x hx
      rcases List.mem_cons.mp hx with rfl | hx
      · exact ha
      · simpa using List.mem_takeWhile_imp hx
    rw [← tokens_dropWhile, hl]
    have hsplit : a :: m = (a :: m.takeWhile (fun x => !p x)) ++ m.dropWhile (fun x => !p x) := by
      simp
    rw [hsplit]
    cases hd : m.dropWhile (fun x => !p x) with
    | nil => simp [tokens_of_word p (List.cons_ne_nil _ _) hw]
    | cons d r =>
      have hpd : p d := by
        simpa [hd] using List.head_dropWhile_not (fun x => !p x) (l := m) (by simp [hd])
      exact tokens_word_append p r (List.cons_ne_nil _ _) hw hpd

theorem length_lt_of_next_some {l t r : List α} (h : next p l = some (t, r)) :
    r.length < l.length := by
  unfold next at h
  split at h
  · cases h
  · rename_i a m hl
    obtain ⟨-, rfl⟩ := Option.some.inj h
    have hm : (a :: m).length ≤ l.length := hl ▸ (List.dropWhile_suffix p).length_le
    have hr := (List.dropWhile_suffix (fun x => !p x) (l := m)).length_le
    simp only [List.length_drop, List.length_cons] at hm ⊢
    omega

/-- The loop `while (tok != NULL) { n++; tok = strtok (NULL, ...); }`: the number of tokens. -/
def countTokens (l : List α) : ℕ :=
  match h : next p l with
  | none => 0
  | some (_, r) => countTokens r + 1
termination_by l.length
decreasing_by exact length_lt_of_next_some p h

theorem countTokens_eq (l : List α) : countTokens p l = (tokens p l).length := by
  fun_induction countTokens p l with
  | case1 l h => rw [tokens_of_next_none p h, List.length_nil]
  | case2 l t r h ih => rw [tokens_of_next_some p h, List.length_cons, ih]

@[simp] theorem foldSteps_nil (step : σ → β → Except ε σ) (s : σ) :
    foldSteps step s [] = (s, none) := rfl

theorem foldSteps_cons (step : σ → β → Except ε σ) (s : σ) (t : β) (ts : List β) :
    foldSteps step s (t :: ts) =
      match step s t with
      | .error e => (s, some e)
      | .ok s' => foldSteps step s' ts := rfl

theorem foldSteps_invariant (step : σ → β → Except ε σ) (P : σ → Prop) {s : σ} {l : List β}
    (hstep : ∀ s t s', t ∈ l → P s → step s t = .ok s' → P s') (hs : P s) :
    P (foldSteps step s l).1 := by
  induction l generalizing s with
  | nil => exact hs
  | cons t ts ih =>
    rw [foldSteps_cons]
    cases ht : step s t with
    | error e => exact hs
    | ok s' =>
      exact ih (fun s₁ t₁ s₂ h₁ => hstep s₁ t₁ s₂ (List.mem_cons_of_mem _ h₁))
        (hstep s t s' List.mem_cons_self hs ht)

theorem scan_eq_foldSteps (step : σ → List α → Except ε σ) (n : ℕ) (s : σ) (l : List α) :
    scan p step n s l = foldSteps step s ((tokens p l).take n) := by
  induction n generalizing s l with
  | zero => simp [scan]
  | succ n ih =>
    cases hn : next p l with
    | none => simp [scan, hn, tokens_of_next_none p hn]
    | some tr =>
      obtain ⟨t, r⟩ := tr
      rw [tokens_of_next_some p hn, List.take_succ_cons, foldSteps_cons]
      cases hs : step s t with
      | error e => simp [scan, hn, hs]
      | ok s' => simp [scan, hn, hs, ih]

end Tokenize
