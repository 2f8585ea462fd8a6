import NucleoH753zi.Tokenize

/-!
# The NuttX C library functions used by the board code

A C string is the list of its characters: the terminating NUL is the end of the list, so the
C test `*p == '\0'` reads "`p` is at the end". Reading at or past the end gives `'\0'`
(`charAt`). Pointers into a string are indices. The target is 32-bit ARM, where `long` and
`unsigned long` are 32 bits wide.

`strtol` and `strtoul` follow `libs/libc/stdlib`: `strtol` skips spaces and one sign itself,
then calls `strtoul`, which skips spaces and takes a sign again. When no digit is found,
`strtoul` returns its own argument as the end pointer, and `strtol` steps back over the sign it
consumed. `strtok` is one call of `strtok_r` on the saved position, the generic scanner step
`Tokenize.next` over the delimiter set.
-/

namespace NucleoH753zi.Libc

def OK : ℤ := 0
def ENOENT : ℤ := 2
def EIO : ℤ := 5
def EBADF : ℤ := 9
def ENOMEM : ℤ := 12
def EACCES : ℤ := 13
def EBUSY : ℤ := 16
def EEXIST : ℤ := 17
def ENODEV : ℤ := 19
def EINVAL : ℤ := 22
def ENOSYS : ℤ := 38

def ULONG_MAX : ℕ := 4294967295
def LONG_MAX : ℤ := 2147483647
def LONG_MIN : ℤ := -LONG_MAX - 1

def charAt (s : List Char) (i : ℕ) : Char := s.getD i '\x00'

def isspace (c : Char) : Bool :=
  c == ' ' || c == '\t' || c == '\n' || c == '\r' || c == '\x0c' || c == '\x0b'

/-- `lib_skipspace`: the index of the first non-space character at or after `i`. -/
def lib_skipspace (s : List Char) (i : ℕ) : ℕ :=
  i + ((s.drop i).takeWhile isspace).length

/-- `lib_isbasedigit`: the value of `ch` as a digit of `base`, if it is one. -/
def lib_isbasedigit (ch : Char) (base : ℕ) : Option ℕ :=
  if base ≤ 10 then
    if '0'.toNat ≤ ch.toNat ∧ ch.toNat ≤ base + '0'.toNat - 1 then some (ch.toNat - '0'.toNat)
    else none
  else if base ≤ 36 then
    if '0'.toNat ≤ ch.toNat ∧ ch.toNat ≤ '9'.toNat then some (ch.toNat - '0'.toNat)
    else if 'a'.toNat ≤ ch.toNat ∧ ch.toNat ≤ 'a'.toNat + base - 11 then
      some (ch.toNat - 'a'.toNat + 10)
    else if 'A'.toNat ≤ ch.toNat ∧ ch.toNat ≤ 'A'.toNat + base - 11 then
      some (ch.toNat - 'A'.toNat + 10)
    else none
  else none

/-- `lib_checkbase`: the base to use and the index after its prefix, or `none` for an
incorrect base (the C code returns `-1` and leaves the pointer). -/
def lib_checkbase (base : ℕ) (s : List Char) (i : ℕ) : Option (ℕ × ℕ) :=
  if base = 0 then
    if charAt s i = '0' then
      if (lib_isbasedigit (charAt s (i + 1)) 8).isSome then some (8, i + 1)
      else if (charAt s (i + 1) = 'X' ∨ charAt s (i + 1) = 'x') ∧
          (lib_isbasedigit (charAt s (i + 2)) 16).isSome then some (16, i + 2)
      else some (10, i)
    else some (10, i)
  else if base = 16 then
    if charAt s i = '0' ∧ (charAt s (i + 1) = 'X' ∨ charAt s (i + 1) = 'x') then some (16, i + 2)
    else some (16, i)
  else if base < 2 ∨ base > 26 then none
  else some (base, i)

/-- The first accumulation loop of `strtoul`: the value and the number of digits consumed. On
overflow the value becomes `ULONG_MAX` and the loop breaks before the digit that overflowed. -/
def accumulate (base : ℕ) : ℕ → List Char → ℕ × ℕ
  | accum, [] => (accum, 0)
  | accum, c :: t =>
    match lib_isbasedigit c base with
    | none => (accum, 0)
    | some value =>
      if accum > ULONG_MAX / base ∨ (accum = ULONG_MAX / base ∧ value > ULONG_MAX % base) then
        (ULONG_MAX, 0)
      else
        let r := accumulate base (accum * base + value) t
        (r.1, r.2 + 1)

def digitRun (base : ℕ) (s : List Char) : ℕ :=
  (s.takeWhile (fun c => (lib_isbasedigit c base).isSome)).length

def strtoul (s : List Char) (base : ℕ) : ℕ × ℕ :=
  let i := lib_skipspace s 0
  let sign := if charAt s i = '-' ∨ charAt s i = '+' then some (charAt s i) else none
  let i := if sign.isSome then i + 1 else i
  match lib_checkbase base s i with
  | none => (0, 0)
  | some (base, i) =>
    let r := accumulate base 0 (s.drop i)
    let j := i + r.2
    let j := j + digitRun base (s.drop j)
    let accum := if sign = some '-' then (ULONG_MAX + 1 - r.1) % (ULONG_MAX + 1) else r.1
    let j := if sign.isSome ∧ some (charAt s (j - 1)) = sign then j - 1 else j
    -- `value` is still `-1` when no digit was seen: the end pointer is the origin
    (accum, if (lib_isbasedigit (charAt s i) base).isSome then j else 0)

def strtol (s : List Char) (base : ℕ) : ℤ × ℕ :=
  let i := lib_skipspace s 0
  let sign := if charAt s i = '-' ∨ charAt s i = '+' then some (charAt s i) else none
  let i := if sign.isSome then i + 1 else i
  let r := strtoul (s.drop i) base
  let retval : ℤ :=
    if sign = some '-' then
      let limit : ℕ := (-(LONG_MIN + 1)).toNat + 1
      if r.1 > limit then LONG_MIN
      else if r.1 = limit then LONG_MIN else -(r.1 : ℤ)
    else if (r.1 : ℤ) > LONG_MAX then LONG_MAX else r.1
  let e := i + r.2
  let e := if sign.isSome ∧ some (charAt s (e - 1)) = sign then e - 1 else e
  (retval, e)

def strchr (delim : List Char) (c : Char) : Bool := delim.contains c

/-- One call of `strtok_r` on the saved position `s`: the token and the new saved position. -/
def strtok (s delim : List Char) : Option (List Char × List Char) :=
  Tokenize.next (strchr delim) s

/-- The string held by `dst` after `strncpy (dst, src, n)` and `dst[n] = '\0'`. -/
def strncpy (src : List Char) (n : ℕ) : List Char := src.take n

@[simp] theorem charAt_nil (i : ℕ) : charAt [] i = '\x00' := rfl
@[simp] theorem charAt_cons_zero (a : Char) (s : List Char) : charAt (a :: s) 0 = a := rfl
@[simp] theorem charAt_cons_succ (a : Char) (s : List Char) (i : ℕ) :
    charAt (a :: s) (i + 1) = charAt s i := rfl

@[simp] theorem isspace_plus : isspace '+' = false := rfl
@[simp] theorem isspace_minus : isspace '-' = false := rfl
@[simp] theorem isDigit_plus : '+'.isDigit = false := rfl
@[simp] theorem isDigit_minus : '-'.isDigit = false := rfl

theorem isspace_iff (c : Char) : isspace c ↔
    c = ' ' ∨ c = '\t' ∨ c = '\n' ∨ c = '\r' ∨ c = '\x0c' ∨ c = '\x0b' := by
  simp [isspace, or_assoc]

theorem isDigit_iff (c : Char) : c.isDigit ↔ '0'.toNat ≤ c.toNat ∧ c.toNat ≤ '9'.toNat := by
  unfold Char.isDigit
  simp only [ge_iff_le, Bool.and_eq_true, decide_eq_true_eq]
  simp only [UInt32.le_iff_toNat_le]
  rfl

def digitValue (c : Char) : ℕ := c.toNat - '0'.toNat

theorem digitValue_lt {c : Char} (h : c.isDigit) : digitValue c < 10 := by
  have hc := (isDigit_iff c).mp h
  have h0 : '0'.toNat = 48 := rfl
  have h9 : '9'.toNat = 57 := rfl
  unfold digitValue
  omega

theorem eq_zero_char_iff {c : Char} (h : c.isDigit) : c = '0' ↔ digitValue c = 0 := by
  have hc := (isDigit_iff c).mp h
  have h0 : '0'.toNat = 48 := rfl
  rw [← Char.toNat_inj]
  unfold digitValue
  omega

theorem ne_zero_char {c : Char} (h : c.isDigit = false) : c ≠ '0' := by
  rintro rfl
  exact absurd h (by decide)

theorem char_cases (c : Char) :
    (isspace c ∧ c.isDigit = false ∧ c ≠ '+' ∧ c ≠ '-') ∨ c = '+' ∨ c = '-' ∨
    (c.isDigit ∧ isspace c = false ∧ c ≠ '+' ∧ c ≠ '-') ∨
    (isspace c = false ∧ c.isDigit = false ∧ c ≠ '+' ∧ c ≠ '-') := by
  by_cases hs : isspace c
  · left
    rcases (isspace_iff c).mp hs with rfl | rfl | rfl | rfl | rfl | rfl <;> decide
  · by_cases hp : c = '+'
    · exact Or.inr (Or.inl hp)
    by_cases hm : c = '-'
    · exact Or.inr (Or.inr (Or.inl hm))
    cases hd : c.isDigit
    · exact Or.inr (Or.inr (Or.inr (Or.inr ⟨by simpa using hs, rfl, hp, hm⟩)))
    · exact Or.inr (Or.inr (Or.inr (Or.inl ⟨rfl, by simpa using hs, hp, hm⟩)))

theorem isDigit_facts {c : Char} (hc : c.isDigit) : isspace c = false ∧ c ≠ '+' ∧ c ≠ '-' := by
  rcases char_cases c with ⟨-, hd, -, -⟩ | rfl | rfl | ⟨-, hs, hp, hm⟩ | ⟨-, hd, -, -⟩
  · simp [hd] at hc
  · simp at hc
  · simp at hc
  · exact ⟨hs, hp, hm⟩
  · simp [hd] at hc

theorem lib_isbasedigit_ten (c : Char) :
    lib_isbasedigit c 10 = if c.isDigit then some (digitValue c) else none := by
  have hr : c.isDigit ↔ '0'.toNat ≤ c.toNat ∧ c.toNat ≤ 10 + '0'.toNat - 1 := isDigit_iff c
  by_cases h : c.isDigit
  · simp only [lib_isbasedigit, h, le_refl, if_true]
    exact if_pos (hr.mp h)
  · simp only [lib_isbasedigit, h, le_refl, if_true, Bool.false_eq_true, if_false]
    exact if_neg (fun h' => h (hr.mpr h'))

theorem lib_checkbase_ten (s : List Char) (i : ℕ) : lib_checkbase 10 s i = some (10, i) := by
  simp [lib_checkbase]

@[simp] theorem accumulate_nil (base acc : ℕ) : accumulate base acc [] = (acc, 0) := rfl

@[simp] theorem digitRun_nil (base : ℕ) : digitRun base [] = 0 := rfl

theorem accumulate_cons_of_isDigit {c : Char} (t : List Char) (acc : ℕ) (hc : c.isDigit)
    (hacc : acc ≤ 10) :
    accumulate 10 acc (c :: t) =
      ((accumulate 10 (acc * 10 + digitValue c) t).1,
        (accumulate 10 (acc * 10 + digitValue c) t).2 + 1) := by
  have := digitValue_lt hc
  have hlim : ¬ (acc > ULONG_MAX / 10 ∨ (acc = ULONG_MAX / 10 ∧ digitValue c > ULONG_MAX % 10)) := by
    simp only [ULONG_MAX]
    omega
  simp only [accumulate, lib_isbasedigit_ten, hc, if_true, if_neg hlim]

theorem accumulate_cons_of_not_isDigit {c : Char} (t : List Char) (acc : ℕ)
    (hc : c.isDigit = false) : accumulate 10 acc (c :: t) = (acc, 0) := by
  simp [accumulate, lib_isbasedigit_ten, hc]

theorem digitRun_cons (c : Char) (t : List Char) :
    digitRun 10 (c :: t) = if c.isDigit then digitRun 10 t + 1 else 0 := by
  by_cases hc : c.isDigit <;> simp [digitRun, lib_isbasedigit_ten, hc]

theorem lib_skipspace_cons_of_isspace {a : Char} (s : List Char) (ha : isspace a) :
    lib_skipspace (a :: s) 0 = lib_skipspace s 0 + 1 := by
  simp [lib_skipspace, ha]

theorem strtol_cons_of_isspace {a : Char} (s : List Char) (base : ℕ) (ha : isspace a) :
    strtol (a :: s) base = ((strtol s base).1, (strtol s base).2 + 1) := by
  unfold strtol
  rw [lib_skipspace_cons_of_isspace s ha]
  generalize lib_skipspace s 0 = k
  simp only [charAt_cons_succ]
  by_cases hsg : charAt s k = '-' ∨ charAt s k = '+'
  · simp only [hsg, if_true, Option.isSome_some, true_and, List.drop_succ_cons]
    generalize strtoul (List.drop (k + 1) s) base = r
    have he : k + 1 + 1 + r.2 - 1 = (k + 1 + r.2 - 1) + 1 := by omega
    rw [he, charAt_cons_succ]
    split_ifs <;> simp <;> omega
  · simp only [hsg, if_false, Option.isSome_none, Bool.false_eq_true, false_and,
      List.drop_succ_cons]
    simp only [Prod.mk.injEq, true_and]
    omega

theorem strtol_cons_other {c : Char} (t : List Char) (hs : isspace c = false)
    (hd : c.isDigit = false) (hp : c ≠ '+') (hm : c ≠ '-') : strtol (c :: t) 10 = (0, 0) := by
  simp [strtol, strtoul, lib_skipspace, hs, hp, hm, lib_checkbase_ten,
    accumulate_cons_of_not_isDigit t 0 hd, lib_isbasedigit_ten, hd, LONG_MAX]

theorem strtol_digit {a : Char} (ha : a.isDigit) : strtol [a] 10 = ((digitValue a : ℤ), 1) := by
  obtain ⟨hs, hp, hm⟩ := isDigit_facts ha
  have := digitValue_lt ha
  simp [strtol, strtoul, lib_skipspace, hs, hp, hm, lib_checkbase_ten,
    accumulate_cons_of_isDigit [] 0 ha (by omega), ha, lib_isbasedigit_ten, LONG_MAX]
  omega

theorem strtol_digit_digit {a b : Char} (ha : a.isDigit) (hb : b.isDigit) :
    strtol [a, b] 10 = (((10 * digitValue a + digitValue b : ℕ) : ℤ), 2) := by
  obtain ⟨hs, hp, hm⟩ := isDigit_facts ha
  have := digitValue_lt ha
  have := digitValue_lt hb
  simp [strtol, strtoul, lib_skipspace, hs, hp, hm, lib_checkbase_ten,
    accumulate_cons_of_isDigit [b] 0 ha (by omega),
    accumulate_cons_of_isDigit [] (digitValue a) hb (by omega), ha, lib_isbasedigit_ten,
    LONG_MAX]
  rw [if_neg (by omega)]
  omega

theorem strtol_digit_other {a b : Char} (ha : a.isDigit) (hb : b.isDigit = false) :
    strtol [a, b] 10 = ((digitValue a : ℤ), 1) := by
  obtain ⟨hs, hp, hm⟩ := isDigit_facts ha
  have := digitValue_lt ha
  simp [strtol, strtoul, lib_skipspace, hs, hp, hm, lib_checkbase_ten,
    accumulate_cons_of_isDigit [b] 0 ha (by omega), accumulate_cons_of_not_isDigit [] _ hb,
    digitRun_cons, ha, hb, lib_isbasedigit_ten, LONG_MAX]
  omega

theorem strtol_sign_digit {a b : Char} (ha : a = '+' ∨ a = '-') (hb : b.isDigit) :
    strtol [a, b] 10 = (if a = '-' then -(digitValue b : ℤ) else (digitValue b : ℤ), 2) := by
  obtain ⟨hs, hp, hm⟩ := isDigit_facts hb
  have := digitValue_lt hb
  rcases ha with rfl | rfl <;>
  simp [strtol, strtoul, lib_skipspace, hs, hp, hm, lib_checkbase_ten,
    accumulate_cons_of_isDigit [] 0 hb (by omega), hb, lib_isbasedigit_ten, LONG_MAX,
    LONG_MIN] <;> omega

theorem strtol_sign_other {a b : Char} (ha : a = '+' ∨ a = '-') (hb : b.isDigit = false) :
    strtol [a, b] 10 = (0, 0) := by
  rcases char_cases b with ⟨hs, -, hp, hm⟩ | rfl | rfl | ⟨hd, -, -, -⟩ | ⟨hs, -, hp, hm⟩
  · rcases ha with rfl | rfl <;>
      simp [strtol, strtoul, lib_skipspace, hs, lib_checkbase_ten, lib_isbasedigit_ten, LONG_MAX]
  · rcases ha with rfl | rfl <;>
      simp [strtol, strtoul, lib_skipspace, lib_checkbase_ten, lib_isbasedigit_ten, LONG_MAX]
  · rcases ha with rfl | rfl <;>
      simp [strtol, strtoul, lib_skipspace, lib_checkbase_ten, lib_isbasedigit_ten, LONG_MAX]
  · simp [hd] at hb
  · rcases ha with rfl | rfl <;>
      simp [strtol, strtoul, lib_skipspace, hs, hp, hm, hb, lib_checkbase_ten,
        accumulate_cons_of_not_isDigit [] 0 hb, lib_isbasedigit_ten, LONG_MAX]

theorem strtol_sign {a : Char} (ha : a = '+' ∨ a = '-') : strtol [a] 10 = (0, 0) := by
  rcases ha with rfl | rfl <;> rfl

end NucleoH753zi.Libc
