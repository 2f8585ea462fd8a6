import NucleoH753zi.PinName
import NucleoH753zi.Tokenize

/-!
# Chip-select lists: `parse_cs_pins`

`parse_cs_pins` copies the configured string into the 256-byte `pins_str` with `strncpy`,
cuts the copy into tokens with `strtok`, and parses tokens while fewer than `max_pins` have
been stored. The loop is the token loop `Tokenize.scan` with a budget of `max_pins`
iterations: the C loop fetches one token more before it tests the count, and drops it.

Only the first `*cs_count` entries of `cs_pins` are ever read (`spi_cs_select` and the
configuration loop of `stm32_spi_initialize` both stop at the count), so the model returns
those entries and not the whole array. On an error `*cs_count` is 0 and the entries written
before the failing token are never read.
-/

namespace NucleoH753zi.Spi

open Libc Tokenize

def MAX_CS_PINS_PER_SPI : ℕ := 8

def PINS_STR_SIZE : ℕ := 256

def csDelims : List Char := [',', ' ', '\t', '\n', '\r']

/-- One iteration of the loop: the parsed word is stored after the others, or the error
ends the function. -/
def parsePinStep (cs_pins : List ℕ) (token : List Char) : Except ℤ (List ℕ) :=
  let r := parse_gpio_pin token
  if r.2 ≠ 0 then .error r.2 else .ok (cs_pins ++ [r.1])

/-- `parse_cs_pins (cs_pins_str, cs_pins, max_pins, &cs_count)`: the entries
`cs_pins[0 .. *cs_count)` and the value returned. -/
def parse_cs_pins (cs_pins_str : List Char) (max_pins : ℕ) : List ℕ × ℤ :=
  if cs_pins_str.length = 0 then ([], OK)
  else
    let pins_str := strncpy cs_pins_str (PINS_STR_SIZE - 1)
    match scan (strchr csDelims) parsePinStep max_pins [] pins_str with
    | (cs_pins, none) => (cs_pins, OK)
    | (_, some error) => ([], error)

/-- The tokens `parse_cs_pins` reads from `s`: those of the 255-character copy, at most
`max_pins` of them. -/
def csTokens (s : List Char) (max_pins : ℕ) : List (List Char) :=
  (tokens (strchr csDelims) (s.take (PINS_STR_SIZE - 1))).take max_pins

def Accepts (token : List Char) : Prop := (parse_gpio_pin token).2 = 0

instance : DecidablePred Accepts := fun t => inferInstanceAs (Decidable ((parse_gpio_pin t).2 = 0))

theorem parse_gpio_pin_snd (token : List Char) :
    (parse_gpio_pin token).2 = 0 ∨ (parse_gpio_pin token).2 = -EINVAL := by
  rw [parse_gpio_pin_eq]
  split
  · exact Or.inr rfl
  · exact Or.inl rfl

theorem drive_of_accepts {token : List Char} (h : Accepts token) :
    (GpioOp.configgpio (parse_gpio_pin token).1).drive = some ((parse_gpio_pin token).1, true) := by
  unfold Accepts at h
  rw [parse_gpio_pin_eq] at h ⊢
  cases hd : decodePinName token with
  | none => rw [hd] at h; cases h
  | some cn =>
    obtain ⟨c, n⟩ := cn
    obtain ⟨-, h2, hn⟩ := decodePinName_port hd
    have hp := port_index_lt h2
    exact drive_configgpio_word (by omega) (by omega)

theorem portOf_lt_of_accepts {token : List Char} (h : Accepts token) :
    portOf (parse_gpio_pin token).1 < STM32H7_NGPIO := by
  unfold Accepts at h
  rw [parse_gpio_pin_eq] at h ⊢
  cases hd : decodePinName token with
  | none => rw [hd] at h; cases h
  | some cn =>
    obtain ⟨c, n⟩ := cn
    obtain ⟨-, h2, hn⟩ := decodePinName_port hd
    have hp := port_index_lt h2
    rw [(accepted_of_word csMode_mod h2 hn).2.2.1]
    exact hp

theorem foldSteps_parsePinStep_of_accepts (cs_pins : List ℕ) {ts : List (List Char)}
    (h : ∀ t ∈ ts, Accepts t) :
    foldSteps parsePinStep cs_pins ts = (cs_pins ++ ts.map (fun t => (parse_gpio_pin t).1), none) := by
  induction ts generalizing cs_pins with
  | nil => simp
  | cons t ts ih =>
    have ht : (parse_gpio_pin t).2 = 0 := h t (List.mem_cons_self ..)
    rw [foldSteps_cons, parsePinStep]
    simp only [ht, ne_eq, not_true_eq_false, if_false]
    rw [ih _ (fun t' ht' => h t' (List.mem_cons_of_mem _ ht'))]
    simp

theorem foldSteps_parsePinStep_of_not_accepts (cs_pins : List ℕ) {ts : List (List Char)}
    (h : ∃ t ∈ ts, ¬ Accepts t) : (foldSteps parsePinStep cs_pins ts).2 = some (-EINVAL) := by
  induction ts generalizing cs_pins with
  | nil => simp at h
  | cons t ts ih =>
    rw [foldSteps_cons, parsePinStep]
    by_cases ht : Accepts t
    · have h' : ∃ t ∈ ts, ¬ Accepts t := by
        obtain ⟨t', ht', hn⟩ := h
        rcases List.mem_cons.mp ht' with rfl | ht'
        · exact absurd ht hn
        · exact ⟨t', ht', hn⟩
      simp only [show (parse_gpio_pin t).2 = 0 from ht, ne_eq, not_true_eq_false, if_false]
      exact ih _ h'
    · have he : (parse_gpio_pin t).2 = -EINVAL := (parse_gpio_pin_snd t).resolve_left ht
      simp only [he, ne_eq, if_pos (show ¬ (-EINVAL : ℤ) = 0 by decide)]

/-- `parse_cs_pins` returns `OK` and the words of the tokens it reads when it accepts every one
of them, and `-EINVAL` with no entry otherwise. -/
theorem parse_cs_pins_eq (s : List Char) (max_pins : ℕ) :
    parse_cs_pins s max_pins =
      if ∀ t ∈ csTokens s max_pins, Accepts t then
        ((csTokens s max_pins).map (fun t => (parse_gpio_pin t).1), OK)
      else ([], -EINVAL) := by
  by_cases hs : s.length = 0
  · rw [List.length_eq_zero_iff.mp hs]
    simp [parse_cs_pins, csTokens]
  rw [parse_cs_pins, if_neg hs]
  simp only [strncpy]
  rw [scan_eq_foldSteps, show (tokens (strchr csDelims) (s.take (PINS_STR_SIZE - 1))).take max_pins =
    csTokens s max_pins from rfl]
  split_ifs with ha
  · rw [foldSteps_parsePinStep_of_accepts [] ha]
    rfl
  · simp only [not_forall, exists_prop] at ha
    have he := foldSteps_parsePinStep_of_not_accepts [] ha
    generalize foldSteps parsePinStep [] _ = r at he ⊢
    obtain ⟨pins, e⟩ := r
    cases he
    rfl

theorem length_parse_cs_pins_le (s : List Char) (max_pins : ℕ) :
    (parse_cs_pins s max_pins).1.length ≤ max_pins := by
  rw [parse_cs_pins_eq]
  split_ifs
  · simp [csTokens]
  · simp

/-- `parse_cs_pins` reads the tokens of the first 255 characters of the list, at most
`MAX_CS_PINS_PER_SPI` of them: it returns `OK` exactly when it accepts all of those, and then
stores as many words as it read, one per token in order; otherwise it returns `-EINVAL` with
a count of 0. -/
theorem parse_cs_pins_reads_copy (s : List Char) :
    ((parse_cs_pins s MAX_CS_PINS_PER_SPI).2 = OK ↔
      ∀ t ∈ csTokens s MAX_CS_PINS_PER_SPI, Accepts t) ∧
    ((parse_cs_pins s MAX_CS_PINS_PER_SPI).2 = OK →
      (parse_cs_pins s MAX_CS_PINS_PER_SPI).1.length =
          min (tokens (strchr csDelims) (s.take (PINS_STR_SIZE - 1))).length MAX_CS_PINS_PER_SPI ∧
        (parse_cs_pins s MAX_CS_PINS_PER_SPI).1 =
          (csTokens s MAX_CS_PINS_PER_SPI).map (fun t => (parse_gpio_pin t).1)) ∧
    ((parse_cs_pins s MAX_CS_PINS_PER_SPI).2 ≠ OK →
      parse_cs_pins s MAX_CS_PINS_PER_SPI = ([], -EINVAL)) := by
  rw [parse_cs_pins_eq]
  by_cases ha : ∀ t ∈ csTokens s MAX_CS_PINS_PER_SPI, Accepts t
  · rw [if_pos ha]
    refine ⟨iff_of_true rfl ha, fun _ => ⟨?_, rfl⟩, fun h => absurd rfl h⟩
    rw [List.length_map, csTokens, List.length_take, Nat.min_comm]
  · rw [if_neg ha]
    have hne : (-EINVAL : ℤ) ≠ OK := by decide
    exact ⟨iff_of_false hne ha, fun h => absurd h hne, fun _ => rfl⟩

/-- Nine well-formed names: the ninth is never read and the call still returns `OK`; and a
list padded to 256 characters loses its last one, so that `"PA15"` becomes `"PA1"`. -/
theorem parse_cs_pins_drops_tokens :
    (tokens (strchr csDelims) "PA0,PA1,PA2,PA3,PA4,PA5,PA6,PA7,PA8".toList).length = 9 ∧
      (parse_cs_pins "PA0,PA1,PA2,PA3,PA4,PA5,PA6,PA7,PA8".toList MAX_CS_PINS_PER_SPI).2 = OK ∧
      (parse_cs_pins "PA0,PA1,PA2,PA3,PA4,PA5,PA6,PA7,PA8".toList MAX_CS_PINS_PER_SPI).1.length = 8 ∧
    parse_cs_pins (List.replicate 252 ' ' ++ ['P', 'A', '1', '5']) MAX_CS_PINS_PER_SPI =
      ([(parse_gpio_pin ['P', 'A', '1']).1], OK) := by
  refine ⟨by decide, by decide, by decide, ?_⟩
  -- the copy keeps 252 spaces and three characters of the name
  have hcopy : (List.replicate 252 ' ' ++ ['P', 'A', '1', '5']).take (PINS_STR_SIZE - 1) =
      List.replicate 252 ' ' ++ ['P', 'A', '1'] := by
    have hlen : (List.replicate 252 ' ').length ≤ PINS_STR_SIZE - 1 := by
      rw [List.length_replicate]
      decide
    rw [List.take_append, List.take_of_length_le hlen, List.length_replicate]
    rfl
  have hspaces : ∀ x ∈ List.replicate 252 ' ', strchr csDelims x := by
    intro x hx
    rw [List.eq_of_mem_replicate hx]
    decide
  have htokens : csTokens (List.replicate 252 ' ' ++ ['P', 'A', '1', '5']) MAX_CS_PINS_PER_SPI =
      [['P', 'A', '1']] := by
    rw [csTokens, hcopy, tokens_append_of_delims _ _ hspaces]
    decide
  rw [parse_cs_pins_eq, htokens, if_pos (by decide)]
  rfl

end NucleoH753zi.Spi
