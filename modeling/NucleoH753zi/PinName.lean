import NucleoH753zi.Libc
import NucleoH753zi.Gpio
import Mathlib.Data.Char

/-!
# Pin names: the two `parse_gpio_pin` functions

`stm32_spi.c` and `stm32_buttons.c` each have a static `parse_gpio_pin` that turns a pin name
such as `"PF15"` into a configuration word. The two are the same text up to their port switch
and their mode bits, so both are `parseGpioPin` applied to their own switch and mode. The
button parser's `case 'H'` has no `break` and falls into `default`: it rejects every port-H
name that the SPI parser accepts (`Buttons.parse_gpio_pin_eq`).

The pin number after the port letter is read by NuttX's `strtol`, which accepts more than
digits: a leading space or sign, and strings of spaces only, read as 0. `pinNumber` lists what
it accepts on the one or two characters the length check leaves, and `decodePinName` is the
pin-name grammar built on it.
-/

namespace NucleoH753zi

open Libc

def isBlank (c : Char) : Bool := c == ' ' || c == '\t'

/-- The pin switch: `case k` sets `GPIO_PINk` for `k` from 0 to 15, `default` rejects. -/
def pinSwitch (pin_num : ℤ) : Option ℕ :=
  if 0 ≤ pin_num ∧ pin_num ≤ 15 then some (GPIO_PIN pin_num.toNat) else none

/-- `pin_num = strtol (pin_num_str, &endptr, 10)` and the test after it: the number, when
`strtol` read all of `pin_num_str` and the number is from 0 to 15. -/
def readPinNum (pin_num_str : List Char) : Option ℤ :=
  let r := strtol pin_num_str 10
  if r.2 < pin_num_str.length ∨ r.1 < 0 ∨ r.1 > 15 then none else some r.1

def parseGpioPin (portSwitch : Char → Option ℕ) (mode : ℕ) (pin_str : List Char) : ℕ × ℤ :=
  let s := pin_str.dropWhile isBlank
  if s.length < 3 ∨ s.length > 4 then (0, -EINVAL)
  else if charAt s 0 ≠ 'P' then (0, -EINVAL)
  else
    let port := charAt s 1
    if port < 'A' ∨ port > 'H' then (0, -EINVAL)
    else
      match readPinNum (s.drop 2) with
      | none => (0, -EINVAL)
      | some pin_num =>
        match portSwitch port with
        | none => (0, -EINVAL)
        | some port_base =>
          match pinSwitch pin_num with
          | none => (0, -EINVAL)
          | some gpio_pin => (mode ||| port_base ||| gpio_pin, 0)

namespace Spi

/-- The port switch of `stm32_spi.c`. -/
def portSwitch : Char → Option ℕ
  | 'A' => some (GPIO_PORT 0)
  | 'B' => some (GPIO_PORT 1)
  | 'C' => some (GPIO_PORT 2)
  | 'D' => some (GPIO_PORT 3)
  | 'E' => some (GPIO_PORT 4)
  | 'F' => some (GPIO_PORT 5)
  | 'G' => some (GPIO_PORT 6)
  | 'H' => some (GPIO_PORT 7)
  | _ => none

/-- Chip selects are outputs that start high, that is deasserted. -/
def csMode : ℕ := GPIO_OUTPUT ||| GPIO_OUTPUT_SET

def parse_gpio_pin (pin_str : List Char) : ℕ × ℤ := parseGpioPin portSwitch csMode pin_str

end Spi

namespace Buttons

/-- The port switch of `stm32_buttons.c`: `case 'H'` sets `GPIO_PORTH` and, having no
`break`, falls into `default`, which rejects. -/
def portSwitch : Char → Option ℕ
  | 'A' => some (GPIO_PORT 0)
  | 'B' => some (GPIO_PORT 1)
  | 'C' => some (GPIO_PORT 2)
  | 'D' => some (GPIO_PORT 3)
  | 'E' => some (GPIO_PORT 4)
  | 'F' => some (GPIO_PORT 5)
  | 'G' => some (GPIO_PORT 6)
  | _ => none

def buttonMode : ℕ := GPIO_INPUT ||| GPIO_FLOAT ||| GPIO_EXTI

def parse_gpio_pin (pin_str : List Char) : ℕ × ℤ := parseGpioPin portSwitch buttonMode pin_str

end Buttons

/-- The pin numbers that `strtol` reads completely from the one or two characters after the
port letter and that pass the range check. -/
def pinNumber : List Char → Option ℕ
  | [a] =>
    if a.isDigit then some (digitValue a)
    else if isspace a then some 0
    else none
  | [a, b] =>
    if a.isDigit ∧ b.isDigit then
      if 10 * digitValue a + digitValue b ≤ 15 then some (10 * digitValue a + digitValue b)
      else none
    else if (isspace a ∨ a = '+') ∧ b.isDigit then some (digitValue b)
    else if a = '-' ∧ b = '0' then some 0
    else if isspace a ∧ isspace b then some 0
    else none
  | _ => none

/-- The pin-name grammar: after leading spaces and tabs, `P`, a port letter from `A` to `H`,
and a pin number. The result is the port letter and the pin number. -/
def decodePinName (s : List Char) : Option (Char × ℕ) :=
  match s.dropWhile isBlank with
  | x :: c :: t => if x = 'P' ∧ 'A' ≤ c ∧ c ≤ 'H' then (pinNumber t).map (c, ·) else none
  | _ => none

theorem toNat_le_of_le {c d : Char} (h : c ≤ d) : c.toNat ≤ d.toNat := by
  rw [Char.le_def] at h
  exact UInt32.le_iff_toNat_le.mp h

theorem port_letter_cases {c : Char} (h1 : 'A' ≤ c) (h2 : c ≤ 'H') :
    c = 'A' ∨ c = 'B' ∨ c = 'C' ∨ c = 'D' ∨ c = 'E' ∨ c = 'F' ∨ c = 'G' ∨ c = 'H' := by
  have h1' := toNat_le_of_le h1
  have h2' := toNat_le_of_le h2
  have hA : 'A'.toNat = 65 := rfl
  have hH : 'H'.toNat = 72 := rfl
  simp only [← Char.toNat_inj]
  show c.toNat = 65 ∨ c.toNat = 66 ∨ c.toNat = 67 ∨ c.toNat = 68 ∨ c.toNat = 69 ∨
    c.toNat = 70 ∨ c.toNat = 71 ∨ c.toNat = 72
  omega

theorem pinNumber_le {t : List Char} {n : ℕ} (h : pinNumber t = some n) : n ≤ 15 := by
  match t with
  | [a] =>
    simp only [pinNumber] at h
    split_ifs at h with hd
    · cases h
      have := digitValue_lt hd
      omega
    · cases h
      omega
  | [a, b] =>
    simp only [pinNumber] at h
    split_ifs at h with h1 h2 h3 <;> cases h
    · exact h2
    · have := digitValue_lt h3.2
      omega
    all_goals omega

theorem pinNumber_cons_of_isspace {a : Char} (b : Char) (ha : isspace a) :
    pinNumber [a, b] = pinNumber [b] := by
  obtain ⟨-, hd, -, hm⟩ : isspace a ∧ a.isDigit = false ∧ a ≠ '+' ∧ a ≠ '-' := by
    rcases char_cases a with h | rfl | rfl | ⟨-, hs, -, -⟩ | ⟨hs, -, -, -⟩ <;> simp_all
  rcases char_cases b with ⟨hs', hd', -, -⟩ | rfl | rfl | ⟨hd', -, -, -⟩ | ⟨hs', hd', -, -⟩ <;>
    simp [pinNumber, *]

theorem readPinNum_nil : readPinNum [] = some 0 := rfl

theorem readPinNum_cons_of_isspace {a : Char} (t : List Char) (ha : isspace a) :
    readPinNum (a :: t) = readPinNum t := by
  simp only [readPinNum, strtol_cons_of_isspace t 10 ha, List.length_cons,
    Nat.add_lt_add_iff_right]

theorem readPinNum_single (a : Char) : readPinNum [a] = (pinNumber [a]).map (↑) := by
  rcases char_cases a with ⟨hs, hd, -, -⟩ | rfl | rfl | ⟨hd, hs, -, -⟩ | ⟨hs, hd, hp, hm⟩
  · rw [readPinNum_cons_of_isspace [] hs, readPinNum_nil]
    simp [pinNumber, hs, hd]
  · simp [readPinNum, pinNumber, strtol_sign (Or.inl rfl)]
  · simp [readPinNum, pinNumber, strtol_sign (Or.inr rfl)]
  · have := digitValue_lt hd
    simp [readPinNum, pinNumber, strtol_digit hd, hd]
    omega
  · simp [readPinNum, pinNumber, strtol_cons_other [] hs hd hp hm, hs, hd]

theorem readPinNum_pair (a b : Char) : readPinNum [a, b] = (pinNumber [a, b]).map (↑) := by
  rcases char_cases a with ⟨hs, -, -, -⟩ | rfl | rfl | ⟨hd, hs, hp, hm⟩ | ⟨hs, hd, hp, hm⟩
  · rw [readPinNum_cons_of_isspace [b] hs, pinNumber_cons_of_isspace b hs, readPinNum_single]
  · cases hb : b.isDigit
    · simp [readPinNum, pinNumber, strtol_sign_other (Or.inl rfl) hb, hb]
    · have := digitValue_lt hb
      simp [readPinNum, pinNumber, strtol_sign_digit (Or.inl rfl) hb, hb]
      omega
  · cases hb : b.isDigit
    · simp [readPinNum, pinNumber, strtol_sign_other (Or.inr rfl) hb, hb, ne_zero_char hb]
    · by_cases h0 : digitValue b = 0
      · simp [readPinNum, pinNumber, strtol_sign_digit (Or.inr rfl) hb, hb, eq_zero_char_iff hb, h0]
      · have hpos : 0 < digitValue b := Nat.pos_of_ne_zero h0
        simp [readPinNum, pinNumber, strtol_sign_digit (Or.inr rfl) hb, hb, eq_zero_char_iff hb,
          h0, hpos]
  · cases hb : b.isDigit
    · simp [readPinNum, pinNumber, strtol_digit_other hd hb, hd, hb, hs, hm]
    · have := digitValue_lt hd
      have := digitValue_lt hb
      by_cases h15 : 10 * digitValue a + digitValue b ≤ 15
      · simp [readPinNum, pinNumber, strtol_digit_digit hd hb, hd, hb, h15]
        omega
      · simp [readPinNum, pinNumber, strtol_digit_digit hd hb, hd, hb, h15]
        omega
  · simp [readPinNum, pinNumber, strtol_cons_other [b] hs hd hp hm, hs, hd, hp, hm]

theorem readPinNum_eq {t : List Char} (h1 : 1 ≤ t.length) (h2 : t.length ≤ 2) :
    readPinNum t = (pinNumber t).map (↑) := by
  match t, h1, h2 with
  | [a], _, _ => exact readPinNum_single a
  | [a, b], _, _ => exact readPinNum_pair a b

theorem pinNumber_eq_none {t : List Char} (h : t.length = 0 ∨ 2 < t.length) :
    pinNumber t = none := by
  match t, h with
  | [], _ => rfl
  | _ :: _ :: _ :: _, _ => rfl

theorem pinSwitch_of_le {n : ℕ} (h : n ≤ 15) : pinSwitch n = some (GPIO_PIN n) := by
  simp [pinSwitch, h]

/-- Both parsers accept exactly the names of the grammar whose port letter their switch
knows, and build the word from the letter's `port_base` and the pin number. -/
theorem parseGpioPin_eq (portSwitch : Char → Option ℕ) (mode : ℕ) (s : List Char) :
    parseGpioPin portSwitch mode s =
      match decodePinName s with
      | none => (0, -EINVAL)
      | some (c, n) =>
        match portSwitch c with
        | none => (0, -EINVAL)
        | some port_base => (mode ||| port_base ||| GPIO_PIN n, 0) := by
  unfold parseGpioPin decodePinName
  generalize s.dropWhile isBlank = u
  match u with
  | [] => simp
  | [_] => simp
  | x :: c :: t =>
    simp only [List.length_cons, charAt_cons_zero, charAt_cons_succ, List.drop_succ_cons,
      List.drop_zero]
    by_cases hl : t.length = 0 ∨ 2 < t.length
    · rw [if_pos (by omega), pinNumber_eq_none hl]
      simp
    rw [if_neg (by omega)]
    by_cases hx : x = 'P'
    · by_cases hc : 'A' ≤ c ∧ c ≤ 'H'
      · rw [if_neg (by simpa using hx), if_neg (by simpa [not_lt] using hc),
          if_pos ⟨hx, hc⟩, readPinNum_eq (by omega) (by omega)]
        cases hn : pinNumber t with
        | none => rfl
        | some n =>
          simp only [Option.map_some, pinSwitch_of_le (pinNumber_le hn)]
      · have hc' : c < 'A' ∨ c > 'H' := by
          by_cases h1 : 'A' ≤ c
          · exact Or.inr (lt_of_not_ge fun h2 => hc ⟨h1, h2⟩)
          · exact Or.inl (lt_of_not_ge h1)
        rw [if_neg (by simpa using hx), if_pos hc', if_neg (by tauto)]
    · rw [if_pos (by simpa using hx), if_neg (by tauto)]

theorem decodePinName_port {s : List Char} {c : Char} {n : ℕ}
    (h : decodePinName s = some (c, n)) : 'A' ≤ c ∧ c ≤ 'H' ∧ n ≤ 15 := by
  unfold decodePinName at h
  split at h
  · rename_i x c' t _
    split_ifs at h with hx
    obtain ⟨n', hn', he⟩ := Option.map_eq_some_iff.mp h
    cases he
    exact ⟨hx.2.1, hx.2.2, pinNumber_le hn'⟩
  · cases h

/-- The bits an accepting call returns: the parser's mode, the port `c - 'A'` and the pin `n`,
so that the port and pin fields read back `c - 'A'` and `n`. -/
def Accepted (mode : ℕ) (c : Char) (n : ℕ) (r : ℕ × ℤ) : Prop :=
  r.2 = 0 ∧ r.1 = mode ||| GPIO_PORT (c.toNat - 'A'.toNat) ||| GPIO_PIN n ∧
    portOf r.1 = c.toNat - 'A'.toNat ∧ pinOf r.1 = n

theorem port_index_lt {c : Char} (h2 : c ≤ 'H') : c.toNat - 'A'.toNat < 8 := by
  have h2' := toNat_le_of_le h2
  have hH : 'H'.toNat = 72 := rfl
  have hA : 'A'.toNat = 65 := rfl
  omega

theorem accepted_of_word {mode : ℕ} {c : Char} {n : ℕ} (hm : mode % 256 = 0)
    (h2 : c ≤ 'H') (hn : n ≤ 15) :
    Accepted mode c n (mode ||| GPIO_PORT (c.toNat - 'A'.toNat) ||| GPIO_PIN n, 0) := by
  have hp := port_index_lt h2
  exact ⟨rfl, rfl, portOf_word hm (by omega) (by omega), pinOf_word hm (by omega) (by omega)⟩

namespace Spi

theorem portSwitch_of_le {c : Char} (h1 : 'A' ≤ c) (h2 : c ≤ 'H') :
    portSwitch c = some (GPIO_PORT (c.toNat - 'A'.toNat)) := by
  rcases port_letter_cases h1 h2 with rfl | rfl | rfl | rfl | rfl | rfl | rfl | rfl <;> rfl

theorem csMode_mod : csMode % 256 = 0 := rfl

theorem drive_configgpio_word {p n : ℕ} (hp : p < 16) (hn : n < 16) :
    (GpioOp.configgpio (csMode ||| GPIO_PORT p ||| GPIO_PIN n)).drive =
      some (csMode ||| GPIO_PORT p ||| GPIO_PIN n, true) := by
  have hwords : ∀ p < 16, ∀ n < 16, (GpioOp.configgpio (csMode ||| GPIO_PORT p ||| GPIO_PIN n)).drive =
      some (csMode ||| GPIO_PORT p ||| GPIO_PIN n, true) := by decide
  exact hwords p hp n hn

theorem parse_gpio_pin_eq (s : List Char) :
    parse_gpio_pin s =
      match decodePinName s with
      | none => (0, -EINVAL)
      | some (c, n) => (csMode ||| GPIO_PORT (c.toNat - 'A'.toNat) ||| GPIO_PIN n, 0) := by
  rw [parse_gpio_pin, parseGpioPin_eq]
  cases hd : decodePinName s with
  | none => rfl
  | some cn =>
    obtain ⟨h1, h2, -⟩ := decodePinName_port hd
    simp only [portSwitch_of_le h1 h2]

end Spi

namespace Buttons

theorem portSwitch_of_le {c : Char} (h1 : 'A' ≤ c) (h2 : c ≤ 'H') (hH : c ≠ 'H') :
    portSwitch c = some (GPIO_PORT (c.toNat - 'A'.toNat)) := by
  rcases port_letter_cases h1 h2 with rfl | rfl | rfl | rfl | rfl | rfl | rfl | rfl
  all_goals first | rfl | exact absurd rfl hH

theorem buttonMode_mod : buttonMode % 256 = 0 := rfl

theorem parse_gpio_pin_eq (s : List Char) :
    parse_gpio_pin s =
      match decodePinName s with
      | none => (0, -EINVAL)
      | some (c, n) =>
        if c = 'H' then (0, -EINVAL)
        else (buttonMode ||| GPIO_PORT (c.toNat - 'A'.toNat) ||| GPIO_PIN n, 0) := by
  rw [parse_gpio_pin, parseGpioPin_eq]
  cases hd : decodePinName s with
  | none => rfl
  | some cn =>
    obtain ⟨c, n⟩ := cn
    obtain ⟨h1, h2, -⟩ := decodePinName_port hd
    by_cases hH : c = 'H'
    · subst hH
      rfl
    · simp only [portSwitch_of_le h1 h2 hH, hH, if_false]

end Buttons

/-- Both parsers accept exactly the names `decodePinName` reads, the button parser on ports A
to G, with the word of that port and pin under their own mode bits; everything else is
rejected with `-EINVAL` and the value 0. -/
theorem parse_gpio_pin_decoded (s : List Char) :
    (decodePinName s = none →
      Spi.parse_gpio_pin s = (0, -EINVAL) ∧ Buttons.parse_gpio_pin s = (0, -EINVAL)) ∧
    ∀ c n, decodePinName s = some (c, n) →
      Accepted Spi.csMode c n (Spi.parse_gpio_pin s) ∧
        (c ≠ 'H' → Accepted Buttons.buttonMode c n (Buttons.parse_gpio_pin s)) := by
  refine ⟨fun hd => ?_, fun c n hd => ?_⟩
  · rw [Spi.parse_gpio_pin_eq, Buttons.parse_gpio_pin_eq, hd]
    exact ⟨rfl, rfl⟩
  · obtain ⟨-, h2, hn⟩ := decodePinName_port hd
    rw [Spi.parse_gpio_pin_eq, Buttons.parse_gpio_pin_eq, hd]
    refine ⟨accepted_of_word Spi.csMode_mod h2 hn, fun hH => ?_⟩
    dsimp only
    rw [if_neg hH]
    exact accepted_of_word Buttons.buttonMode_mod h2 hn

/-- `strtol` takes the sign in `"PA+1"`, so the SPI parser accepts a name whose third
character is not a digit. -/
theorem parse_gpio_pin_accepts_sign :
    '+'.isDigit = false ∧ Spi.parse_gpio_pin ['P', 'A', '+', '1'] = (Spi.csMode ||| GPIO_PIN 1, 0) := by
  decide

/-- The button parser rejects every port-H name, which the SPI parser accepts. -/
theorem parse_gpio_pin_rejects_port_H {s : List Char} {n : ℕ}
    (h : decodePinName s = some ('H', n)) :
    Buttons.parse_gpio_pin s = (0, -EINVAL) ∧ (Spi.parse_gpio_pin s).2 = 0 := by
  rw [Buttons.parse_gpio_pin_eq, Spi.parse_gpio_pin_eq, h]
  exact ⟨rfl, rfl⟩

theorem parse_gpio_pin_rejects_PH0 :
    decodePinName ['P', 'H', '0'] = some ('H', 0) ∧
      Buttons.parse_gpio_pin ['P', 'H', '0'] = (0, -EINVAL) ∧
      (Spi.parse_gpio_pin ['P', 'H', '0']).2 = 0 :=
  have h : decodePinName ['P', 'H', '0'] = some ('H', 0) := by decide
  ⟨h, parse_gpio_pin_rejects_port_H h⟩

end NucleoH753zi
