import NucleoH753zi.PinName
import NucleoH753zi.Tokenize
import Mathlib.Data.List.Nodup

/-!
# Buttons: `stm32_buttons.c`

`init_button_configs` fills `g_buttons[0 .. g_button_count)` from the board options: the
built-in button first when it is included, then one word per token of the pin list. It cuts a
511-character copy of the list into tokens twice: once to count them against the number
expected, once to parse them, rejecting a token that does not parse or whose word is already a
button. `board_button_initialize` then configures every button. Only the first
`g_button_count` entries of `g_buttons` are ever read, so the model keeps those entries.

None of the error paths sets `g_button_count` back to 0, and `board_button_initialize`
returns 0 on failure with the buttons recorded so far still in place; `board_buttons` and
`board_button_irq` go on using them.
-/

namespace NucleoH753zi.Buttons

open Libc Tokenize

/-- The board options: `CONFIG_NUCLEO_H753ZI_BUTTON_COUNT`, whose Kconfig range is 1 to 32,
`CONFIG_NUCLEO_H753ZI_BUTTON_BUILTIN` and `CONFIG_NUCLEO_H753ZI_BUTTON_PINS`. -/
structure ButtonConfig where
  count : ℕ
  count_pos : 1 ≤ count
  count_le : count ≤ 32
  builtin : Bool
  pins : List Char

/-- The blue user button on `PC13`. -/
def GPIO_BTN_BUILT_IN : ℕ := GPIO_INPUT ||| GPIO_FLOAT ||| GPIO_EXTI ||| GPIO_PORT 2 ||| GPIO_PIN 13

def PINS_STR_SIZE : ℕ := 512

def btnDelims : List Char := [',', ' ', '\t', '\n', '\r']

def builtinButtons (cfg : ButtonConfig) : List ℕ := if cfg.builtin then [GPIO_BTN_BUILT_IN] else []

def expectedPins (cfg : ButtonConfig) : ℕ := if cfg.builtin then cfg.count - 1 else cfg.count

/-- The tokens of the 511-character copy of the list. -/
def buttonTokens (cfg : ButtonConfig) : List (List Char) :=
  tokens (strchr btnDelims) (cfg.pins.take (PINS_STR_SIZE - 1))

def word (pin : List Char) : ℕ := (parse_gpio_pin pin).1

def Accepts (pin : List Char) : Prop := (parse_gpio_pin pin).2 = 0

instance : DecidablePred Accepts := fun t => inferInstanceAs (Decidable ((parse_gpio_pin t).2 = 0))

/-- One iteration of the second pass: the token is parsed, and its word is appended unless it
is already a button. -/
def buttonStep (g_buttons : List ℕ) (pin : List Char) : Except ℤ (List ℕ) :=
  let r := parse_gpio_pin pin
  if r.2 ≠ 0 then .error (-EINVAL)
  else if g_buttons.contains r.1 then .error (-EINVAL)
  else .ok (g_buttons ++ [r.1])

/-- `init_button_configs ()`: `g_buttons[0 .. g_button_count)` afterwards and the value
returned. -/
def init_button_configs (cfg : ButtonConfig) : List ℕ × ℤ :=
  let g_buttons := if cfg.builtin then [GPIO_BTN_BUILT_IN] else []
  let expected_pins := if cfg.builtin then cfg.count - 1 else cfg.count
  if expected_pins = 0 then (g_buttons, OK)
  else if cfg.pins.length = 0 then (g_buttons, -EINVAL)
  else
    let pins_str := strncpy cfg.pins (PINS_STR_SIZE - 1)
    let provided_pins := countTokens (strchr btnDelims) pins_str
    if provided_pins ≠ expected_pins then (g_buttons, -EINVAL)
    else
      -- the loop runs while `g_button_count < CONFIG_NUCLEO_H753ZI_BUTTON_COUNT`
      match scan (strchr btnDelims) buttonStep (cfg.count - g_buttons.length) g_buttons
          pins_str with
      | (g_buttons, none) => (g_buttons, OK)
      | (g_buttons, some error) => (g_buttons, error)

/-- The loop of `board_button_initialize` over the buttons: the calls made, and whether every
call succeeded. -/
def configButtons (configgpio : ℕ → ℤ) : List ℕ → List GpioOp × Bool
  | [] => ([], true)
  | w :: ws =>
    if configgpio w < 0 then ([.configgpio w], false)
    else
      let r := configButtons configgpio ws
      (.configgpio w :: r.1, r.2)

/-- `board_button_initialize ()`, with `stm32_configgpio` as a parameter: the buttons
afterwards, the calls made and the value returned. -/
def board_button_initialize (cfg : ButtonConfig) (configgpio : ℕ → ℤ) :
    List ℕ × List GpioOp × ℕ :=
  let r := init_button_configs cfg
  if r.2 < 0 then (r.1, [], 0)
  else
    let c := configButtons configgpio r.1
    if c.2 then (r.1, c.1, r.1.length) else (r.1, c.1, 0)

/-- The loop of `board_buttons` from button `i` on, with the bits set so far. -/
def readButtons (gpioread : ℕ → Bool) : ℕ → List ℕ → UInt32 → UInt32
  | _, [], ret => ret
  | i, w :: ws, ret =>
    readButtons gpioread (i + 1) ws (if gpioread w then ret ||| (1 <<< UInt32.ofNat i) else ret)

def board_buttons (g_buttons : List ℕ) (gpioread : ℕ → Bool) : UInt32 :=
  readButtons gpioread 0 g_buttons 0

/-- `board_button_irq (id, irqhandler, arg)`, with `stm32_gpiosetevent` as a parameter: the
value returned and the pins passed to `stm32_gpiosetevent`. -/
def board_button_irq (g_buttons : List ℕ) (gpiosetevent : ℕ → ℤ) (id : ℤ) : ℤ × List ℕ :=
  if h : 0 ≤ id ∧ id.toNat < g_buttons.length then
    let pin := g_buttons.get ⟨id.toNat, h.2⟩
    (gpiosetevent pin, [pin])
  else (-EINVAL, [])

section Step

variable {g_buttons : List ℕ} {pin : List Char}

theorem buttonStep_of_not_accepts (h : ¬ Accepts pin) : buttonStep g_buttons pin = .error (-EINVAL) := by
  have h' : (parse_gpio_pin pin).2 ≠ 0 := h
  simp only [buttonStep, if_pos h']

theorem buttonStep_of_mem (ha : Accepts pin) (hm : word pin ∈ g_buttons) :
    buttonStep g_buttons pin = .error (-EINVAL) := by
  have ha' : ¬ (parse_gpio_pin pin).2 ≠ 0 := not_not.mpr ha
  have hc : g_buttons.contains (parse_gpio_pin pin).1 = true := List.contains_iff_mem.mpr hm
  simp only [buttonStep, if_neg ha', hc, if_true]

theorem buttonStep_of_not_mem (ha : Accepts pin) (hm : word pin ∉ g_buttons) :
    buttonStep g_buttons pin = .ok (g_buttons ++ [word pin]) := by
  have hc : g_buttons.contains (parse_gpio_pin pin).1 = false := by
    rw [Bool.eq_false_iff, ne_eq, List.contains_iff_mem]
    exact hm
  have ha' : ¬ (parse_gpio_pin pin).2 ≠ 0 := not_not.mpr ha
  simp only [buttonStep, if_neg ha', hc, Bool.false_eq_true, if_false]
  rfl

end Step

section Pass

variable {ts : List (List Char)}

theorem foldSteps_buttonStep_of_ok (g_buttons : List ℕ) (ha : ∀ t ∈ ts, Accepts t)
    (hn : (g_buttons ++ ts.map word).Nodup) :
    foldSteps buttonStep g_buttons ts = (g_buttons ++ ts.map word, none) := by
  induction ts generalizing g_buttons with
  | nil => simp
  | cons t ts ih =>
    have hm : word t ∉ g_buttons := by
      intro hm
      rw [List.map_cons, List.nodup_append] at hn
      exact hn.2.2 _ hm _ List.mem_cons_self rfl
    rw [foldSteps_cons, buttonStep_of_not_mem (ha t List.mem_cons_self) hm]
    dsimp only
    rw [ih _ (fun t' ht' => ha t' (List.mem_cons_of_mem _ ht'))]
    · simp
    · simpa using hn

theorem foldSteps_buttonStep_snd_eq_none_iff {g_buttons : List ℕ} (hbs : g_buttons.Nodup) :
    (foldSteps buttonStep g_buttons ts).2 = none ↔
      (∀ t ∈ ts, Accepts t) ∧ (g_buttons ++ ts.map word).Nodup := by
  induction ts generalizing g_buttons with
  | nil => simpa using hbs
  | cons t ts ih =>
    rw [foldSteps_cons]
    by_cases ha : Accepts t
    · by_cases hm : word t ∈ g_buttons
      · -- a repeated word stops the pass
        rw [buttonStep_of_mem ha hm]
        simp only [reduceCtorEq, false_iff, not_and]
        intro _ hn
        rw [List.map_cons, List.nodup_append] at hn
        exact hn.2.2 _ hm _ List.mem_cons_self rfl
      · rw [buttonStep_of_not_mem ha hm]
        dsimp only
        have hbs' : (g_buttons ++ [word t]).Nodup :=
          by
            rw [← List.concat_eq_append]
            exact hbs.concat hm
        rw [ih hbs']
        simp [ha]
    · rw [buttonStep_of_not_accepts ha]
      simp only [reduceCtorEq, false_iff, not_and]
      exact fun hall => absurd (hall t List.mem_cons_self) ha

theorem foldSteps_buttonStep_snd (g_buttons : List ℕ) (ts : List (List Char)) :
    (foldSteps buttonStep g_buttons ts).2 = none ∨
      (foldSteps buttonStep g_buttons ts).2 = some (-EINVAL) := by
  induction ts generalizing g_buttons with
  | nil => exact Or.inl rfl
  | cons t ts ih =>
    rw [foldSteps_cons]
    by_cases ha : Accepts t
    · by_cases hm : word t ∈ g_buttons
      · rw [buttonStep_of_mem ha hm]
        exact Or.inr rfl
      · rw [buttonStep_of_not_mem ha hm]
        exact ih _
    · rw [buttonStep_of_not_accepts ha]
      exact Or.inr rfl

theorem foldSteps_buttonStep_fst {g_buttons : List ℕ} (hbs : g_buttons.Nodup) (ts : List (List Char)) :
    (∃ k, (foldSteps buttonStep g_buttons ts).1 = g_buttons ++ (ts.take k).map word) ∧
      (foldSteps buttonStep g_buttons ts).1.Nodup := by
  refine ⟨?_, foldSteps_invariant buttonStep List.Nodup ?_ hbs⟩
  · induction ts generalizing g_buttons with
    | nil => exact ⟨0, by simp⟩
    | cons t ts ih =>
      rw [foldSteps_cons]
      by_cases ha : Accepts t
      · by_cases hm : word t ∈ g_buttons
        · rw [buttonStep_of_mem ha hm]
          exact ⟨0, by simp⟩
        · rw [buttonStep_of_not_mem ha hm]
          have hbs' : (g_buttons ++ [word t]).Nodup :=
            by
            rw [← List.concat_eq_append]
            exact hbs.concat hm
          obtain ⟨k, hk⟩ := ih hbs'
          exact ⟨k + 1, by rw [hk]; simp⟩
      · rw [buttonStep_of_not_accepts ha]
        exact ⟨0, by simp⟩
  · intro bs t bs' _ hbs hstep
    by_cases ha : Accepts t
    · by_cases hm : word t ∈ bs
      · rw [buttonStep_of_mem ha hm] at hstep
        cases hstep
      · rw [buttonStep_of_not_mem ha hm] at hstep
        cases hstep
        exact by
            rw [← List.concat_eq_append]
            exact hbs.concat hm
    · rw [buttonStep_of_not_accepts ha] at hstep
      cases hstep

end Pass

theorem builtinButtons_length_add (cfg : ButtonConfig) :
    (builtinButtons cfg).length + expectedPins cfg = cfg.count := by
  have := cfg.count_pos
  unfold builtinButtons expectedPins
  cases cfg.builtin
  · simp
  · simp only [if_true, List.length_singleton]
    omega

theorem builtinButtons_nodup (cfg : ButtonConfig) : (builtinButtons cfg).Nodup := by
  unfold builtinButtons
  split
  · exact List.nodup_singleton _
  · exact List.nodup_nil

/-- `init_button_configs` through the tokens of the copy: the early exit when no pin is
expected, the count check, then the second pass over all the tokens. -/
theorem init_button_configs_eq (cfg : ButtonConfig) :
    init_button_configs cfg =
      if expectedPins cfg = 0 then (builtinButtons cfg, OK)
      else if (buttonTokens cfg).length ≠ expectedPins cfg then (builtinButtons cfg, -EINVAL)
      else
        match foldSteps buttonStep (builtinButtons cfg) (buttonTokens cfg) with
        | (g_buttons, none) => (g_buttons, OK)
        | (g_buttons, some error) => (g_buttons, error) := by
  rw [init_button_configs]
  dsimp only
  rw [show (if cfg.builtin = true then cfg.count - 1 else cfg.count) = expectedPins cfg from rfl,
    show (if cfg.builtin = true then [GPIO_BTN_BUILT_IN] else []) = builtinButtons cfg from rfl]
  by_cases h0 : expectedPins cfg = 0
  · rw [if_pos h0, if_pos h0]
  rw [if_neg h0, if_neg h0]
  by_cases hlen : cfg.pins.length = 0
  · -- an empty list has no token, and some pin is expected
    have hnil : buttonTokens cfg = [] := by
      rw [buttonTokens, List.length_eq_zero_iff.mp hlen]
      rfl
    rw [if_pos hlen, hnil, if_pos (by simpa using Ne.symm h0)]
  rw [if_neg hlen]
  simp only [strncpy, countTokens_eq]
  rw [show tokens (strchr btnDelims) (cfg.pins.take (PINS_STR_SIZE - 1)) = buttonTokens cfg from rfl]
  by_cases hcount : (buttonTokens cfg).length ≠ expectedPins cfg
  · rw [if_pos hcount, if_pos hcount]
  rw [if_neg hcount, if_neg hcount]
  have hbudget : cfg.count - (builtinButtons cfg).length = (buttonTokens cfg).length := by
    have := builtinButtons_length_add cfg
    omega
  rw [hbudget, scan_eq_foldSteps, show tokens (strchr btnDelims) (cfg.pins.take (PINS_STR_SIZE - 1)) =
    buttonTokens cfg from rfl, List.take_length]

/-- When no pin is expected the list is not read and the built-in button is the only one.
Otherwise the list is read through its 511-character copy: `init_button_configs` returns `OK`
exactly when the copy has as many tokens as expected, each parses, and the words with the
built-in one are distinct; it then holds the built-in button and the words of the tokens in
order, as many as the button count; else it returns `-EINVAL`. -/
theorem init_button_configs_validates (cfg : ButtonConfig) :
    (expectedPins cfg = 0 →
      init_button_configs cfg = (builtinButtons cfg, OK) ∧ (builtinButtons cfg).length = cfg.count) ∧
    (expectedPins cfg ≠ 0 →
      ((init_button_configs cfg).2 = OK ↔
        (buttonTokens cfg).length = expectedPins cfg ∧ (∀ t ∈ buttonTokens cfg, Accepts t) ∧
          (builtinButtons cfg ++ (buttonTokens cfg).map word).Nodup) ∧
      ((init_button_configs cfg).2 = OK →
        (init_button_configs cfg).1 = builtinButtons cfg ++ (buttonTokens cfg).map word ∧
          (init_button_configs cfg).1.length = cfg.count) ∧
      ((init_button_configs cfg).2 ≠ OK → (init_button_configs cfg).2 = -EINVAL)) := by
  have hcount := builtinButtons_length_add cfg
  have hne : (-EINVAL : ℤ) ≠ OK := by decide
  rw [init_button_configs_eq]
  refine ⟨fun h0 => ?_, fun h0 => ?_⟩
  · rw [if_pos h0]
    exact ⟨rfl, by omega⟩
  rw [if_neg h0]
  by_cases hc : (buttonTokens cfg).length ≠ expectedPins cfg
  · rw [if_pos hc]
    exact ⟨iff_of_false hne (fun h => hc h.1), fun h => absurd h hne, fun _ => rfl⟩
  rw [if_neg hc]
  have hlen : (buttonTokens cfg).length = expectedPins cfg := not_not.mp hc
  by_cases hok : (∀ t ∈ buttonTokens cfg, Accepts t) ∧
      (builtinButtons cfg ++ (buttonTokens cfg).map word).Nodup
  · -- every token passes: the pass appends all the words
    rw [foldSteps_buttonStep_of_ok _ hok.1 hok.2]
    refine ⟨iff_of_true rfl ⟨hlen, hok⟩, fun _ => ⟨rfl, ?_⟩, fun h => absurd rfl h⟩
    rw [List.length_append, List.length_map, hlen, hcount]
  · -- some token fails: the pass stops with `-EINVAL`
    have hsome : (foldSteps buttonStep (builtinButtons cfg) (buttonTokens cfg)).2 = some (-EINVAL) :=
      (foldSteps_buttonStep_snd _ _).resolve_left
        (fun h => hok ((foldSteps_buttonStep_snd_eq_none_iff (builtinButtons_nodup cfg)).mp h))
    generalize foldSteps buttonStep (builtinButtons cfg) (buttonTokens cfg) = r at hsome
    obtain ⟨bs, e⟩ := r
    cases hsome
    exact ⟨iff_of_false hne (fun h => hok h.2), fun h => absurd h hne, fun _ => rfl⟩

/-- With the built-in button and a count of 1 no pin is expected, and a list with a pin in it
is accepted without being read. And two pins after 508 spaces: the 511-character copy keeps only
the first, so the count check fails although the list names both. -/
theorem init_button_configs_skips_list :
    (tokens (strchr btnDelims) ['P', 'A', '0']).length = 1 ∧
      init_button_configs ⟨1, le_refl 1, by decide, true, ['P', 'A', '0']⟩ =
        ([GPIO_BTN_BUILT_IN], OK) ∧
      tokens (strchr btnDelims) (List.replicate 508 ' ' ++ ['P', 'A', '0', ',', 'P', 'A', '1']) =
        [['P', 'A', '0'], ['P', 'A', '1']] ∧
      init_button_configs ⟨2, by decide, by decide, false,
        List.replicate 508 ' ' ++ ['P', 'A', '0', ',', 'P', 'A', '1']⟩ = ([], -EINVAL) := by
  have hspaces : ∀ x ∈ List.replicate 508 ' ', strchr btnDelims x := by
    intro x hx
    rw [List.eq_of_mem_replicate hx]
    decide
  have hcopy : (List.replicate 508 ' ' ++ ['P', 'A', '0', ',', 'P', 'A', '1']).take (PINS_STR_SIZE - 1) =
      List.replicate 508 ' ' ++ ['P', 'A', '0'] := by
    have hlen : (List.replicate 508 ' ').length ≤ PINS_STR_SIZE - 1 := by
      rw [List.length_replicate]
      decide
    rw [List.take_append, List.take_of_length_le hlen, List.length_replicate]
    rfl
  refine ⟨by decide, by decide, ?_, ?_⟩
  · rw [tokens_append_of_delims _ _ hspaces]
    decide
  · let cfg : ButtonConfig :=
      ⟨2, by decide, by decide, false, List.replicate 508 ' ' ++ ['P', 'A', '0', ',', 'P', 'A', '1']⟩
    have htok : buttonTokens cfg = [['P', 'A', '0']] := by
      show tokens (strchr btnDelims)
        ((List.replicate 508 ' ' ++ ['P', 'A', '0', ',', 'P', 'A', '1']).take (PINS_STR_SIZE - 1)) = _
      rw [hcopy, tokens_append_of_delims _ _ hspaces]
      decide
    have h0 : expectedPins cfg ≠ 0 := by decide
    have hc : (buttonTokens cfg).length ≠ expectedPins cfg := by
      rw [htok]
      decide
    rw [show init_button_configs ⟨2, by decide, by decide, false,
        List.replicate 508 ' ' ++ ['P', 'A', '0', ',', 'P', 'A', '1']⟩ = init_button_configs cfg from rfl,
      init_button_configs_eq, if_neg h0, if_pos hc]
    rfl

/-- Two buttons and the built-in one, with a list of two pins where one is expected: the
count check fails and `board_button_initialize` returns 0, but the built-in button stays
recorded, so `board_buttons` reports it and `board_button_irq (0, ...)` registers a handler
for it. -/
theorem board_button_initialize_keeps_builtin (configgpio : ℕ → ℤ) (gpioread : ℕ → Bool)
    (gpiosetevent : ℕ → ℤ) :
    ( board_button_initialize ⟨2, by decide, by decide, true, ['P', 'A', '0', ',', 'P', 'A', '1']⟩
        configgpio).2.2 = 0 ∧
      ( board_button_initialize ⟨2, by decide, by decide, true, ['P', 'A', '0', ',', 'P', 'A', '1']⟩
        configgpio).1 = [GPIO_BTN_BUILT_IN] ∧
      board_buttons [GPIO_BTN_BUILT_IN] gpioread = (if gpioread GPIO_BTN_BUILT_IN then 1 else 0) ∧
      board_button_irq [GPIO_BTN_BUILT_IN] gpiosetevent 0 =
        (gpiosetevent GPIO_BTN_BUILT_IN, [GPIO_BTN_BUILT_IN]) := by
  have hinit : init_button_configs ⟨2, by decide, by decide, true,
      ['P', 'A', '0', ',', 'P', 'A', '1']⟩ = ([GPIO_BTN_BUILT_IN], -EINVAL) := by
    rw [init_button_configs_eq]
    decide
  have hneg : (-EINVAL : ℤ) < 0 := by decide
  refine ⟨?_, ?_, ?_, ?_⟩
  · simp only [ board_button_initialize, hinit, if_pos hneg]
  · simp only [ board_button_initialize, hinit, if_pos hneg]
  · simp only [board_buttons, readButtons]
    cases gpioread GPIO_BTN_BUILT_IN <;> rfl
  · rfl

section Read

variable (gpioread : ℕ → Bool)

theorem toNat_or_shiftLeft {ret : UInt32} {i : ℕ} (hi : i < 32) :
    (ret ||| 1 <<< UInt32.ofNat i).toNat = ret.toNat ||| 2 ^ i := by
  have hpow : 2 ^ i < 2 ^ 32 := Nat.pow_lt_pow_right (by decide) hi
  rw [UInt32.toNat_or, UInt32.toNat_shiftLeft, UInt32.toNat_ofNat',
    Nat.mod_eq_of_lt (by omega : i < 2 ^ 32), Nat.mod_eq_of_lt hi,
    show (1 : UInt32).toNat = 1 from rfl, Nat.one_shiftLeft, Nat.mod_eq_of_lt hpow]

theorem readButtons_testBit {i : ℕ} {ws : List ℕ} (hlen : i + ws.length ≤ 32) (ret : UInt32)
    (j : ℕ) :
    (readButtons gpioread i ws ret).toNat.testBit j =
      (ret.toNat.testBit j || decide (i ≤ j) && ws[j - i]?.any gpioread) := by
  induction ws generalizing i ret with
  | nil => simp [readButtons]
  | cons w ws ih =>
    have hi : i < 32 := by
      simp only [List.length_cons] at hlen
      omega
    have hentry : (decide (i ≤ j) && (w :: ws)[j - i]?.any gpioread) =
        (decide (i = j) && gpioread w || decide (i + 1 ≤ j) && ws[j - (i + 1)]?.any gpioread) := by
      rcases Nat.lt_trichotomy j i with hj | rfl | hj
      · simp [show ¬ i ≤ j by omega, show i ≠ j by omega, show ¬ i + 1 ≤ j by omega]
      · simp
      · obtain ⟨k, rfl⟩ : ∃ k, j = i + 1 + k := ⟨j - (i + 1), by omega⟩
        simp [show i ≠ i + 1 + k by omega, show i + 1 + k - i = k + 1 by omega,
          show i ≤ i + 1 + k by omega]
    rw [readButtons, ih (by simp only [List.length_cons] at hlen; omega), hentry]
    cases gpioread w
    · simp
    · rw [if_pos rfl, toNat_or_shiftLeft hi, Nat.testBit_or, Nat.testBit_two_pow]
      simp only [Bool.and_true, Bool.or_assoc]

/-- Bit `j` of `board_buttons ()` is set exactly when there is a button `j` and its pin reads
high. -/
theorem board_buttons_testBit {g_buttons : List ℕ} (hlen : g_buttons.length ≤ 32) (j : ℕ) :
    (board_buttons g_buttons gpioread).toNat.testBit j = g_buttons[j]?.any gpioread := by
  rw [board_buttons, readButtons_testBit gpioread (by omega)]
  simp

end Read

theorem board_button_initialize_fst (cfg : ButtonConfig) (configgpio : ℕ → ℤ) :
    ( board_button_initialize cfg configgpio).1 = (init_button_configs cfg).1 := by
  simp only [ board_button_initialize]
  split_ifs <;> rfl

theorem init_button_configs_fst (cfg : ButtonConfig) :
    (∃ k, (init_button_configs cfg).1 = builtinButtons cfg ++ ((buttonTokens cfg).take k).map word) ∧
      (init_button_configs cfg).1.Nodup ∧ (init_button_configs cfg).1.length ≤ cfg.count := by
  have hcount := builtinButtons_length_add cfg
  have hbase : (∃ k, builtinButtons cfg = builtinButtons cfg ++ ((buttonTokens cfg).take k).map word) ∧
      (builtinButtons cfg).Nodup ∧ (builtinButtons cfg).length ≤ cfg.count :=
    ⟨⟨0, by simp⟩, builtinButtons_nodup cfg, by omega⟩
  rw [init_button_configs_eq]
  split_ifs with h0 hc
  · exact hbase
  · exact hbase
  · -- the second pass ran over exactly `expectedPins cfg` tokens
    have hlen : (buttonTokens cfg).length = expectedPins cfg := not_not.mp hc
    obtain ⟨⟨k, hk⟩, hnodup⟩ := foldSteps_buttonStep_fst (builtinButtons_nodup cfg) (buttonTokens cfg)
    generalize foldSteps buttonStep (builtinButtons cfg) (buttonTokens cfg) = r at hk hnodup
    obtain ⟨bs, e⟩ := r
    dsimp only at hk hnodup
    have hbs : bs.length ≤ cfg.count := by
      rw [hk, List.length_append, List.length_map, List.length_take]
      omega
    cases e with
    | none => exact ⟨⟨k, hk⟩, hnodup, hbs⟩
    | some e => exact ⟨⟨k, hk⟩, hnodup, hbs⟩

/-- After `board_button_initialize`, failed or not, the buttons are the built-in one and the
words of some first tokens of the list, pairwise distinct and at most the button count; and
`board_buttons` sets bit `j` exactly when there is a button `j` whose pin reads high. -/
theorem board_button_initialize_state (cfg : ButtonConfig) (configgpio : ℕ → ℤ)
    (gpioread : ℕ → Bool) :
    (∃ k, ( board_button_initialize cfg configgpio).1 =
        builtinButtons cfg ++ ((buttonTokens cfg).take k).map word) ∧
      ( board_button_initialize cfg configgpio).1.Nodup ∧
      ( board_button_initialize cfg configgpio).1.length ≤ cfg.count ∧
      ∀ j, (board_buttons ( board_button_initialize cfg configgpio).1 gpioread).toNat.testBit j =
        ( board_button_initialize cfg configgpio).1[j]?.any gpioread := by
  rw [board_button_initialize_fst]
  obtain ⟨hk, hnodup, hlen⟩ := init_button_configs_fst cfg
  exact ⟨hk, hnodup, hlen, board_buttons_testBit gpioread (le_trans hlen cfg.count_le)⟩

section Configure

variable (configgpio : ℕ → ℤ)

theorem configButtons_snd (ws : List ℕ) :
    (configButtons configgpio ws).2 = true ↔ ∀ w ∈ ws, 0 ≤ configgpio w := by
  induction ws with
  | nil => simp [configButtons]
  | cons w ws ih =>
    by_cases hw : configgpio w < 0
    · simp only [configButtons, if_pos hw, Bool.false_eq_true, false_iff, not_forall]
      exact ⟨w, List.mem_cons_self, not_le.mpr hw⟩
    · simp only [configButtons, if_neg hw, ih, List.mem_cons, forall_eq_or_imp]
      exact ⟨fun h => ⟨not_lt.mp hw, h⟩, fun h => h.2⟩

theorem configButtons_fst {ws : List ℕ} (h : (configButtons configgpio ws).2 = true) :
    (configButtons configgpio ws).1 = ws.map GpioOp.configgpio := by
  induction ws with
  | nil => rfl
  | cons w ws ih =>
    by_cases hw : configgpio w < 0
    · simp only [configButtons, if_pos hw, Bool.false_eq_true] at h
    · simp only [configButtons, if_neg hw] at h ⊢
      rw [ih h, List.map_cons]

end Configure

theorem init_button_configs_snd (cfg : ButtonConfig) :
    (init_button_configs cfg).2 = OK ∨ (init_button_configs cfg).2 = -EINVAL := by
  rw [init_button_configs_eq]
  split_ifs
  · exact Or.inl rfl
  · exact Or.inr rfl
  · rcases foldSteps_buttonStep_snd (builtinButtons cfg) (buttonTokens cfg) with h | h <;>
    · generalize foldSteps buttonStep (builtinButtons cfg) (buttonTokens cfg) = r at h
      obtain ⟨bs, e⟩ := r
      cases h
      first | exact Or.inl rfl | exact Or.inr rfl

theorem init_button_configs_length_of_ok {cfg : ButtonConfig} (h : (init_button_configs cfg).2 = OK) :
    (init_button_configs cfg).1.length = cfg.count := by
  have hcount := builtinButtons_length_add cfg
  rw [init_button_configs_eq] at h ⊢
  split_ifs at h ⊢ with h0 hc
  · show (builtinButtons cfg).length = cfg.count
    omega
  · cases h
  · have hlen : (buttonTokens cfg).length = expectedPins cfg := not_not.mp hc
    have herr := foldSteps_buttonStep_snd (builtinButtons cfg) (buttonTokens cfg)
    have hnone : (foldSteps buttonStep (builtinButtons cfg) (buttonTokens cfg)).2 = none := by
      generalize foldSteps buttonStep (builtinButtons cfg) (buttonTokens cfg) = r at h herr
      obtain ⟨bs, e⟩ := r
      rcases herr with he | he
      · exact he
      · cases he
        simp only at h
        exact absurd h (by decide)
    obtain ⟨ha, hn⟩ := (foldSteps_buttonStep_snd_eq_none_iff (builtinButtons_nodup cfg)).mp hnone
    rw [foldSteps_buttonStep_of_ok _ ha hn]
    simp only [List.length_append, List.length_map]
    omega

/-- `board_button_initialize` returns a nonzero value exactly when the configuration is valid
and every button configures; it then returns the button count, having configured every button
in order. -/
theorem board_button_initialize_ret (cfg : ButtonConfig) (configgpio : ℕ → ℤ) :
    (( board_button_initialize cfg configgpio).2.2 ≠ 0 ↔
      (init_button_configs cfg).2 = OK ∧ ∀ w ∈ (init_button_configs cfg).1, 0 ≤ configgpio w) ∧
    (( board_button_initialize cfg configgpio).2.2 ≠ 0 →
      ( board_button_initialize cfg configgpio).2.2 = cfg.count ∧
        ( board_button_initialize cfg configgpio).2.1 =
          (init_button_configs cfg).1.map GpioOp.configgpio) := by
  have hpos := cfg.count_pos
  simp only [ board_button_initialize]
  by_cases hneg : (init_button_configs cfg).2 < 0
  · rw [if_pos hneg]
    have hne : (init_button_configs cfg).2 ≠ OK := by
      intro h
      rw [h] at hneg
      exact absurd hneg (by decide)
    exact ⟨iff_of_false (fun h => h rfl) (fun h => hne h.1), fun h => absurd rfl h⟩
  rw [if_neg hneg]
  have hok : (init_button_configs cfg).2 = OK := by
    rcases init_button_configs_snd cfg with h | h
    · exact h
    · rw [h] at hneg
      exact absurd (by decide) hneg
  by_cases hc : (configButtons configgpio (init_button_configs cfg).1).2 = true
  · rw [if_pos hc, init_button_configs_length_of_ok hok]
    exact ⟨iff_of_true (show cfg.count ≠ 0 by omega) ⟨hok, (configButtons_snd configgpio _).mp hc⟩,
      fun _ => ⟨rfl, configButtons_fst configgpio hc⟩⟩
  · rw [if_neg hc]
    exact ⟨iff_of_false (fun h => h rfl) (fun h => hc ((configButtons_snd configgpio _).mpr h.2)),
      fun h => absurd rfl h⟩

end NucleoH753zi.Buttons
