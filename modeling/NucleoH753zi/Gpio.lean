import Mathlib.Tactic.Ring
import Mathlib.Logic.Function.Basic

/-!
# STM32H7 GPIO configuration words

A pin configuration word (`stm32_gpio.h`) packs the mode in bits 18-19, the pull-up or
pull-down in bits 16-17, the initial output value or the EXTI flag in bit 8, the port in bits
4-7 and the pin in bits 0-3. Words are natural numbers: every word the board code builds is
below `2 ^ 20`, so nothing depends on their 32-bit width.

`stm32_gpiowrite` drives the pin a word names, on a port that exists on the STM32H753ZI
(`STM32H7_NGPIO` is 8 for its package, ports A to H), and `stm32_configgpio` of an output pin
first drives it to the initial level in the word's `GPIO_OUTPUT_SET` bit (`GpioOp.drive`). The
board functions record the GPIO driver calls they make as a list of `GpioOp`.
-/

namespace NucleoH753zi

def GPIO_MODE_SHIFT : ℕ := 18
def GPIO_MODE_MASK : ℕ := 3 <<< GPIO_MODE_SHIFT
def GPIO_INPUT : ℕ := 0 <<< GPIO_MODE_SHIFT
def GPIO_OUTPUT : ℕ := 1 <<< GPIO_MODE_SHIFT
def GPIO_ANALOG : ℕ := 3 <<< GPIO_MODE_SHIFT
def GPIO_PUPD_SHIFT : ℕ := 16
def GPIO_FLOAT : ℕ := 0 <<< GPIO_PUPD_SHIFT
def GPIO_OUTPUT_SET : ℕ := 1 <<< 8
def GPIO_OUTPUT_CLEAR : ℕ := 0
def GPIO_PUSHPULL : ℕ := 0
def GPIO_OPENDRAIN : ℕ := 1 <<< 9
def GPIO_SPEED_SHIFT : ℕ := 10
def GPIO_SPEED_50MHz : ℕ := 2 <<< GPIO_SPEED_SHIFT
def GPIO_EXTI : ℕ := 1 <<< 8
def GPIO_PORT_SHIFT : ℕ := 4
def GPIO_PORT_MASK : ℕ := 15 <<< GPIO_PORT_SHIFT
def GPIO_PIN_SHIFT : ℕ := 0
def GPIO_PIN_MASK : ℕ := 15 <<< GPIO_PIN_SHIFT

/-- `GPIO_PORTA`, `GPIO_PORTB`, ... are `GPIO_PORT 0`, `GPIO_PORT 1`, ... -/
def GPIO_PORT (n : ℕ) : ℕ := n <<< GPIO_PORT_SHIFT

/-- `GPIO_PIN0` to `GPIO_PIN15` are `GPIO_PIN 0` to `GPIO_PIN 15`. -/
def GPIO_PIN (n : ℕ) : ℕ := n <<< GPIO_PIN_SHIFT

def STM32H7_NGPIO : ℕ := 8

/-- The port number of a word, as `stm32_gpiowrite` and `stm32_configgpio` decode it. -/
def portOf (pinset : ℕ) : ℕ := (pinset &&& GPIO_PORT_MASK) >>> GPIO_PORT_SHIFT

def pinOf (pinset : ℕ) : ℕ := (pinset &&& GPIO_PIN_MASK) >>> GPIO_PIN_SHIFT

inductive GpioOp
  | configgpio (cfgset : ℕ)
  | gpiowrite (pinset : ℕ) (value : Bool)
  deriving DecidableEq, Repr

abbrev Odr := ℕ × ℕ → Bool

def stm32_gpiowrite (pinset : ℕ) (value : Bool) (odr : Odr) : Odr :=
  if portOf pinset < STM32H7_NGPIO then Function.update odr (portOf pinset, pinOf pinset) value
  else odr

/-- The word and level a call drives: `stm32_gpiowrite` its own, and `stm32_configgpio` of an
output pin the initial value `stm32_gpiowrite (cfgset, (cfgset & GPIO_OUTPUT_SET) != 0)`. -/
def GpioOp.drive : GpioOp → Option (ℕ × Bool)
  | .configgpio cfgset =>
    if cfgset &&& GPIO_MODE_MASK = GPIO_OUTPUT then some (cfgset, cfgset &&& GPIO_OUTPUT_SET != 0)
    else none
  | .gpiowrite pinset value => some (pinset, value)

def GpioOp.apply (op : GpioOp) (odr : Odr) : Odr :=
  match op.drive with
  | some (pinset, value) => stm32_gpiowrite pinset value odr
  | none => odr

def applyOps : List GpioOp → Odr → Odr
  | [], odr => odr
  | op :: ops, odr => applyOps ops (op.apply odr)

theorem pinOf_eq (x : ℕ) : pinOf x = x % 16 := by
  have h : GPIO_PIN_MASK = 2 ^ 4 - 1 := rfl
  rw [pinOf, h, GPIO_PIN_SHIFT, Nat.shiftRight_zero, Nat.and_two_pow_sub_one_eq_mod]

theorem portOf_eq (x : ℕ) : portOf x = x / 16 % 16 := by
  have h : GPIO_PORT_MASK >>> GPIO_PORT_SHIFT = 2 ^ 4 - 1 := rfl
  rw [portOf, Nat.shiftRight_and_distrib, h, Nat.and_two_pow_sub_one_eq_mod,
    GPIO_PORT_SHIFT, Nat.shiftRight_eq_div_pow]

theorem word_eq_add (mode p n : ℕ) (hm : mode % 256 = 0) (hp : p < 16) (hn : n < 16) :
    mode ||| GPIO_PORT p ||| GPIO_PIN n = mode + 16 * p + n := by
  obtain ⟨k, rfl⟩ : ∃ k, mode = 256 * k := ⟨mode / 256, by omega⟩
  have h1 : 256 * k ||| GPIO_PORT p = 2 ^ 4 * (16 * k + p) := by
    rw [GPIO_PORT, GPIO_PORT_SHIFT, Nat.shiftLeft_eq,
      ← Nat.two_pow_add_eq_or_of_lt (i := 8) (by omega) k]
    ring
  rw [h1, GPIO_PIN, GPIO_PIN_SHIFT, Nat.shiftLeft_zero, ← Nat.two_pow_add_eq_or_of_lt hn]
  ring

section Word

variable {mode p n : ℕ}

theorem portOf_word (hm : mode % 256 = 0) (hp : p < 16) (hn : n < 16) :
    portOf (mode ||| GPIO_PORT p ||| GPIO_PIN n) = p := by
  rw [word_eq_add mode p n hm hp hn, portOf_eq]
  omega

theorem pinOf_word (hm : mode % 256 = 0) (hp : p < 16) (hn : n < 16) :
    pinOf (mode ||| GPIO_PORT p ||| GPIO_PIN n) = n := by
  rw [word_eq_add mode p n hm hp hn, pinOf_eq]
  omega

theorem word_inj {p' n' : ℕ} (hm : mode % 256 = 0) (hp : p < 16) (hn : n < 16)
    (hp' : p' < 16) (hn' : n' < 16) :
    mode ||| GPIO_PORT p ||| GPIO_PIN n = mode ||| GPIO_PORT p' ||| GPIO_PIN n' ↔
      p = p' ∧ n = n' := by
  rw [word_eq_add mode p n hm hp hn, word_eq_add mode p' n' hm hp' hn']
  omega

end Word

@[simp] theorem stm32_gpiowrite_self {pinset : ℕ} (value : Bool) (odr : Odr)
    (h : portOf pinset < STM32H7_NGPIO) :
    stm32_gpiowrite pinset value odr (portOf pinset, pinOf pinset) = value := by
  simp [stm32_gpiowrite, h]

theorem stm32_gpiowrite_other {pinset : ℕ} (value : Bool) (odr : Odr) {q : ℕ × ℕ}
    (hq : q ≠ (portOf pinset, pinOf pinset)) : stm32_gpiowrite pinset value odr q = odr q := by
  unfold stm32_gpiowrite
  split
  · exact Function.update_of_ne hq _ _
  · rfl

def GpioOp.writes (q : ℕ × ℕ) (op : GpioOp) : Option Bool :=
  match op.drive with
  | some (pinset, value) =>
    if portOf pinset < STM32H7_NGPIO ∧ (portOf pinset, pinOf pinset) = q then some value else none
  | none => none

@[simp] theorem GpioOp.drive_gpiowrite (pinset : ℕ) (value : Bool) :
    (GpioOp.gpiowrite pinset value).drive = some (pinset, value) := rfl

theorem GpioOp.writes_of_drive {op : GpioOp} {pinset : ℕ} {value : Bool}
    (h : op.drive = some (pinset, value)) (q : ℕ × ℕ) :
    op.writes q =
      if portOf pinset < STM32H7_NGPIO ∧ (portOf pinset, pinOf pinset) = q then some value else none := by
  rw [GpioOp.writes, h]

theorem GpioOp.writes_of_drive_none {op : GpioOp} (h : op.drive = none) (q : ℕ × ℕ) :
    op.writes q = none := by
  rw [GpioOp.writes, h]

/-- The level of pin `q` after a list of calls, from level `b`: the last value written to it. -/
def pinEffect (ops : List GpioOp) (q : ℕ × ℕ) (b : Bool) : Bool :=
  ops.foldl (fun b op => (op.writes q).getD b) b

@[simp] theorem pinEffect_nil (q : ℕ × ℕ) (b : Bool) : pinEffect [] q b = b := rfl

@[simp] theorem pinEffect_cons (op : GpioOp) (ops : List GpioOp) (q : ℕ × ℕ) (b : Bool) :
    pinEffect (op :: ops) q b = pinEffect ops q ((op.writes q).getD b) := rfl

theorem pinEffect_append (ops ops' : List GpioOp) (q : ℕ × ℕ) (b : Bool) :
    pinEffect (ops ++ ops') q b = pinEffect ops' q (pinEffect ops q b) := by
  simp only [pinEffect, List.foldl_append]

theorem pinEffect_of_forall {ops : List GpioOp} {q : ℕ × ℕ} (h : ∀ op ∈ ops, op.writes q = none)
    (b : Bool) : pinEffect ops q b = b := by
  induction ops generalizing b with
  | nil => rfl
  | cons op ops ih =>
    rw [pinEffect_cons, h op List.mem_cons_self, Option.getD_none]
    exact ih (fun op' hop' => h op' (List.mem_cons_of_mem _ hop')) b

theorem pinEffect_eq_getLast (ops : List GpioOp) (q : ℕ × ℕ) (b : Bool) :
    pinEffect ops q b = ((ops.filterMap (GpioOp.writes q)).getLast?).getD b := by
  induction ops generalizing b with
  | nil => rfl
  | cons op ops ih =>
    rw [pinEffect_cons, ih, List.filterMap_cons]
    cases op.writes q with
    | none => rfl
    | some v => simp [List.getLast?_cons]

theorem stm32_gpiowrite_apply (pinset : ℕ) (value : Bool) (odr : Odr) (q : ℕ × ℕ) :
    stm32_gpiowrite pinset value odr q =
      (if portOf pinset < STM32H7_NGPIO ∧ (portOf pinset, pinOf pinset) = q then some value
        else none).getD (odr q) := by
  unfold stm32_gpiowrite
  by_cases hp : portOf pinset < STM32H7_NGPIO
  · by_cases hq : (portOf pinset, pinOf pinset) = q
    · subst hq
      simp [hp]
    · simp [hp, hq, Function.update_of_ne (Ne.symm hq)]
  · simp [hp]

theorem GpioOp.apply_apply (op : GpioOp) (odr : Odr) (q : ℕ × ℕ) :
    op.apply odr q = (op.writes q).getD (odr q) := by
  rcases hd : op.drive with _ | ⟨p, v⟩
  · rw [GpioOp.apply, hd, GpioOp.writes_of_drive_none hd, Option.getD_none]
  · rw [GpioOp.apply, hd, GpioOp.writes_of_drive hd]
    exact stm32_gpiowrite_apply p v odr q

theorem applyOps_apply (ops : List GpioOp) (odr : Odr) (q : ℕ × ℕ) :
    applyOps ops odr q = pinEffect ops q (odr q) := by
  induction ops generalizing odr with
  | nil => rfl
  | cons op ops ih => rw [applyOps, ih, GpioOp.apply_apply, pinEffect_cons]

theorem applyOps_append (ops ops' : List GpioOp) (odr : Odr) :
    applyOps (ops ++ ops') odr = applyOps ops' (applyOps ops odr) := by
  induction ops generalizing odr with
  | nil => rfl
  | cons op ops ih => exact ih _

def DrivesHigh (ops : List GpioOp) : Prop :=
  ∀ op ∈ ops, ∀ p v, op.drive = some (p, v) → v = true

theorem drivesHigh_append {ops ops' : List GpioOp} :
    DrivesHigh (ops ++ ops') ↔ DrivesHigh ops ∧ DrivesHigh ops' := by
  simp only [DrivesHigh, List.mem_append, or_imp, forall_and]

theorem drivesHigh_nil : DrivesHigh [] := fun _ h => by cases h

section Ops

variable {ops : List GpioOp}

theorem pinEffect_of_high (hall : DrivesHigh ops)
    {q : ℕ × ℕ} {b : Bool} (h : b = true) : pinEffect ops q b = true := by
  induction ops generalizing b with
  | nil => exact h
  | cons op ops ih =>
    rw [pinEffect_cons]
    apply ih (fun op' hop' => hall op' (List.mem_cons_of_mem _ hop'))
    rcases hd : op.drive with _ | ⟨p, v⟩
    · rw [GpioOp.writes_of_drive_none hd, Option.getD_none, h]
    · rw [GpioOp.writes_of_drive hd, hall op List.mem_cons_self p v hd]
      split_ifs <;> simp [h]

theorem applyOps_of_high (hall : DrivesHigh ops)
    {odr : Odr} {q : ℕ × ℕ} (h : odr q = true) : applyOps ops odr q = true := by
  rw [applyOps_apply]
  exact pinEffect_of_high hall h

theorem applyOps_high_of_mem (hall : DrivesHigh ops)
    {w : ℕ} (hw : GpioOp.gpiowrite w true ∈ ops) (hp : portOf w < STM32H7_NGPIO) (odr : Odr) :
    applyOps ops odr (portOf w, pinOf w) = true := by
  induction ops generalizing odr with
  | nil => cases hw
  | cons op ops ih =>
    have hall' : DrivesHigh ops := fun op' hop' => hall op' (List.mem_cons_of_mem _ hop')
    rcases List.mem_cons.mp hw with he | hw'
    · -- the write of `w` is this operation: the pin is high after it and stays high
      subst he
      exact applyOps_of_high hall' (stm32_gpiowrite_self true odr hp)
    · exact ih hall' hw' _

end Ops

/-! ## What the input data register reads

`stm32_configgpio` also sets the pin's mode and output type, which decide what
`stm32_gpioread` finds in the pin's `IDR` bit. The port keeps, for each pin, the word it was
last configured with. -/

/-- The word a call configures pin `q` with: `stm32_configgpio` of a word of a port of the
chip. -/
def GpioOp.configures (q : ℕ × ℕ) : GpioOp → Option ℕ
  | .configgpio cfgset =>
    if portOf cfgset < STM32H7_NGPIO ∧ (portOf cfgset, pinOf cfgset) = q then some cfgset else none
  | .gpiowrite _ _ => none

structure Port where
  odr : Odr
  cfg : ℕ × ℕ → ℕ

def Port.exec (p : Port) (op : GpioOp) : Port :=
  ⟨op.apply p.odr, fun q => (op.configures q).getD (p.cfg q)⟩

/-- The `IDR` bit of a pin configured with `cfg`, whose output level is `out`, with `ext`
applied from outside (the chip's reference manual, not the board code): a push-pull output reads
its own level, an open-drain output can only pull the pin low, an analog pin's input buffer is
off, and an input or alternate pin reads the level on the pin. -/
def idrBit (cfg : ℕ) (out ext : Bool) : Bool :=
  if cfg &&& GPIO_MODE_MASK = GPIO_OUTPUT then
    if cfg &&& GPIO_OPENDRAIN = 0 then out else out && ext
  else if cfg &&& GPIO_MODE_MASK = GPIO_ANALOG then false
  else ext

def stm32_gpioread (p : Port) (ext : ℕ × ℕ → Bool) (pinset : ℕ) : Bool :=
  if portOf pinset < STM32H7_NGPIO then
    idrBit (p.cfg (portOf pinset, pinOf pinset)) (p.odr (portOf pinset, pinOf pinset))
      (ext (portOf pinset, pinOf pinset))
  else false

theorem Port.foldl_exec_odr (ops : List GpioOp) (p : Port) :
    (ops.foldl Port.exec p).odr = applyOps ops p.odr := by
  induction ops generalizing p with
  | nil => rfl
  | cons op ops ih => exact ih (p.exec op)

theorem Port.foldl_exec_cfg (ops : List GpioOp) (p : Port) (q : ℕ × ℕ) :
    (ops.foldl Port.exec p).cfg q = ((ops.filterMap (GpioOp.configures q)).getLast?).getD (p.cfg q) := by
  induction ops generalizing p with
  | nil => rfl
  | cons op ops ih =>
    rw [List.foldl_cons, ih]
    cases hc : op.configures q with
    | none => simp [Port.exec, hc]
    | some w =>
      rw [List.filterMap_cons_some hc, List.getLast?_cons]
      simp [Port.exec, hc]

@[simp] theorem Port.exec_gpiowrite_cfg (p : Port) (pinset : ℕ) (value : Bool) :
    (p.exec (.gpiowrite pinset value)).cfg = p.cfg := rfl

end NucleoH753zi
