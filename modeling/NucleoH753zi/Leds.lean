import NucleoH753zi.Gpio
import Mathlib.Data.Fin.VecNotation
import Mathlib.Data.Fintype.Basic
import Mathlib.Data.Nat.Bitwise

/-!
# The board LEDs

The user LEDs LD1 (green, PB0), LD2 (orange, PE1) and LD3 (red, PB14) are driven in one of two
modes. With `CONFIG_ARCH_LEDS` the kernel reports its state through `board_autoled_on` and
`board_autoled_off`, which switch on an `LED_*` code and write the LEDs through `phy_set_led`;
`board.h` documents in a table what each code shows. Without it the application drives them
through `board_userled` and `board_userled_all`.

Every LED operation is a list of GPIO driver calls, which acts on the state of the three LEDs
(`ledState_applyOps`). A run of autoled events is a run of the LED-level machine `ledStep`
(`ledState_autoledRun`), on which the properties of the board functions are proved. The flag
`g_initialized` that `LED_STACKCREATED` sets is read by nothing and left out.
-/

namespace NucleoH753zi.Leds

def BOARD_LED1 : ℕ := 0
def BOARD_LED2 : ℕ := 1
def BOARD_LED3 : ℕ := 2
def BOARD_NLEDS : ℕ := 3

def BOARD_LED_GREEN : Fin BOARD_NLEDS := ⟨BOARD_LED1, by decide⟩
def BOARD_LED_ORANGE : Fin BOARD_NLEDS := ⟨BOARD_LED2, by decide⟩
def BOARD_LED_RED : Fin BOARD_NLEDS := ⟨BOARD_LED3, by decide⟩

def LED_STARTED : ℤ := 0
def LED_HEAPALLOCATE : ℤ := 1
def LED_IRQSENABLED : ℤ := 2
def LED_STACKCREATED : ℤ := 3
def LED_INIRQ : ℤ := 4
def LED_SIGNAL : ℤ := 5
def LED_ASSERTION : ℤ := 6
def LED_PANIC : ℤ := 7
def LED_IDLE : ℤ := 8

def GPIO_LD1 : ℕ :=
  GPIO_OUTPUT ||| GPIO_PUSHPULL ||| GPIO_SPEED_50MHz ||| GPIO_OUTPUT_CLEAR ||| GPIO_PORT 1 |||
    GPIO_PIN 0
def GPIO_LD2 : ℕ :=
  GPIO_OUTPUT ||| GPIO_PUSHPULL ||| GPIO_SPEED_50MHz ||| GPIO_OUTPUT_CLEAR ||| GPIO_PORT 4 |||
    GPIO_PIN 1
def GPIO_LD3 : ℕ :=
  GPIO_OUTPUT ||| GPIO_PUSHPULL ||| GPIO_SPEED_50MHz ||| GPIO_OUTPUT_CLEAR ||| GPIO_PORT 1 |||
    GPIO_PIN 14

def GPIO_LED_GREEN : ℕ := GPIO_LD1
def GPIO_LED_ORANGE : ℕ := GPIO_LD2
def GPIO_LED_RED : ℕ := GPIO_LD3

/-! ## Automatic LEDs -/

/-- Indexed by `BOARD_LED_<color>`. -/
def g_ledmap : Fin BOARD_NLEDS → ℕ := ![GPIO_LED_GREEN, GPIO_LED_ORANGE, GPIO_LED_RED]

/-- The callers pass only the `BOARD_LED_*` constants, so the index is in range. -/
def phy_set_led (led : Fin BOARD_NLEDS) (state : Bool) : GpioOp := .gpiowrite (g_ledmap led) state

def board_autoled_initialize : List GpioOp :=
  (List.finRange BOARD_NLEDS).map fun i => .configgpio (g_ledmap i)

def board_autoled_on (led : ℤ) : List GpioOp :=
  if led = LED_HEAPALLOCATE then [phy_set_led BOARD_LED_ORANGE true]
  else if led = LED_IRQSENABLED then
    [phy_set_led BOARD_LED_ORANGE false, phy_set_led BOARD_LED_GREEN true]
  else if led = LED_STACKCREATED then
    [phy_set_led BOARD_LED_GREEN true, phy_set_led BOARD_LED_ORANGE true]
  else if led = LED_INIRQ then [phy_set_led BOARD_LED_ORANGE true]
  else if led = LED_SIGNAL then [phy_set_led BOARD_LED_GREEN true]
  else if led = LED_ASSERTION then
    [phy_set_led BOARD_LED_RED true, phy_set_led BOARD_LED_ORANGE true]
  else if led = LED_PANIC then [phy_set_led BOARD_LED_RED true]
  else if led = LED_IDLE then [phy_set_led BOARD_LED_RED true]
  else []

def board_autoled_off (led : ℤ) : List GpioOp :=
  if led = LED_SIGNAL then [phy_set_led BOARD_LED_GREEN false]
  else if led = LED_INIRQ then [phy_set_led BOARD_LED_ORANGE false]
  else if led = LED_ASSERTION then
    [phy_set_led BOARD_LED_RED false, phy_set_led BOARD_LED_ORANGE false]
  else if led = LED_PANIC then [phy_set_led BOARD_LED_RED false]
  else if led = LED_IDLE then [phy_set_led BOARD_LED_RED false]
  else []

inductive AutoLed
  | on (led : ℤ)
  | off (led : ℤ)
  deriving DecidableEq, Repr

def AutoLed.code : AutoLed → ℤ
  | .on led | .off led => led

def AutoLed.ops : AutoLed → List GpioOp
  | .on led => board_autoled_on led
  | .off led => board_autoled_off led

def autoledRun (evs : List AutoLed) : List GpioOp := evs.flatMap AutoLed.ops

theorem autoledRun_cons (ev : AutoLed) (evs : List AutoLed) :
    autoledRun (ev :: evs) = ev.ops ++ autoledRun evs :=
  List.flatMap_cons ..

/-! ## The LED state -/

def ledPin (led : Fin BOARD_NLEDS) : ℕ × ℕ := (portOf (g_ledmap led), pinOf (g_ledmap led))

/-- Whether each LED is lit: all three are active high. -/
def ledState (odr : Odr) (led : Fin BOARD_NLEDS) : Bool := odr (ledPin led)

/-- One step of the LED-level machine: an event sets the LEDs its calls write. -/
def ledStep (s : Fin BOARD_NLEDS → Bool) (ev : AutoLed) : Fin BOARD_NLEDS → Bool :=
  fun led => pinEffect ev.ops (ledPin led) (s led)

theorem ledPin_injective : Function.Injective ledPin := by
  decide

theorem phy_set_led_writes (led led' : Fin BOARD_NLEDS) (state : Bool) :
    (phy_set_led led state).writes (ledPin led') = if led = led' then some state else none := by
  have hport : ∀ led : Fin BOARD_NLEDS, portOf (g_ledmap led) < STM32H7_NGPIO := by
    decide
  rw [phy_set_led, GpioOp.writes_of_drive (GpioOp.drive_gpiowrite _ _)]
  show (if portOf (g_ledmap led) < STM32H7_NGPIO ∧ ledPin led = ledPin led' then some state
    else none) = _
  simp only [hport, true_and, ledPin_injective.eq_iff]

theorem ledState_applyOps (ops : List GpioOp) (odr : Odr) (led : Fin BOARD_NLEDS) :
    ledState (applyOps ops odr) led = pinEffect ops (ledPin led) (ledState odr led) :=
  applyOps_apply ops odr (ledPin led)

theorem ledState_autoledRun (evs : List AutoLed) (odr : Odr) :
    ledState (applyOps (autoledRun evs) odr) = evs.foldl ledStep (ledState odr) := by
  induction evs generalizing odr with
  | nil => rfl
  | cons ev evs ih =>
    have hstep : ledState (applyOps ev.ops odr) = ledStep (ledState odr) ev :=
      funext fun led => ledState_applyOps ev.ops odr led
    rw [autoledRun_cons, applyOps_append, ih, hstep, List.foldl_cons]

theorem foldl_ledStep_apply (evs : List AutoLed) (s : Fin BOARD_NLEDS → Bool)
    (led : Fin BOARD_NLEDS) :
    evs.foldl ledStep s led = pinEffect (autoledRun evs) (ledPin led) (s led) := by
  induction evs generalizing s with
  | nil => rfl
  | cons ev evs ih =>
    rw [List.foldl_cons, ih, autoledRun_cons, pinEffect_append]
    rfl

theorem writes_of_ne {led : Fin BOARD_NLEDS} {q : ℕ × ℕ} (hq : q ≠ ledPin led) (v : Bool) :
    (GpioOp.gpiowrite (g_ledmap led) v).writes q = none := by
  rw [GpioOp.writes_of_drive (GpioOp.drive_gpiowrite _ _), if_neg]
  rintro ⟨-, hpin⟩
  exact hq hpin.symm

/-! ## Events as codes of the table -/

theorem AutoLed.ops_eq_nil (ev : AutoLed) (h : ev.code < 0 ∨ LED_IDLE < ev.code) : ev.ops = [] := by
  -- every case of either switch is a code from 1 to 8, which `h` excludes
  cases ev with
  | on e =>
    simp only [AutoLed.ops, board_autoled_on]
    split_ifs <;> first | rfl |
      (simp only [AutoLed.code, LED_HEAPALLOCATE, LED_IRQSENABLED, LED_STACKCREATED, LED_INIRQ,
        LED_SIGNAL, LED_ASSERTION, LED_PANIC, LED_IDLE] at *; omega)
  | off e =>
    simp only [AutoLed.ops, board_autoled_off]
    split_ifs <;> first | rfl |
      (simp only [AutoLed.code, LED_INIRQ, LED_SIGNAL, LED_ASSERTION, LED_PANIC, LED_IDLE] at *;
        omega)

theorem AutoLed.cases_code (ev : AutoLed) :
    ev.ops = [] ∨ ∃ k : Fin 9, ev = .on k ∨ ev = .off k := by
  by_cases h : ev.code < 0 ∨ LED_IDLE < ev.code
  · exact .inl (ev.ops_eq_nil h)
  · right
    have hk : ev.code.toNat < 9 := by
      simp only [LED_IDLE] at h
      omega
    refine ⟨⟨ev.code.toNat, hk⟩, ?_⟩
    have hcode : ((ev.code.toNat : ℕ) : ℤ) = ev.code := by omega
    cases ev with
    | on e => exact .inl (congrArg AutoLed.on hcode.symm)
    | off e => exact .inr (congrArg AutoLed.off hcode.symm)

theorem AutoLed.mem_ops {ev : AutoLed} {op : GpioOp} (h : op ∈ ev.ops) :
    ∃ led v, op = phy_set_led led v := by
  have htable : ∀ k : Fin 9, ∀ ev ∈ [AutoLed.on k, .off k], ∀ op ∈ ev.ops,
      ∃ led v, op = phy_set_led led v := by
    decide
  rcases ev.cases_code with hnil | ⟨k, rfl | rfl⟩
  · rw [hnil] at h
    cases h
  · exact htable k _ (by simp) op h
  · exact htable k _ (by simp) op h

/-! ## The table of `board.h` -/

inductive Mark
  | OFF
  | ON
  | NC
  | GLOW
  | Blink
  deriving DecidableEq, Repr

/-- The LED table of `board.h`, one row for each code from `LED_STARTED` to `LED_IDLE`, with
the entries of the red, green and orange LEDs. -/
def ledTable : Fin 9 → Mark × Mark × Mark :=
  ![(.OFF, .OFF, .OFF),
    (.OFF, .OFF, .ON),
    (.OFF, .ON, .OFF),
    (.OFF, .ON, .ON),
    (.NC, .NC, .GLOW),
    (.NC, .GLOW, .NC),
    (.GLOW, .NC, .GLOW),
    (.Blink, .OFF, .NC),
    (.ON, .OFF, .OFF)]

def mark (e : Fin 9) (led : Fin BOARD_NLEDS) : Mark :=
  if led = BOARD_LED_RED then (ledTable e).1
  else if led = BOARD_LED_GREEN then (ledTable e).2.1
  else (ledTable e).2.2

/-- The codes of the first rows of the table, in its order. The kernel reports
`LED_HEAPALLOCATE`, `LED_IRQSENABLED` and `LED_STACKCREATED` as it boots; no code of this chip
reports `LED_STARTED`, which makes no call. -/
def bootCodes : List ℤ := [LED_STARTED, LED_HEAPALLOCATE, LED_IRQSENABLED, LED_STACKCREATED]

/-- The reports of `reset_board` (`sched/misc/assert.c`) when it blinks the LEDs after a failed
assertion, `n` times round its loop. -/
def panicBlinks (n : ℕ) : List AutoLed := (List.replicate n [.on LED_PANIC, .off LED_PANIC]).flatten

theorem ledStep_of_ops {ev : AutoLed} {led : Fin BOARD_NLEDS} {state : Bool}
    (hops : ev.ops = [phy_set_led led state]) (s : Fin BOARD_NLEDS → Bool) :
    ledStep s ev = Function.update s led state := by
  funext led'
  simp only [ledStep, hops, pinEffect_cons, pinEffect_nil, phy_set_led_writes, Function.update_apply]
  by_cases h : led' = led
  · simp [h]
  · simp [h, Ne.symm h]

theorem ledStep_on_panic (s : Fin BOARD_NLEDS → Bool) :
    ledStep s (.on LED_PANIC) = Function.update s BOARD_LED_RED true :=
  ledStep_of_ops (by decide) s

theorem ledStep_off_panic (s : Fin BOARD_NLEDS → Bool) :
    ledStep s (.off LED_PANIC) = Function.update s BOARD_LED_RED false :=
  ledStep_of_ops (by decide) s

theorem foldl_panicBlinks (n : ℕ) (s : Fin BOARD_NLEDS → Bool) :
    (panicBlinks n).foldl ledStep s = if n = 0 then s else Function.update s BOARD_LED_RED false := by
  induction n generalizing s with
  | zero => rfl
  | succ n ih =>
    have hone : [AutoLed.on LED_PANIC, .off LED_PANIC].foldl ledStep s =
        Function.update s BOARD_LED_RED false := by
      rw [List.foldl_cons, List.foldl_cons, List.foldl_nil, ledStep_on_panic, ledStep_off_panic,
        Function.update_idem]
    rw [panicBlinks, List.replicate_succ, List.flatten_cons, List.foldl_append, hone, ← panicBlinks,
      ih, if_neg n.succ_ne_zero]
    split_ifs <;> simp

/-- After the boot reports and a failed assertion, `reset_board` blinks red and leaves green and
orange lit, whatever the LEDs showed before: the PANIC row of the table has green OFF. -/
theorem board_autoled_panic_keeps_green (odr : Odr) (n : ℕ) :
    let fault := bootCodes.map .on ++ [.on LED_ASSERTION]
    mark 7 BOARD_LED_GREEN = .OFF ∧
      (∀ led, ledState (applyOps (autoledRun (fault ++ panicBlinks n)) odr) led =
        (led ≠ BOARD_LED_RED || n = 0)) ∧
      ∀ led, ledState (applyOps (autoledRun (fault ++ panicBlinks n ++ [.on LED_PANIC])) odr) led =
        true := by
  intro fault
  have hlast : ∀ led, ((autoledRun fault).filterMap (GpioOp.writes (ledPin led))).getLast? = some true := by
    decide
  have hfault : fault.foldl ledStep (ledState odr) = fun _ => true := by
    funext led
    rw [foldl_ledStep_apply, pinEffect_eq_getLast, hlast led]
    rfl
  refine ⟨rfl, fun led => ?_, fun led => ?_⟩
  · rw [ledState_autoledRun, List.foldl_append, hfault, foldl_panicBlinks]
    by_cases hn : n = 0
    · simp [hn]
    · simp [hn, Function.update_apply]
  · rw [ledState_autoledRun, List.foldl_append, List.foldl_append, hfault, foldl_panicBlinks,
      List.foldl_cons, List.foldl_nil, ledStep_on_panic]
    by_cases hn : n = 0
    · simp [hn]
    · simp [hn, Function.update_apply]

theorem ledStep_red {s : Fin BOARD_NLEDS → Bool} {ev : AutoLed}
    (h : ledStep s ev BOARD_LED_RED = true) :
    s BOARD_LED_RED = true ∨ ∃ e ∈ [LED_ASSERTION, LED_PANIC, LED_IDLE], ev = .on e := by
  have htable : ∀ k : Fin 9, ∀ ev ∈ [AutoLed.on k, .off k], ∀ b : Bool,
      pinEffect ev.ops (ledPin BOARD_LED_RED) b = true →
        b = true ∨ ∃ e ∈ [LED_ASSERTION, LED_PANIC, LED_IDLE], ev = .on e := by
    decide
  rcases ev.cases_code with hnil | ⟨k, rfl | rfl⟩
  · left
    simpa [ledStep, hnil] using h
  · exact htable k _ (by simp) _ h
  · exact htable k _ (by simp) _ h

/-- Over a run of the machine, red ends lit only when it was lit, or the run reports an
assertion, a panic or the idle state. -/
theorem foldl_ledStep_red {evs : List AutoLed} {s : Fin BOARD_NLEDS → Bool}
    (h : evs.foldl ledStep s BOARD_LED_RED = true) :
    s BOARD_LED_RED = true ∨ ∃ e ∈ [LED_ASSERTION, LED_PANIC, LED_IDLE], AutoLed.on e ∈ evs := by
  induction evs generalizing s with
  | nil => exact .inl h
  | cons ev evs ih =>
    rcases ih h with hstep | ⟨e, he, hmem⟩
    · rcases ledStep_red hstep with hs | ⟨e, he, rfl⟩
      · exact .inl hs
      · exact .inr ⟨e, he, List.mem_cons_self⟩
    · exact .inr ⟨e, he, List.mem_cons_of_mem _ hmem⟩

/-- The red LED is lit at the end of a run only if it was lit before, or the run reports a failed
assertion, a panic or the idle state. -/
theorem board_autoled_red_needs_fault (evs : List AutoLed) (odr : Odr)
    (h : ledState (applyOps (autoledRun evs) odr) BOARD_LED_RED = true) :
    ledState odr BOARD_LED_RED = true ∨
      ∃ e ∈ [LED_ASSERTION, LED_PANIC, LED_IDLE], AutoLed.on e ∈ evs := by
  rw [ledState_autoledRun] at h
  exact foldl_ledStep_red h

theorem board_autoled_red_needs_fault_panic :
    ledState (applyOps (autoledRun [.on LED_PANIC]) fun _ => false) BOARD_LED_RED = true ∧
      (ledState (fun _ => false) BOARD_LED_RED = true ∨
        ∃ e ∈ [LED_ASSERTION, LED_PANIC, LED_IDLE], AutoLed.on e ∈ [AutoLed.on LED_PANIC]) :=
  have h : ledState (applyOps (autoledRun [.on LED_PANIC]) fun _ => false) BOARD_LED_RED = true := by
    decide
  ⟨h, board_autoled_red_needs_fault [.on LED_PANIC] (fun _ => false) h⟩

/-! ## User LEDs -/

def g_ledcfg : Fin BOARD_NLEDS → ℕ := ![GPIO_LED_GREEN, GPIO_LED_ORANGE, GPIO_LED_RED]

def board_userled_initialize : List GpioOp × ℕ :=
  ((List.finRange BOARD_NLEDS).map fun i => .configgpio (g_ledcfg i), BOARD_NLEDS)

/-- `board_userled (led, ledon)`: the test `(unsigned)led < nitems(g_ledcfg)` reads the 32-bit
pattern of `led`. -/
def board_userled (led : Int32) (ledon : Bool) : List GpioOp :=
  if h : led.toUInt32.toNat < BOARD_NLEDS then
    [.gpiowrite (g_ledcfg ⟨led.toUInt32.toNat, h⟩) ledon]
  else []

def board_userled_all (ledset : UInt32) : List GpioOp :=
  (List.finRange BOARD_NLEDS).map fun i =>
    .gpiowrite (g_ledcfg i) ((ledset &&& 1 <<< UInt32.ofNat i) != 0)

theorem g_ledcfg_eq : g_ledcfg = g_ledmap := rfl

theorem toInt_eq_natCast_iff (led : Int32) {k : ℕ} (hk : k < 2 ^ 31) :
    led.toInt = k ↔ led.toUInt32.toNat = k := by
  have hint : led.toInt = led.toBitVec.toInt := (Int32.toInt_toBitVec led).symm
  have hnat : led.toUInt32.toNat = led.toBitVec.toNat := rfl
  have hlt := led.toBitVec.isLt
  rw [hint, hnat, BitVec.toInt_eq_toNat_cond]
  split_ifs <;> omega

theorem toNat_one_shiftLeft {i : ℕ} (hi : i < 32) : (1 <<< UInt32.ofNat i : UInt32).toNat = 2 ^ i := by
  rw [UInt32.toNat_shiftLeft, UInt32.toNat_ofNat', Nat.mod_eq_of_lt (by omega : i < 2 ^ 32),
    Nat.mod_eq_of_lt hi, show (1 : UInt32).toNat = 1 from rfl, Nat.one_shiftLeft,
    Nat.mod_eq_of_lt (Nat.pow_lt_pow_right (by decide) hi)]

theorem and_one_shiftLeft_ne_zero (ledset : UInt32) {i : ℕ} (hi : i < 32) :
    ((ledset &&& 1 <<< UInt32.ofNat i) != 0) = ledset.toNat.testBit i := by
  have hand : (ledset &&& 1 <<< UInt32.ofNat i).toNat = (ledset.toNat.testBit i).toNat * 2 ^ i := by
    rw [UInt32.toNat_and, toNat_one_shiftLeft hi, Nat.and_two_pow]
  cases hb : ledset.toNat.testBit i with
  | false =>
    have h0 : ledset &&& 1 <<< UInt32.ofNat i = 0 := UInt32.toNat_inj.mp (by simp [hand, hb])
    simp [h0]
  | true =>
    have h0 : ledset &&& 1 <<< UInt32.ofNat i ≠ 0 := fun h => by
      have := congrArg UInt32.toNat h
      rw [hand, hb] at this
      simp at this
    simp [h0]

theorem pinEffect_map_phy_set_led (leds : List (Fin BOARD_NLEDS)) (f : Fin BOARD_NLEDS → Bool)
    (i : Fin BOARD_NLEDS) (b : Bool) :
    pinEffect (leds.map fun j => phy_set_led j (f j)) (ledPin i) b = if i ∈ leds then f i else b := by
  induction leds generalizing b with
  | nil => simp
  | cons j js ih =>
    rw [List.map_cons, pinEffect_cons, ih, phy_set_led_writes]
    by_cases hij : j = i
    · subst hij
      simp
    · simp [hij, Ne.symm hij]

theorem applyOps_of_not_ledPin {ops : List GpioOp}
    (hops : ∀ op ∈ ops, ∃ led v, op = phy_set_led led v) {q : ℕ × ℕ}
    (hq : ∀ led, q ≠ ledPin led) (odr : Odr) : applyOps ops odr q = odr q := by
  rw [applyOps_apply, pinEffect_of_forall]
  intro op hop
  obtain ⟨led, v, rfl⟩ := hops op hop
  exact writes_of_ne (hq led) v

/-- `board_userled` drives the LED numbered `led` when there is one, and no other pin: a negative
number writes nothing. -/
theorem board_userled_sets_led (led : Int32) (ledon : Bool) (odr : Odr) :
    (∀ i : Fin BOARD_NLEDS, ledState (applyOps (board_userled led ledon) odr) i =
      if led.toInt = i then ledon else ledState odr i) ∧
    ∀ q, (∀ i, q ≠ ledPin i) → applyOps (board_userled led ledon) odr q = odr q := by
  refine ⟨fun i => ?_, fun q hq => ?_⟩
  · have hi : led.toInt = i ↔ led.toUInt32.toNat = i :=
      toInt_eq_natCast_iff led (lt_trans i.isLt (by decide))
    rw [ledState_applyOps, if_congr hi rfl rfl]
    unfold board_userled
    split_ifs with hlt heq heq
    · have hj : (⟨_, hlt⟩ : Fin BOARD_NLEDS) = i := Fin.ext heq
      simp [g_ledcfg_eq, ← phy_set_led.eq_def, phy_set_led_writes, hj]
    · have hj : (⟨_, hlt⟩ : Fin BOARD_NLEDS) ≠ i := fun h => heq (congrArg Fin.val h)
      simp [g_ledcfg_eq, ← phy_set_led.eq_def, phy_set_led_writes, hj]
    · exact absurd (heq ▸ i.isLt) hlt
    · rfl
  · apply applyOps_of_not_ledPin _ hq
    unfold board_userled
    split_ifs
    · intro op hop
      exact ⟨_, ledon, List.mem_singleton.mp hop⟩
    · simp

/-- `board_userled_all` drives each LED to its bit of `ledset`, and no other pin. -/
theorem board_userled_all_sets_leds (ledset : UInt32) (odr : Odr) :
    (∀ i : Fin BOARD_NLEDS,
      ledState (applyOps (board_userled_all ledset) odr) i = ledset.toNat.testBit i) ∧
    ∀ q, (∀ i, q ≠ ledPin i) → applyOps (board_userled_all ledset) odr q = odr q := by
  have hops : board_userled_all ledset = (List.finRange BOARD_NLEDS).map
      fun j => phy_set_led j ((ledset &&& 1 <<< UInt32.ofNat j) != 0) := rfl
  refine ⟨fun i => ?_, fun q hq => ?_⟩
  · have hi : (i : ℕ) < 32 := lt_trans i.isLt (by decide)
    rw [ledState_applyOps, hops, pinEffect_map_phy_set_led, if_pos (List.mem_finRange i),
      and_one_shiftLeft_ne_zero ledset hi]
  · apply applyOps_of_not_ledPin _ hq
    rw [hops]
    intro op hop
    obtain ⟨j, -, rfl⟩ := List.mem_map.mp hop
    exact ⟨j, _, rfl⟩

end NucleoH753zi.Leds
