import NucleoH753zi.Buttons
import NucleoH753zi.Leds
import NucleoH753zi.Machine

/-!
# The GPIO character devices

`stm32_gpio.c` registers the board's pins with the GPIO upper half as `/dev/gpio0` to `/dev/gpio4`:
the input table (the user button), the output table (the three LEDs, each driven low before it
is configured) and the interrupt table (`GPIO_INT1`, PE5), in that order, with one counter for the
device numbers. `register_driver` refuses a taken path with `-EEXIST`, and the board ignores what
`gpio_pin_register` returns, so a second `stm32_gpio_initialize` registers nothing but still runs
its pin loops.

The interrupt devices are a machine (`gpintStep`) over the calls of the upper half and the edges
on the pins. Its invariant `Safe`, that a line has the handler only for a device with a callback,
holds along every run, so the handler's assertion never fails; through `mode` the machine refines
`modeStep`: a pin is detached, attached to a callback, or enabled, and only an enabled pin
delivers its edges. Only `gpioinfo` and `gpioerr` messages and `total_pins` are left out.
-/

namespace NucleoH753zi.GpioDriver

open Libc Leds

/-- Values of `enum gpio_pintype_e`. -/
def GPIO_INPUT_PIN : ℕ := 0
def GPIO_OUTPUT_PIN : ℕ := 3
def GPIO_INTERRUPT_PIN : ℕ := 5

def BOARD_NGPIOIN : ℕ := 1
def BOARD_NGPIOOUT : ℕ := 3
def BOARD_NGPIOINT : ℕ := 1

def GPIO_INT1 : ℕ := GPIO_INPUT ||| GPIO_FLOAT ||| GPIO_PORT 4 ||| GPIO_PIN 5

def g_gpioinputs : Fin BOARD_NGPIOIN → ℕ := ![Buttons.GPIO_BTN_BUILT_IN]
def g_gpiooutputs : Fin BOARD_NGPIOOUT → ℕ := ![GPIO_LD1, GPIO_LD2, GPIO_LD3]
def g_gpiointinputs : Fin BOARD_NGPIOINT → ℕ := ![GPIO_INT1]

/-- Which methods a `gpio_operations_s` table sets; one left out of its initializer is NULL. -/
structure gpio_operations_s where
  go_read : Bool
  go_write : Bool
  go_attach : Bool
  go_enable : Bool
  go_setpintype : Bool
  deriving DecidableEq, Repr

def g_gpin_ops : gpio_operations_s := ⟨true, false, false, false, false⟩
def g_gpout_ops : gpio_operations_s := ⟨true, true, false, false, false⟩
def g_gpint_ops : gpio_operations_s := ⟨true, false, true, true, false⟩

/-! ## Interrupt devices -/

def extiLine (id : Fin BOARD_NGPIOINT) : ℕ := pinOf (g_gpiointinputs id)

/-- The callbacks of `g_gpint_devices`, and for each EXTI line the argument given to
`stm32_gpio_interrupt_handler` when `stm32_gpiosetevent` has set it there: the device. -/
structure GpintState (CB : Type*) where
  callback : Fin BOARD_NGPIOINT → Option CB
  handler : ℕ → Option (Fin BOARD_NGPIOINT)

variable {CB : Type*}

def GpintState.reset : GpintState CB := ⟨fun _ => none, fun _ => none⟩

/-- `stm32_gpiosetevent (pinset, ...)` with the board's handler and `arg`, or with none. -/
def stm32_gpiosetevent (s : GpintState CB) (pinset : ℕ) (arg : Option (Fin BOARD_NGPIOINT)) :
    GpintState CB :=
  { s with handler := Function.update s.handler (pinOf pinset) arg }

def stm32_gpint_attach (s : GpintState CB) (id : Fin BOARD_NGPIOINT) (callback : Option CB) :
    GpintState CB × ℤ :=
  let s := stm32_gpiosetevent s (g_gpiointinputs id) none
  ({ s with callback := Function.update s.callback id callback }, OK)

def stm32_gpint_enable (s : GpintState CB) (id : Fin BOARD_NGPIOINT) (enable : Bool) :
    GpintState CB × ℤ :=
  if enable then
    if (s.callback id).isNone then (s, -EINVAL)
    else (stm32_gpiosetevent s (g_gpiointinputs id) (some id), OK)
  else (stm32_gpiosetevent s (g_gpiointinputs id) none, OK)

inductive GpintOut (CB : Type*)
  /-- a driver method returned this -/
  | ret (r : ℤ)
  /-- no handler is set on the line of the edge -/
  | idle
  /-- the handler called the callback with the device's pin id -/
  | called (callback : CB) (pin : ℕ)
  /-- `DEBUGASSERT (stm32gpint->callback != NULL)` failed -/
  | assertFailed

def stm32_gpio_interrupt_handler (s : GpintState CB) (arg : Fin BOARD_NGPIOINT) : GpintOut CB :=
  match s.callback arg with
  | none => .assertFailed
  | some callback => .called callback arg

inductive GpintOp (CB : Type*)
  | attach (id : Fin BOARD_NGPIOINT) (callback : Option CB)
  | enable (id : Fin BOARD_NGPIOINT) (enable : Bool)
  | edge (id : Fin BOARD_NGPIOINT)

def gpintStep (s : GpintState CB) : GpintOp CB → GpintState CB × GpintOut CB
  | .attach id callback => ((stm32_gpint_attach s id callback).1, .ret (stm32_gpint_attach s id callback).2)
  | .enable id enable => ((stm32_gpint_enable s id enable).1, .ret (stm32_gpint_enable s id enable).2)
  | .edge id =>
    (s, match s.handler (extiLine id) with
      | none => .idle
      | some arg => stm32_gpio_interrupt_handler s arg)

/-- The handler is set on a line only for the device of that line, and only while the device
has a callback. -/
def Safe (s : GpintState CB) : Prop :=
  ∀ line id, s.handler line = some id → line = extiLine id ∧ (s.callback id).isSome

theorem safe_reset : Safe (GpintState.reset : GpintState CB) := by
  intro line id h
  cases h

/-! ### What one step does -/

section Step

variable (s : GpintState CB) (id : Fin BOARD_NGPIOINT)

theorem gpintStep_attach (callback : Option CB) :
    gpintStep s (.attach id callback) =
      (⟨Function.update s.callback id callback, Function.update s.handler (extiLine id) none⟩,
        .ret OK) := rfl

theorem gpintStep_enable_false :
    gpintStep s (.enable id false) =
      (⟨s.callback, Function.update s.handler (extiLine id) none⟩, .ret OK) := rfl

theorem gpintStep_enable_of_none (h : s.callback id = none) :
    gpintStep s (.enable id true) = (s, .ret (-EINVAL)) := by
  simp [gpintStep, stm32_gpint_enable, h]

theorem gpintStep_enable_of_some {callback : CB} (h : s.callback id = some callback) :
    gpintStep s (.enable id true) =
      (⟨s.callback, Function.update s.handler (extiLine id) (some id)⟩, .ret OK) := by
  simp [gpintStep, stm32_gpint_enable, stm32_gpiosetevent, extiLine, h]

theorem gpintStep_edge :
    gpintStep s (.edge id) =
      (s, match s.handler (extiLine id) with
        | none => .idle
        | some arg => stm32_gpio_interrupt_handler s arg) := rfl

end Step

theorem extiLine_injective : Function.Injective extiLine := by
  decide

theorem Safe.update_none {s : GpintState CB} (hs : Safe s) (line : ℕ)
    {callback : Fin BOARD_NGPIOINT → Option CB}
    (hcb : ∀ id, extiLine id ≠ line → callback id = s.callback id) :
    Safe ⟨callback, Function.update s.handler line none⟩ := by
  intro line' id h
  dsimp only at h ⊢
  by_cases hl : line' = line
  · subst hl
    simp at h
  · rw [Function.update_of_ne hl] at h
    obtain ⟨rfl, hsome⟩ := hs _ _ h
    exact ⟨rfl, by rw [hcb id hl]; exact hsome⟩

theorem safe_gpintStep {s : GpintState CB} (hs : Safe s) (op : GpintOp CB) :
    Safe (gpintStep s op).1 := by
  cases op with
  | attach id callback =>
    rw [gpintStep_attach]
    refine hs.update_none _ fun id' h' => Function.update_of_ne ?_ _ _
    rintro rfl
    exact h' rfl
  | enable id enable =>
    cases enable with
    | false => exact hs.update_none _ fun _ _ => rfl
    | true =>
      cases hcb : s.callback id with
      | none => rw [gpintStep_enable_of_none s id hcb]; exact hs
      | some callback =>
        rw [gpintStep_enable_of_some s id hcb]
        intro line id' h
        dsimp only at h ⊢
        by_cases hl : line = extiLine id
        · subst hl
          simp only [Function.update_self, Option.some.injEq] at h
          subst h
          simp [hcb]
        · rw [Function.update_of_ne hl] at h
          exact hs _ _ h
  | edge id => exact hs

theorem gpintStep_snd_ne_assertFailed {s : GpintState CB} (hs : Safe s) (op : GpintOp CB) :
    (gpintStep s op).2 ≠ .assertFailed := by
  cases op with
  | attach id callback => simp [gpintStep_attach]
  | enable id enable => simp [gpintStep]
  | edge id =>
    rw [gpintStep_edge]
    cases h : s.handler (extiLine id) with
    | none => simp
    | some arg =>
      obtain ⟨-, hsome⟩ := hs _ _ h
      obtain ⟨callback, hcb⟩ := Option.isSome_iff_exists.mp hsome
      simp [stm32_gpio_interrupt_handler, hcb]

/-! ### The abstract interrupt pin -/

inductive PinMode (CB : Type*)
  | detached
  | attached (callback : CB)
  | enabled (callback : CB)

/-- `enable (false)` turns an enabled pin back into an attached one. -/
def PinMode.disable : PinMode CB → PinMode CB
  | .enabled callback => .attached callback
  | m => m

/-- Each pin on its own: attaching replaces the callback and disables the pin, enabling needs a
callback, and only an enabled pin delivers an edge. -/
def modeStep (m : Fin BOARD_NGPIOINT → PinMode CB) :
    GpintOp CB → (Fin BOARD_NGPIOINT → PinMode CB) × GpintOut CB
  | .attach id none => (Function.update m id .detached, .ret OK)
  | .attach id (some callback) => (Function.update m id (.attached callback), .ret OK)
  | .enable id true =>
    match m id with
    | .detached => (m, .ret (-EINVAL))
    | .attached callback | .enabled callback => (Function.update m id (.enabled callback), .ret OK)
  | .enable id false => (Function.update m id (m id).disable, .ret OK)
  | .edge id =>
    (m, match m id with
      | .enabled callback => .called callback id
      | _ => .idle)

def mode (s : GpintState CB) (id : Fin BOARD_NGPIOINT) : PinMode CB :=
  match s.callback id, s.handler (extiLine id) with
  | none, _ => .detached
  | some callback, none => .attached callback
  | some callback, some _ => .enabled callback

/-- The calls the upper half's `GPIOC_REGISTER` makes when it registers the first waiter of a
pin: `go_attach (dev, gpio_handler)`, then, as that returns OK, `go_enable (dev, true)`. -/
def registerCalls (id : Fin BOARD_NGPIOINT) (handler : CB) : List (GpintOp CB) :=
  [.attach id (some handler), .enable id true]

theorem run_modeStep_registerCalls (m : Fin BOARD_NGPIOINT → PinMode CB) (id : Fin BOARD_NGPIOINT)
    (handler : CB) :
    Machine.run modeStep m (registerCalls id handler) =
      (Function.update m id (.enabled handler), [.ret OK, .ret OK]) := by
  simp [registerCalls, modeStep]

theorem run_modeStep_edges {m : Fin BOARD_NGPIOINT → PinMode CB} {id : Fin BOARD_NGPIOINT}
    {callback : CB} (hm : m id = .enabled callback) (k : ℕ) :
    Machine.run modeStep m (List.replicate k (.edge id)) =
      (m, List.replicate k (.called callback id)) := by
  induction k with
  | zero => rfl
  | succ k ih =>
    rw [List.replicate_succ, Machine.run_cons]
    have hstep : modeStep m (.edge id) = (m, .called callback id) := by
      simp [modeStep, hm]
    rw [hstep, ih, List.replicate_succ]

theorem mode_update (s : GpintState CB) {id : Fin BOARD_NGPIOINT}
    {callback : Fin BOARD_NGPIOINT → Option CB}
    (hcb : ∀ id', id' ≠ id → callback id' = s.callback id') (arg : Option (Fin BOARD_NGPIOINT)) :
    mode ⟨callback, Function.update s.handler (extiLine id) arg⟩ =
      Function.update (mode s) id (mode ⟨callback, Function.update s.handler (extiLine id) arg⟩ id) := by
  funext id'
  by_cases hid : id' = id
  · subst hid
    rw [Function.update_self]
  · rw [Function.update_of_ne hid]
    simp only [mode, hcb id' hid, Function.update_of_ne (extiLine_injective.ne hid)]

theorem mode_gpintStep {s : GpintState CB} (hs : Safe s) (op : GpintOp CB) :
    (mode (gpintStep s op).1, (gpintStep s op).2) = modeStep (mode s) op := by
  cases op with
  | attach id callback =>
    rw [gpintStep_attach, mode_update s (fun _ h => Function.update_of_ne h _ _)]
    cases callback <;> simp [mode, modeStep]
  | enable id enable =>
    cases enable with
    | false =>
      rw [gpintStep_enable_false, mode_update s (fun _ _ => rfl)]
      cases hcb : s.callback id with
      | none => simp [mode, modeStep, hcb, PinMode.disable]
      | some callback =>
        cases hh : s.handler (extiLine id) <;> simp [mode, modeStep, hcb, hh, PinMode.disable]
    | true =>
      cases hcb : s.callback id with
      | none =>
        rw [gpintStep_enable_of_none s id hcb]
        simp [mode, modeStep, hcb]
      | some callback =>
        rw [gpintStep_enable_of_some s id hcb, mode_update s (fun _ _ => rfl)]
        cases hh : s.handler (extiLine id) <;> simp [mode, modeStep, hcb, hh]
  | edge id =>
    rw [gpintStep_edge]
    cases hh : s.handler (extiLine id) with
    | none =>
      cases hcb : s.callback id <;> simp [mode, modeStep, hcb, hh]
    | some arg =>
      obtain ⟨hline, hsome⟩ := hs _ _ hh
      obtain rfl : arg = id := extiLine_injective hline.symm
      obtain ⟨callback, hcb⟩ := Option.isSome_iff_exists.mp hsome
      simp [mode, modeStep, hcb, hh, stm32_gpio_interrupt_handler]

/-! ## Registration and initialisation -/

/-- A device registered with the upper half as `/dev/gpio<minor>`: its pin type, its operation
table and its index `id` in its table. -/
structure Registration where
  minor : ℕ
  pintype : ℕ
  ops : gpio_operations_s
  id : ℕ
  deriving DecidableEq, Repr

/-- What `stm32_gpio_initialize` changes: the interrupt devices, the calls made to the GPIO
driver and the devices registered, each in order. -/
structure DriverState (CB : Type*) where
  gpint : GpintState CB
  gpio : List GpioOp
  devices : List Registration

/-- `dev->gp_ops->go_enable (dev, enable)`: the board's one `go_enable` is `stm32_gpint_enable`,
on the interrupt device `dev->id`, which is below `BOARD_NGPIOINT`. -/
def go_enable (s : GpintState CB) (dev : Registration) (enable : Bool) : GpintState CB × ℤ :=
  if h : dev.id < BOARD_NGPIOINT then stm32_gpint_enable s ⟨dev.id, h⟩ enable else (s, OK)

/-- `dev->gp_ops->go_attach (dev, callback)`: the board's one `go_attach` is
`stm32_gpint_attach`. -/
def go_attach (s : GpintState CB) (dev : Registration) (callback : Option CB) : GpintState CB × ℤ :=
  if h : dev.id < BOARD_NGPIOINT then stm32_gpint_attach s ⟨dev.id, h⟩ callback else (s, OK)

/-- `register_driver ("/dev/gpio<minor>", ...)`, which refuses a path that is taken. -/
def register_driver (devices : List Registration) (dev : Registration) : List Registration × ℤ :=
  if dev.minor ∈ devices.map Registration.minor then (devices, -EEXIST) else (devices ++ [dev], OK)

/-- `gpio_pin_register (dev, minor)` of the upper half, through the body of
`gpio_pin_register_byname`: an interrupt pin is first disabled through its `go_enable`, and is not
registered if that fails; then `register_driver`. -/
def gpio_pin_register (st : DriverState CB) (dev : Registration) : DriverState CB × ℤ :=
  if dev.pintype < GPIO_INTERRUPT_PIN then
    let r := register_driver st.devices dev
    ({ st with devices := r.1 }, r.2)
  else
    let e := go_enable st.gpint dev false
    if e.2 < 0 then ({ st with gpint := e.1 }, e.2)
    else
      let r := register_driver st.devices dev
      ({ st with gpint := e.1, devices := r.1 }, r.2)

/-- One round of the loop of the three `stm32_gpio_init_*_pins`, over a table of `n` pins:
device `i` gets its fields (`device`; only an interrupt device has state of its own, its
callback), is registered as `/dev/gpio<pincount>` and `pincount` counted up, and its pin is set up
(`configure`). The state, `pincount` and `pins_initialized` are carried round the loop. -/
def initPin {n : ℕ} (pintype : ℕ) (ops : gpio_operations_s) (table : Fin n → ℕ)
    (device : GpintState CB → Fin n → GpintState CB) (configure : ℕ → List GpioOp)
    (r : DriverState CB × ℕ × ℕ) (i : Fin n) : DriverState CB × ℕ × ℕ :=
  let st := (gpio_pin_register { r.1 with gpint := device r.1.gpint i } ⟨r.2.1, pintype, ops, i⟩).1
  ({ st with gpio := st.gpio ++ configure (table i) }, r.2.1 + 1, r.2.2 + 1)

def initPins {n : ℕ} (pintype : ℕ) (ops : gpio_operations_s) (table : Fin n → ℕ)
    (device : GpintState CB → Fin n → GpintState CB) (configure : ℕ → List GpioOp)
    (st : DriverState CB) (pincount : ℕ) : DriverState CB × ℕ × ℕ :=
  (List.finRange n).foldl (initPin pintype ops table device configure) (st, pincount, 0)

def stm32_gpio_init_input_pins (st : DriverState CB) (pincount : ℕ) : DriverState CB × ℕ × ℕ :=
  initPins GPIO_INPUT_PIN g_gpin_ops g_gpioinputs (fun s _ => s) (fun w => [.configgpio w]) st
    pincount

/-- Each output is driven low before it is configured. -/
def stm32_gpio_init_output_pins (st : DriverState CB) (pincount : ℕ) : DriverState CB × ℕ × ℕ :=
  initPins GPIO_OUTPUT_PIN g_gpout_ops g_gpiooutputs (fun s _ => s)
    (fun w => [.gpiowrite w false, .configgpio w]) st pincount

/-- Each interrupt device starts with no callback. -/
def stm32_gpio_init_interrupt_pins (st : DriverState CB) (pincount : ℕ) :
    DriverState CB × ℕ × ℕ :=
  initPins GPIO_INTERRUPT_PIN g_gpint_ops g_gpiointinputs
    (fun s i => { s with callback := Function.update s.callback i none }) (fun w => [.configgpio w])
    st pincount

def stm32_gpio_initialize (st : DriverState CB) : DriverState CB × ℤ :=
  let pincount := 0
  let r := stm32_gpio_init_input_pins st pincount
  let r := stm32_gpio_init_output_pins r.1 r.2.1
  let r := stm32_gpio_init_interrupt_pins r.1 r.2.1
  (r.1, OK)

section Init

theorem go_enable_false_snd (s : GpintState CB) (dev : Registration) :
    (go_enable s dev false).2 = OK := by
  unfold go_enable
  split <;> rfl

theorem register_driver_of_free {devices : List Registration} {dev : Registration}
    (h : dev.minor ∉ devices.map Registration.minor) :
    register_driver devices dev = (devices ++ [dev], OK) :=
  if_neg h

/-- Disabling an interrupt pin always succeeds, so what `gpio_pin_register` registers and returns is
what `register_driver` does. -/
theorem gpio_pin_register_eq (st : DriverState CB) (dev : Registration) :
    (gpio_pin_register st dev).1.devices = (register_driver st.devices dev).1 ∧
      (gpio_pin_register st dev).2 = (register_driver st.devices dev).2 := by
  unfold gpio_pin_register
  by_cases h : dev.pintype < GPIO_INTERRUPT_PIN
  · simp [h]
  · have hok : ¬ (go_enable st.gpint dev false).2 < 0 := by
      rw [go_enable_false_snd]
      decide
    simp [h, hok]

@[simp] theorem gpio_pin_register_gpio (st : DriverState CB) (dev : Registration) :
    (gpio_pin_register st dev).1.gpio = st.gpio := by
  unfold gpio_pin_register
  by_cases h : dev.pintype < GPIO_INTERRUPT_PIN
  · simp [h]
  · simp only [h, if_false]
    split_ifs <;> rfl

theorem gpio_pin_register_gpint_of_lt (st : DriverState CB) {dev : Registration}
    (h : dev.pintype < GPIO_INTERRUPT_PIN) : (gpio_pin_register st dev).1.gpint = st.gpint := by
  simp [gpio_pin_register, h]

variable {n : ℕ} (pintype : ℕ) (ops : gpio_operations_s) (table : Fin n → ℕ)
  (device : GpintState CB → Fin n → GpintState CB) (configure : ℕ → List GpioOp)

theorem foldl_initPin (l : List (Fin n)) (st : DriverState CB) (pincount k : ℕ) :
    let r := l.foldl (initPin pintype ops table device configure) (st, pincount, k)
    r.1.gpio = st.gpio ++ l.flatMap (fun i => configure (table i)) ∧
      r.2.1 = pincount + l.length ∧ r.2.2 = k + l.length := by
  induction l generalizing st pincount k with
  | nil => simp
  | cons i l ih =>
    obtain ⟨h2, h3, h4⟩ := ih (initPin pintype ops table device configure (st, pincount, k) i).1
      (pincount + 1) (k + 1)
    refine ⟨?_, ?_, ?_⟩
    · rw [List.foldl_cons, List.flatMap_cons]
      refine h2.trans ?_
      simp [initPin]
    · rw [List.foldl_cons, List.length_cons]
      exact h3.trans (by omega)
    · rw [List.foldl_cons, List.length_cons]
      exact h4.trans (by omega)

theorem initPin_devices (st : DriverState CB) (pincount k : ℕ) (i : Fin n) :
    (initPin pintype ops table device configure (st, pincount, k) i).1.devices =
      (register_driver st.devices ⟨pincount, pintype, ops, i⟩).1 := by
  simp only [initPin, (gpio_pin_register_eq _ _).1]

theorem foldl_initPin_devices (l : List (Fin n)) (st : DriverState CB) (pincount k : ℕ)
    (hfree : ∀ d ∈ st.devices, d.minor < pincount ∨ pincount + l.length ≤ d.minor) :
    (l.foldl (initPin pintype ops table device configure) (st, pincount, k)).1.devices =
      st.devices ++ l.mapIdx (fun j i => ⟨pincount + j, pintype, ops, i⟩) := by
  induction l generalizing st pincount k with
  | nil => simp
  | cons i l ih =>
    have hnew : pincount ∉ st.devices.map Registration.minor := by
      simp only [List.mem_map, not_exists, not_and]
      intro d hd hmin
      have := hfree d hd
      simp only [List.length_cons] at this
      omega
    have hstep : (initPin pintype ops table device configure (st, pincount, k) i).1.devices =
        st.devices ++ [⟨pincount, pintype, ops, i⟩] :=
      (initPin_devices pintype ops table device configure st pincount k i).trans
        (congrArg Prod.fst (register_driver_of_free hnew))
    -- the device just registered is below the paths the rest of the loop takes
    have hfree' : ∀ d ∈ (initPin pintype ops table device configure (st, pincount, k) i).1.devices,
        d.minor < pincount + 1 ∨ pincount + 1 + l.length ≤ d.minor := by
      intro d hd
      rw [hstep, List.mem_append, List.mem_singleton] at hd
      rcases hd with hd | rfl
      · have := hfree d hd
        simp only [List.length_cons] at this
        omega
      · exact Or.inl (Nat.lt_succ_self _)
    rw [List.foldl_cons]
    refine (ih _ (pincount + 1) (k + 1) hfree').trans ?_
    rw [hstep, List.mapIdx_cons, List.append_assoc]
    simp [Nat.add_assoc, Nat.add_comm 1]

theorem foldl_initPin_gpint_of_lt (h : pintype < GPIO_INTERRUPT_PIN) (l : List (Fin n))
    (r : DriverState CB × ℕ × ℕ) :
    (l.foldl (initPin pintype ops table (fun s _ => s) configure) r).1.gpint = r.1.gpint := by
  induction l generalizing r with
  | nil => rfl
  | cons i l ih =>
    rw [List.foldl_cons, ih]
    exact gpio_pin_register_gpint_of_lt _ h

theorem initPins_spec (st : DriverState CB) (pincount : ℕ) :
    let r := initPins pintype ops table device configure st pincount
    r.1.gpio = st.gpio ++ (List.finRange n).flatMap (fun i => configure (table i)) ∧
      r.2.1 = pincount + n ∧ r.2.2 = n := by
  have h := foldl_initPin pintype ops table device configure (List.finRange n) st pincount 0
  simp only [List.length_finRange, Nat.zero_add] at h
  exact h

theorem initPins_devices (st : DriverState CB) (pincount hi : ℕ) (hn : pincount + n ≤ hi)
    (hfree : ∀ d ∈ st.devices, d.minor < pincount ∨ hi ≤ d.minor) :
    let r := initPins pintype ops table device configure st pincount
    r.1.devices = st.devices ++ (List.finRange n).mapIdx (fun j i => ⟨pincount + j, pintype, ops, i⟩) ∧
      ∀ d ∈ r.1.devices, d.minor < pincount + n ∨ hi ≤ d.minor := by
  intro r
  have hdev : r.1.devices = st.devices ++
      (List.finRange n).mapIdx (fun j i => ⟨pincount + j, pintype, ops, i⟩) := by
    refine foldl_initPin_devices pintype ops table device configure _ st pincount 0 fun d hd => ?_
    have := hfree d hd
    rw [List.length_finRange]
    omega
  refine ⟨hdev, fun d hd => ?_⟩
  rw [hdev, List.mem_append] at hd
  rcases hd with hd | hd
  · have := hfree d hd
    omega
  · obtain ⟨j, hj, rfl⟩ := List.mem_mapIdx.mp hd
    rw [List.length_finRange] at hj
    exact Or.inl (by dsimp only; omega)

end Init

/-- The devices `stm32_gpio_initialize` registers: the button, the three LEDs, the interrupt
pin. -/
def boardDevices : List Registration :=
  [⟨0, GPIO_INPUT_PIN, g_gpin_ops, 0⟩, ⟨1, GPIO_OUTPUT_PIN, g_gpout_ops, 0⟩,
    ⟨2, GPIO_OUTPUT_PIN, g_gpout_ops, 1⟩, ⟨3, GPIO_OUTPUT_PIN, g_gpout_ops, 2⟩,
    ⟨4, GPIO_INTERRUPT_PIN, g_gpint_ops, 0⟩]

def boardGpio : List GpioOp :=
  [.configgpio Buttons.GPIO_BTN_BUILT_IN, .gpiowrite GPIO_LD1 false, .configgpio GPIO_LD1,
    .gpiowrite GPIO_LD2 false, .configgpio GPIO_LD2, .gpiowrite GPIO_LD3 false,
    .configgpio GPIO_LD3, .configgpio GPIO_INT1]

theorem ledState_boardGpio (odr : Odr) (led : Fin BOARD_NLEDS) :
    ledState (applyOps boardGpio odr) led = false := by
  have hlast : ∀ led, (boardGpio.filterMap (GpioOp.writes (ledPin led))).getLast? = some false := by
    decide
  rw [ledState_applyOps, pinEffect_eq_getLast, hlast]
  rfl

theorem stm32_gpio_initialize_devices (st : DriverState CB) (hfree : ∀ d ∈ st.devices, 5 ≤ d.minor) :
    ( stm32_gpio_initialize st).1.devices = st.devices ++ boardDevices := by
  simp only [ stm32_gpio_initialize, stm32_gpio_init_interrupt_pins, stm32_gpio_init_output_pins,
    stm32_gpio_init_input_pins, (initPins_spec _ _ _ _ _ _ _).2.1]
  -- each table starts where the one before it stopped counting, below the paths taken before
  obtain ⟨h1, f1⟩ := initPins_devices GPIO_INPUT_PIN g_gpin_ops g_gpioinputs (fun s _ => s)
    (fun w => [.configgpio w]) st 0 5 (by decide) fun d hd => Or.inr (hfree d hd)
  obtain ⟨h2, f2⟩ := initPins_devices GPIO_OUTPUT_PIN g_gpout_ops g_gpiooutputs (fun s _ => s)
    (fun w => [.gpiowrite w false, .configgpio w]) _ _ 5 (by decide) f1
  obtain ⟨h3, -⟩ := initPins_devices GPIO_INTERRUPT_PIN g_gpint_ops g_gpiointinputs
    (fun s i => { s with callback := Function.update s.callback i none }) (fun w => [.configgpio w])
    _ _ 5 (by decide) f2
  rw [h3, h2, h1, List.append_assoc, List.append_assoc]
  rfl

theorem stm32_gpio_initialize_gpio (st : DriverState CB) :
    ( stm32_gpio_initialize st).1.gpio = st.gpio ++ boardGpio := by
  simp only [ stm32_gpio_initialize, stm32_gpio_init_interrupt_pins, stm32_gpio_init_output_pins,
    stm32_gpio_init_input_pins, (initPins_spec _ _ _ _ _ _ _).1, List.append_assoc]
  rfl

theorem gpio_pin_register_gpint_of_le (st : DriverState CB) {dev : Registration}
    (h : GPIO_INTERRUPT_PIN ≤ dev.pintype) :
    (gpio_pin_register st dev).1.gpint = (go_enable st.gpint dev false).1 := by
  have hlt : ¬ dev.pintype < GPIO_INTERRUPT_PIN := by omega
  unfold gpio_pin_register
  simp only [hlt, if_false]
  split_ifs <;> rfl

theorem initPin_interrupt_gpint (configure : ℕ → List GpioOp) (r : DriverState CB × ℕ × ℕ)
    (i : Fin BOARD_NGPIOINT) :
    (initPin GPIO_INTERRUPT_PIN g_gpint_ops g_gpiointinputs
        (fun s i => { s with callback := Function.update s.callback i none }) configure r i).1.gpint =
      ⟨Function.update r.1.gpint.callback i none, Function.update r.1.gpint.handler (extiLine i) none⟩ := by
  simp only [initPin]
  rw [gpio_pin_register_gpint_of_le _ le_rfl]
  simp only [go_enable, i.isLt, dif_pos]
  rfl

/-- Every interrupt device ends with no callback and no handler on its line; the other lines
are left as they were. -/
theorem stm32_gpio_initialize_gpint (st : DriverState CB) :
    ( stm32_gpio_initialize st).1.gpint =
      ⟨fun _ => none, Function.update st.gpint.handler (pinOf GPIO_INT1) none⟩ := by
  have hio : (stm32_gpio_init_output_pins (stm32_gpio_init_input_pins st 0).1
      (stm32_gpio_init_input_pins st 0).2.1).1.gpint = st.gpint := by
    rw [stm32_gpio_init_output_pins, initPins, foldl_initPin_gpint_of_lt _ _ _ _ (by decide),
      stm32_gpio_init_input_pins, initPins, foldl_initPin_gpint_of_lt _ _ _ _ (by decide)]
  simp only [ stm32_gpio_initialize, stm32_gpio_init_interrupt_pins, initPins,
    show List.finRange BOARD_NGPIOINT = [⟨0, by decide⟩] from rfl, List.foldl_cons, List.foldl_nil,
    initPin_interrupt_gpint, hio]
  congr 1
  funext id
  have hid : id.val = 0 := by
    have := id.isLt
    simp only [BOARD_NGPIOINT] at this
    omega
  obtain rfl : id = ⟨0, by decide⟩ := Fin.ext hid
  rw [Function.update_self]

/-- After `stm32_gpio_initialize` from reset, every run of the interrupt devices is a run of their
modes from all detached, outputs included, and no edge makes the handler's assertion fail. -/
theorem stm32_gpint_refines_mode (gpio : List GpioOp) (devices : List Registration)
    (ops : List (GpintOp CB)) :
    let s := ( stm32_gpio_initialize (⟨GpintState.reset, gpio, devices⟩ : DriverState CB)).1.gpint
    (mode (Machine.run gpintStep s ops).1, (Machine.run gpintStep s ops).2) =
        Machine.run modeStep (fun _ => .detached) ops ∧
      GpintOut.assertFailed ∉ (Machine.run gpintStep s ops).2 := by
  intro s
  have hs : s = GpintState.reset := by
    simp only [s, stm32_gpio_initialize_gpint, GpintState.reset]
    congr 1
    funext line
    by_cases h : line = pinOf GPIO_INT1 <;> simp [h]
  have hsafe : Safe s := hs ▸ safe_reset
  have hmode : mode s = fun _ => .detached := by
    rw [hs]
    rfl
  refine ⟨?_, fun hmem => ?_⟩
  · rw [← hmode]
    exact Machine.run_map gpintStep Safe (fun _ op h => safe_gpintStep h op) modeStep mode
      (fun _ op h => mode_gpintStep h op) hsafe ops
  · obtain ⟨s', op, hs', hout⟩ :=
      Machine.mem_run_snd gpintStep Safe (fun _ op h => safe_gpintStep h op) hsafe hmem
    exact gpintStep_snd_ne_assertFailed hs' op hout

/-- Whatever ran before, once the upper half's `GPIOC_REGISTER` has attached and enabled its
handler on an interrupt device, both calls return OK and each edge on the pin calls that handler
with the device's id. -/
theorem gpioc_register_delivers_edges (gpio : List GpioOp) (devices : List Registration)
    (pre : List (GpintOp CB)) (id : Fin BOARD_NGPIOINT) (handler : CB) (k : ℕ) :
    let s := ( stm32_gpio_initialize (⟨GpintState.reset, gpio, devices⟩ : DriverState CB)).1.gpint
    (Machine.run gpintStep (Machine.run gpintStep s pre).1
        (registerCalls id handler ++ List.replicate k (.edge id))).2 =
      [.ret OK, .ret OK] ++ List.replicate k (.called handler id) := by
  intro s
  have hsafe : Safe (Machine.run gpintStep s pre).1 := by
    have hs : Safe s := by
      simp only [s, stm32_gpio_initialize_gpint]
      intro line id' h
      by_cases hl : line = pinOf GPIO_INT1 <;> simp [hl, GpintState.reset] at h
    exact Machine.run_invariant gpintStep Safe (fun _ op h => safe_gpintStep h op) hs pre
  have hmap := Machine.run_map gpintStep Safe (fun _ op h => safe_gpintStep h op) modeStep mode
    (fun _ op h => mode_gpintStep h op) hsafe (registerCalls id handler ++ List.replicate k (.edge id))
  have hout := congrArg Prod.snd hmap
  dsimp only at hout
  rw [hout, Machine.run_append, run_modeStep_registerCalls,
    run_modeStep_edges (Function.update_self _ _ _)]

end NucleoH753zi.GpioDriver
