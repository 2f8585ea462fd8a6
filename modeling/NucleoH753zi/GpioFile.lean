import NucleoH753zi.GpioUpper

/-!
# The board's GPIO device files

`stm32_gpio.c` gives the upper half the methods of its three tables: `stm32_gpin_read`,
`stm32_gpout_read` and `stm32_gpint_read` read the `IDR` bit of the pin of the device's entry in
its table, and `stm32_gpout_write` drives the output's pin. The three outputs are the LEDs, and
the kernel reports its state on the same pins through `board_autoled_on` and `board_autoled_off`:
the board's default LED mode is `CONFIG_NUCLEO_H753ZI_LEDS_AUTO`, and the option of the GPIO
driver does not exclude it. The board's machine `boardStep` takes both kinds of call, on the port
and the open files.

What the files are for is the machine `ledFilesStep`: `/dev/gpio1` to `/dev/gpio3` each hold the
level of an LED, which reading returns and writing sets, and which the kernel's reports set as the
table of `board.h` says (`ledStep`); `/dev/gpio0` and `/dev/gpio4` report the level applied to
PC13 and PE5. After `stm32_gpio_initialize`, the board's machine refines it, with every LED low.
-/

namespace NucleoH753zi.GpioFile

open Libc GpioDriver Leds

/-- `stm32_gpin_read`, `stm32_gpout_read` and `stm32_gpint_read`: `DEBUGASSERT (id < n)`, then
`stm32_gpioread` of the device's entry in the table. -/
def tableRead {n : ℕ} (table : Fin n → ℕ) (p : Port) (ext : ℕ × ℕ → Bool) (id : ℕ) :
    Option Bool :=
  if h : id < n then some (stm32_gpioread p ext (table ⟨id, h⟩)) else none

def stm32_gpin_read (p : Port) (ext : ℕ × ℕ → Bool) (id : ℕ) : Option Bool :=
  tableRead g_gpioinputs p ext id

def stm32_gpout_read (p : Port) (ext : ℕ × ℕ → Bool) (id : ℕ) : Option Bool :=
  tableRead g_gpiooutputs p ext id

def stm32_gpint_read (p : Port) (ext : ℕ × ℕ → Bool) (id : ℕ) : Option Bool :=
  tableRead g_gpiointinputs p ext id

def stm32_gpout_write (p : Port) (id : ℕ) (value : Bool) : Option Port :=
  if h : id < BOARD_NGPIOOUT then some (p.exec (.gpiowrite (g_gpiooutputs ⟨id, h⟩) value))
  else none

/-- The methods of the table a device was registered with; only `g_gpout_ops` sets
`go_write`. -/
def boardLower : LowerHalf Port where
  go_read p ext dev :=
    if dev.ops = g_gpin_ops then stm32_gpin_read p ext dev.id
    else if dev.ops = g_gpout_ops then stm32_gpout_read p ext dev.id
    else if dev.ops = g_gpint_ops then stm32_gpint_read p ext dev.id
    else none
  go_write p dev value := if dev.ops = g_gpout_ops then stm32_gpout_write p dev.id value else none

inductive BoardOp
  | file (op : FileOp)
  /-- `board_autoled_on` or `board_autoled_off`, which return nothing -/
  | autoled (ev : AutoLed)

def boardStep (devices : List Registration) (st : Port × List OpenFile) :
    BoardOp → (Port × List OpenFile) × Option FileOut
  | .file op => ((fileStep boardLower devices st op).1, some (fileStep boardLower devices st op).2)
  | .autoled ev => ((ev.ops.foldl Port.exec st.1, st.2), none)

/-! ## What the files are for -/

def PC13 : ℕ × ℕ := (2, 13)
def PE5 : ℕ × ℕ := (4, 5)

/-- `/dev/gpio1` to `/dev/gpio3` are the LEDs, the others read the pin they are wired to. -/
def ledLower : LowerHalf (Fin BOARD_NLEDS → Bool) where
  go_read leds ext dev :=
    if h : 1 ≤ dev.minor ∧ dev.minor ≤ BOARD_NLEDS then some (leds ⟨dev.minor - 1, by omega⟩)
    else if dev.minor = 0 then some (ext PC13)
    else some (ext PE5)
  go_write leds dev value :=
    if h : 1 ≤ dev.minor ∧ dev.minor ≤ BOARD_NLEDS then
      some (Function.update leds ⟨dev.minor - 1, by omega⟩ value)
    else none

def ledFilesStep (st : (Fin BOARD_NLEDS → Bool) × List OpenFile) :
    BoardOp → ((Fin BOARD_NLEDS → Bool) × List OpenFile) × Option FileOut
  | .file op => ((fileStep ledLower boardDevices st op).1, some (fileStep ledLower boardDevices st op).2)
  | .autoled ev => ((ledStep st.1 ev, st.2), none)

/-! ## The board refines it -/

def boardWords : List ℕ := [Buttons.GPIO_BTN_BUILT_IN, GPIO_LD1, GPIO_LD2, GPIO_LD3, GPIO_INT1]

/-- Each pin of a device is configured as `stm32_gpio_initialize` left it. -/
def Configured (p : Port) : Prop := ∀ w ∈ boardWords, p.cfg (portOf w, pinOf w) = w

theorem stm32_gpioread_of_configured {p : Port} (hp : Configured p) {w : ℕ} (hw : w ∈ boardWords)
    (ext : ℕ × ℕ → Bool) :
    stm32_gpioread p ext w =
      idrBit w (p.odr (portOf w, pinOf w)) (ext (portOf w, pinOf w)) := by
  have hport : ∀ w ∈ boardWords, portOf w < STM32H7_NGPIO := by
    decide
  rw [stm32_gpioread, if_pos (hport w hw), hp w hw]

theorem idrBit_boardWords :
    (∀ i : Fin BOARD_NLEDS, ∀ out ext, idrBit (g_ledmap i) out ext = out) ∧
      (∀ out ext, idrBit Buttons.GPIO_BTN_BUILT_IN out ext = ext) ∧
      (∀ out ext, idrBit GPIO_INT1 out ext = ext) ∧
      (portOf Buttons.GPIO_BTN_BUILT_IN, pinOf Buttons.GPIO_BTN_BUILT_IN) = PC13 ∧
      (portOf GPIO_INT1, pinOf GPIO_INT1) = PE5 := by
  decide

theorem g_ledmap_mem_boardWords : ∀ i, g_ledmap i ∈ boardWords := by
  decide

theorem boardLower_go_read_led {p : Port} (hp : Configured p) (i : Fin BOARD_NLEDS)
    (ext : ℕ × ℕ → Bool) :
    boardLower.go_read p ext ⟨i + 1, GPIO_OUTPUT_PIN, g_gpout_ops, i⟩ = some (ledState p.odr i) := by
  have hread : boardLower.go_read p ext ⟨i + 1, GPIO_OUTPUT_PIN, g_gpout_ops, i⟩ =
      some (stm32_gpioread p ext (g_ledmap i)) := by
    have hi : i.val < BOARD_NGPIOOUT := i.isLt
    simp only [boardLower, if_neg (show g_gpout_ops ≠ g_gpin_ops by decide), if_true,
      stm32_gpout_read, tableRead, dif_pos hi]
    rfl
  rw [hread, stm32_gpioread_of_configured hp (g_ledmap_mem_boardWords i), idrBit_boardWords.1]
  rfl

theorem ledLower_go_read_led (leds : Fin BOARD_NLEDS → Bool) (i : Fin BOARD_NLEDS)
    (ext : ℕ × ℕ → Bool) :
    ledLower.go_read leds ext ⟨i + 1, GPIO_OUTPUT_PIN, g_gpout_ops, i⟩ = some (leds i) := by
  have hi : 1 ≤ i.val + 1 ∧ i.val + 1 ≤ BOARD_NLEDS := ⟨by omega, i.isLt⟩
  simp only [ledLower, dif_pos hi, Nat.add_sub_cancel]

theorem ledState_exec_write (p : Port) (i : Fin BOARD_NLEDS) (v : Bool) :
    ledState (p.exec (.gpiowrite (g_ledmap i) v)).odr = Function.update (ledState p.odr) i v := by
  funext j
  show ledState ((phy_set_led i v).apply p.odr) j = _
  rw [ledState, GpioOp.apply_apply, phy_set_led_writes, Function.update_apply]
  by_cases hij : i = j
  · subst hij
    simp
  · simp [hij, Ne.symm hij, ledState]

theorem boardLower_go_write_led (p : Port) (i : Fin BOARD_NLEDS) (v : Bool) :
    boardLower.go_write p ⟨i + 1, GPIO_OUTPUT_PIN, g_gpout_ops, i⟩ v =
      some (p.exec (.gpiowrite (g_ledmap i) v)) := by
  have hi : i.val < BOARD_NGPIOOUT := i.isLt
  simp only [boardLower, if_true, stm32_gpout_write, dif_pos hi]
  rfl

theorem ledLower_go_write_led (leds : Fin BOARD_NLEDS → Bool) (i : Fin BOARD_NLEDS) (v : Bool) :
    ledLower.go_write leds ⟨i + 1, GPIO_OUTPUT_PIN, g_gpout_ops, i⟩ v =
      some (Function.update leds i v) := by
  have hi : 1 ≤ i.val + 1 ∧ i.val + 1 ≤ BOARD_NLEDS := ⟨by omega, i.isLt⟩
  simp only [ledLower, dif_pos hi, Nat.add_sub_cancel]

theorem mem_boardDevices {dev : Registration} (h : dev ∈ boardDevices) :
    dev = ⟨0, GPIO_INPUT_PIN, g_gpin_ops, 0⟩ ∨
      (∃ i : Fin BOARD_NLEDS, dev = ⟨i + 1, GPIO_OUTPUT_PIN, g_gpout_ops, i⟩) ∨
      dev = ⟨4, GPIO_INTERRUPT_PIN, g_gpint_ops, 0⟩ := by
  simp only [boardDevices, List.mem_cons, List.not_mem_nil, or_false] at h
  rcases h with rfl | rfl | rfl | rfl | rfl
  · exact .inl rfl
  · exact .inr (.inl ⟨⟨0, by decide⟩, rfl⟩)
  · exact .inr (.inl ⟨⟨1, by decide⟩, rfl⟩)
  · exact .inr (.inl ⟨⟨2, by decide⟩, rfl⟩)
  · exact .inr (.inr rfl)

theorem boardLower_simulates :
    LowerHalf.Simulates boardLower ledLower (fun p => ledState p.odr) Configured boardDevices where
  read p ext dev hp hdev := by
    obtain ⟨-, hbtn, hint, hpc, hpe⟩ := idrBit_boardWords
    rcases mem_boardDevices hdev with rfl | ⟨i, rfl⟩ | rfl
    · show some (ext PC13) = some (stm32_gpioread p ext Buttons.GPIO_BTN_BUILT_IN)
      rw [stm32_gpioread_of_configured hp (by decide), hbtn, hpc]
    · rw [ledLower_go_read_led, boardLower_go_read_led hp]
    · show some (ext PE5) = some (stm32_gpioread p ext GPIO_INT1)
      rw [stm32_gpioread_of_configured hp (by decide), hint, hpe]
  write p dev v hp hdev := by
    rcases mem_boardDevices hdev with rfl | ⟨i, rfl⟩ | rfl
    · rfl
    · rw [ledLower_go_write_led, boardLower_go_write_led, Option.map_some, ledState_exec_write]
    · rfl
  keep p dev v p' hp hdev hw := by
    rcases mem_boardDevices hdev with rfl | ⟨i, rfl⟩ | rfl
    · cases hw
    · rw [boardLower_go_write_led] at hw
      cases hw
      exact hp
    · cases hw

theorem foldl_exec_autoled (p : Port) (ev : AutoLed) :
    ledState (ev.ops.foldl Port.exec p).odr = ledStep (ledState p.odr) ev ∧
      (ev.ops.foldl Port.exec p).cfg = p.cfg := by
  refine ⟨?_, funext fun q => ?_⟩
  · funext led
    rw [Port.foldl_exec_odr, ledState_applyOps]
    rfl
  · have hnil : ev.ops.filterMap (GpioOp.configures q) = [] := by
      refine List.filterMap_eq_nil_iff.mpr fun op hop => ?_
      obtain ⟨led, v, rfl⟩ := AutoLed.mem_ops hop
      rfl
    rw [Port.foldl_exec_cfg, hnil]
    rfl

theorem boardStep_sim (st : Port × List OpenFile) (hp : Configured st.1) (op : BoardOp) :
    ((ledState (boardStep boardDevices st op).1.1.odr, (boardStep boardDevices st op).1.2),
        (boardStep boardDevices st op).2) = ledFilesStep (ledState st.1.odr, st.2) op ∧
      Configured (boardStep boardDevices st op).1.1 := by
  cases op with
  | file op =>
    obtain ⟨hmap, hkeep⟩ := boardLower_simulates.fileStep st hp op
    refine ⟨?_, hkeep⟩
    simp only [boardStep, ledFilesStep, ← hmap]
  | autoled ev =>
    obtain ⟨hleds, hcfg⟩ := foldl_exec_autoled st.1 ev
    refine ⟨?_, fun w hw => ?_⟩
    · simp only [boardStep, ledFilesStep, hleds]
    · simp only [boardStep, hcfg]
      exact hp w hw

theorem configured_boardGpio (gpio : List GpioOp) (p : Port) :
    Configured ((gpio ++ boardGpio).foldl Port.exec p) := by
  have hlast : ∀ w ∈ boardWords,
      (boardGpio.filterMap (GpioOp.configures (portOf w, pinOf w))).getLast? = some w := by
    decide
  intro w hw
  rw [Port.foldl_exec_cfg, List.filterMap_append, List.getLast?_append, hlast w hw]
  rfl

variable {CB : Type*}

/-- After `stm32_gpio_initialize` has registered `/dev/gpio0` to `/dev/gpio4`, whatever the
pins' reset state and the GPIO calls made before it, every run of file operations on the devices
and kernel LED reports gives the results of the LED files from all LEDs low, and the LEDs show
the levels of the LED files. -/
theorem gpio_files_refine_leds (gpio : List GpioOp) (p : Port) (ops : List BoardOp) :
    let st := ( stm32_gpio_initialize (⟨GpintState.reset, gpio, []⟩ : DriverState CB)).1
    let r := Machine.run (boardStep st.devices) (st.gpio.foldl Port.exec p, []) ops
    ((ledState r.1.1.odr, r.1.2), r.2) = Machine.run ledFilesStep (fun _ => false, []) ops := by
  intro st r
  have hdev : st.devices = boardDevices := stm32_gpio_initialize_devices _ (by simp)
  have hgpio : st.gpio = gpio ++ boardGpio := stm32_gpio_initialize_gpio _
  have hstart : (ledState (st.gpio.foldl Port.exec p).odr, ([] : List OpenFile)) =
      ((fun _ => false), []) := by
    rw [hgpio, Port.foldl_exec_odr, applyOps_append]
    congr 1
    funext led
    exact ledState_boardGpio _ led
  simp only [r, hdev, ← hstart]
  -- the board's machine keeps its pins configured, and simulates the LED files step by step
  exact Machine.run_map (boardStep boardDevices) (fun st => Configured st.1)
    (fun st op hp => (boardStep_sim st hp op).2) ledFilesStep
    (fun st => (ledState st.1.odr, st.2)) (fun st op hp => (boardStep_sim st hp op).1)
    (hgpio ▸ configured_boardGpio gpio p) ops

end NucleoH753zi.GpioFile
