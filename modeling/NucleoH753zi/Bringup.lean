import NucleoH753zi.Blocks
import NucleoH753zi.Libc

/-!
# Board bring-up: `stm32_bringup`

`stm32_bringup` calls one helper per group of drivers, and each helper calls the initializers the
configuration compiles in. Every `#ifdef` block is a `Blocks.Block`, whose condition is a field of
`Features`, whose callee is a `Leaf` call or a helper, and whose update is how the source folds the
callee's result into `ret`; `Env` gives what each initializer returns. The filesystem, USB, sensor
and timer helpers keep their first failure; the LED, input, ADC, GPIO and watchdog helpers return
their one call's result; in the connectivity and storage helpers the last enabled call decides.
`stm32_bringup` keeps the first group result that is not `OK`, and only logs the results of the
I2C tools and of the SPI phase (`NucleoH753zi.Spi.Initialize`).

Every call is taken to return. One does not: with the OTA partitions and a `NULL`
`progmem_initialize ()`, `mtd_partition` gets `NULL` and its `DEBUGASSERT (mtd)` fails. A group
that declares `int local_ret` in two enabled blocks does not compile; each block has its own here.
-/

namespace NucleoH753zi.Bringup

open Libc Blocks

/-- The calls to driver initializers that `stm32_bringup` can make. Bus, partition and timer
numbers are the arguments of the call. -/
inductive Leaf where
  | userled_lower_initialize
  | nx_mount_procfs
  | stm32_romfs_initialize
  | stm32_i2cbus_initialize (bus : ℕ)
  | i2c_register (bus : ℕ)
  | stm32_i2cbus_uninitialize (bus : ℕ)
  | stm32_rtc_lowerhalf
  | rtc_initialize
  | btn_lower_initialize
  | stm32_usbhost_initialize
  | usbmonitor_start
  | cdcacm_initialize
  | usbdev_rndis_initialize
  | stm32_pca9635_initialize
  | stm32_wlinitialize
  | stm32_spi_initialize
  | stm32_spibus_initialize (bus : ℕ)
  | spi_register (bus : ℕ)
  | stm32_adc_setup
  | stm32_gpio_initialize
  | stm32_lsm6dsl_initialize
  | stm32_lsm9ds1_initialize
  | stm32_lsm303agr_initialize
  | stm32_mmcsd_initialize
  | progmem_initialize
  | progmem_alloc_mtdpart (part : ℕ)
  | register_mtddriver (part : ℕ)
  | stm32_pwm_setup
  | stm32_cap_initialize (timer : ℕ)
  | cap_register_multiple
  | stm32_iwdginitialize
  deriving DecidableEq

/-- The preprocessor symbols that `stm32_bringup` and its helpers test. Conditions that the
source writes as a conjunction of symbols are one field. -/
structure Features where
  /-- `CONFIG_NUCLEO_H753ZI_LEDS_USER` -/
  LEDS_USER : Bool
  FS_PROCFS : Bool
  STM32_ROMFS : Bool
  /-- `CONFIG_I2C && CONFIG_SYSTEM_I2CTOOL` -/
  I2C_TOOLS : Bool
  /-- `CONFIG_STM32H7_I2Cn` -/
  I2C : ℕ → Bool
  HAVE_RTC_DRIVER : Bool
  INPUT_BUTTONS : Bool
  HAVE_USBHOST : Bool
  HAVE_USBMONITOR : Bool
  /-- `CONFIG_CDCACM && !CONFIG_CDCACM_CONSOLE && !CONFIG_CDCACM_COMPOSITE` -/
  CDCACM : Bool
  /-- `CONFIG_RNDIS && !CONFIG_RNDIS_COMPOSITE` -/
  RNDIS : Bool
  PCA9635PW : Bool
  WL_NRF24L01 : Bool
  SPI_DRIVER : Bool
  /-- `CONFIG_STM32H7_SPIn` -/
  SPI : ℕ → Bool
  ADC : Bool
  DEV_GPIO : Bool
  SENSORS_LSM6DSL : Bool
  SENSORS_LSM9DS1 : Bool
  SENSORS_LSM303AGR : Bool
  MMCSD_SPI : Bool
  /-- `CONFIG_MTD && HAVE_PROGMEM_CHARDEV` -/
  PROGMEM : Bool
  PROGMEM_OTA_PARTITION : Bool
  PWM : Bool
  CAPTURE : Bool
  /-- `CONFIG_STM32H7_TIMn_CAP` -/
  TIM_CAP : ℕ → Bool
  STM32H7_IWDG : Bool

def Features.none : Features where
  LEDS_USER := false
  FS_PROCFS := false
  STM32_ROMFS := false
  I2C_TOOLS := false
  I2C _ := false
  HAVE_RTC_DRIVER := false
  INPUT_BUTTONS := false
  HAVE_USBHOST := false
  HAVE_USBMONITOR := false
  CDCACM := false
  RNDIS := false
  PCA9635PW := false
  WL_NRF24L01 := false
  SPI_DRIVER := false
  SPI _ := false
  ADC := false
  DEV_GPIO := false
  SENSORS_LSM6DSL := false
  SENSORS_LSM9DS1 := false
  SENSORS_LSM303AGR := false
  MMCSD_SPI := false
  PROGMEM := false
  PROGMEM_OTA_PARTITION := false
  PWM := false
  CAPTURE := false
  TIM_CAP _ := false
  STM32H7_IWDG := false

/-- What the initializers return: `ret` for those that return an `int`, `ptr` (not `NULL`) for
those that return a pointer. -/
structure Env where
  ret : Leaf → ℤ
  ptr : Leaf → Bool

def Env.setRet (env : Env) (leaf : Leaf) (r : ℤ) : Env :=
  { env with ret := Function.update env.ret leaf r }

/-- A call of one initializer: it is the only call made and its result is what it returns. -/
def call (env : Env) (leaf : Leaf) : List Leaf × ℤ := ([leaf], env.ret leaf)

def isNeg (r : ℤ) : Bool := decide (r < 0)

def isNotOk (r : ℤ) : Bool := decide (r ≠ OK)

/-- A helper whose one block is `ret = leaf (...);`: the LED, input, ADC, GPIO and watchdog
helpers. -/
def singleInit (env : Env) (enabled : Bool) (leaf : Leaf) : List Leaf × ℤ :=
  run OK [⟨enabled, .assign, call env leaf⟩]

/-! ## The group helpers -/

section Groups

variable (F : Features) (env : Env)

def nucleo_led_initialize : List Leaf × ℤ :=
  singleInit env F.LEDS_USER Leaf.userled_lower_initialize

def nucleo_filesystem_initialize : List Leaf × ℤ :=
  run OK
    [⟨F.FS_PROCFS, .keepFirst isNeg, call env Leaf.nx_mount_procfs⟩,
     ⟨F.STM32_ROMFS, .keepFirst isNeg, call env Leaf.stm32_romfs_initialize⟩]

/-- `stm32_i2c_register (bus)`, which returns nothing: the calls it makes. -/
def stm32_i2c_register (bus : ℕ) : List Leaf :=
  if env.ptr ( Leaf.stm32_i2cbus_initialize bus) then
    if env.ret (Leaf.i2c_register bus) < 0 then
      [ Leaf.stm32_i2cbus_initialize bus, Leaf.i2c_register bus,
        Leaf.stm32_i2cbus_uninitialize bus]
    else [ Leaf.stm32_i2cbus_initialize bus, Leaf.i2c_register bus]
  else [ Leaf.stm32_i2cbus_initialize bus]

def i2cBuses : List ℕ := [1, 2, 3, 4]

def nucleo_i2c_tools_initialize : List Leaf × ℤ :=
  (i2cBuses.flatMap fun bus => if F.I2C bus then stm32_i2c_register env bus else [], OK)

def nucleo_rtc_initialize : List Leaf × ℤ :=
  if F.HAVE_RTC_DRIVER then
    if env.ptr Leaf.stm32_rtc_lowerhalf then
      ([ Leaf.stm32_rtc_lowerhalf, Leaf.rtc_initialize], env.ret Leaf.rtc_initialize)
    else ([ Leaf.stm32_rtc_lowerhalf], -ENOMEM)
  else ([], OK)

def nucleo_input_initialize : List Leaf × ℤ :=
  singleInit env F.INPUT_BUTTONS Leaf.btn_lower_initialize

def nucleo_usb_initialize : List Leaf × ℤ :=
  run OK
    [⟨F.HAVE_USBHOST, .keepFirst isNotOk, call env Leaf.stm32_usbhost_initialize⟩,
     ⟨F.HAVE_USBMONITOR, .keepFirst isNotOk, call env Leaf.usbmonitor_start⟩,
     ⟨F.CDCACM, .keepFirst isNeg, call env Leaf.cdcacm_initialize⟩,
     ⟨F.RNDIS, .keepFirst isNeg, call env Leaf.usbdev_rndis_initialize⟩]

def nucleo_connectivity_initialize : List Leaf × ℤ :=
  run OK
    [⟨F.PCA9635PW, .assign, call env Leaf.stm32_pca9635_initialize⟩,
     ⟨F.WL_NRF24L01, .assign, call env Leaf.stm32_wlinitialize⟩]

def spiBuses : List ℕ := [1, 2, 3, 4, 5, 6]

/-- The `CONFIG_STM32H7_SPIn` block of `stm32_spidev_register_all`: `ret` is assigned only
when the bus was obtained. -/
def spidevBlock (bus : ℕ) : Block Leaf ℤ :=
  if env.ptr ( Leaf.stm32_spibus_initialize bus) then
    ⟨F.SPI bus, .assign,
      ([ Leaf.stm32_spibus_initialize bus, Leaf.spi_register bus], env.ret (Leaf.spi_register bus))⟩
  else ⟨F.SPI bus, .discard, ([ Leaf.stm32_spibus_initialize bus], OK)⟩

def stm32_spidev_register_all : List Leaf × ℤ :=
  run OK (spiBuses.map (spidevBlock F env))

def nucleo_adc_initialize : List Leaf × ℤ :=
  singleInit env F.ADC Leaf.stm32_adc_setup

def nucleo_gpio_initialize : List Leaf × ℤ :=
  singleInit env F.DEV_GPIO Leaf.stm32_gpio_initialize

def nucleo_sensors_initialize : List Leaf × ℤ :=
  run OK
    [⟨F.SENSORS_LSM6DSL, .keepFirst isNeg, call env Leaf.stm32_lsm6dsl_initialize⟩,
     ⟨F.SENSORS_LSM9DS1, .keepFirst isNeg, call env Leaf.stm32_lsm9ds1_initialize⟩,
     ⟨F.SENSORS_LSM303AGR, .keepFirst isNeg, call env Leaf.stm32_lsm303agr_initialize⟩]

/-- `nitems (g_ota_partition_table)`: the primary slot, the secondary slot and the scratch
area. -/
def OTA_PARTITIONS : ℕ := 3

/-- One iteration of the loop of `init_ota_partitions`. -/
def otaPartition (part : ℕ) : List Leaf × ℤ :=
  -- the `ret = -1` for a partition that could not be allocated is overwritten at once by the
  -- registration's result
  let ret := env.ret (Leaf.register_mtddriver part)
  ([ Leaf.progmem_alloc_mtdpart part, Leaf.register_mtddriver part], if ret < 0 then -1 else ret)

def init_ota_partitions : List Leaf × ℤ :=
  run 0 ((List.range OTA_PARTITIONS).map fun part => ⟨true, .assign, otaPartition env part⟩)

def stm32_progmem_init : List Leaf × ℤ :=
  let ret : ℤ := if env.ptr Leaf.progmem_initialize then 0 else -Libc.EIO
  if F.PROGMEM_OTA_PARTITION then
    let r := init_ota_partitions env
    ( Leaf.progmem_initialize :: r.1, if r.2 < 0 then -Libc.EIO else r.2)
  else ([ Leaf.progmem_initialize], ret)

def nucleo_storage_initialize : List Leaf × ℤ :=
  run OK
    [⟨F.MMCSD_SPI, .assign, call env Leaf.stm32_mmcsd_initialize⟩,
     ⟨F.PROGMEM, .assign, stm32_progmem_init F env⟩]

/-- The timers whose `CONFIG_STM32H7_TIMn_CAP` blocks `nucleo_capture_initialize` lists, in
order. -/
def capTimers : List ℕ := [1, 2, 3, 4, 5, 8, 12, 13, 14, 15, 16, 17]

def nucleo_capture_initialize : List Leaf × ℤ :=
  let lower := (capTimers.filter F.TIM_CAP).map Leaf.stm32_cap_initialize
  if lower.length = 0 then (lower, OK)
  else (lower ++ [ Leaf.cap_register_multiple], env.ret Leaf.cap_register_multiple)

def nucleo_timers_initialize : List Leaf × ℤ :=
  run OK
    [⟨F.PWM, .keepFirst isNeg, call env Leaf.stm32_pwm_setup⟩,
     ⟨F.CAPTURE, .keepFirst isNeg, nucleo_capture_initialize F env⟩]

def nucleo_watchdog_initialize : List Leaf × ℤ :=
  singleInit env F.STM32H7_IWDG Leaf.stm32_iwdginitialize

def stm32_bringup : List Leaf × ℤ :=
  run OK
    [⟨true, .keepFirst isNotOk, nucleo_led_initialize F env⟩,
     ⟨true, .keepFirst isNotOk, nucleo_filesystem_initialize F env⟩,
     ⟨F.I2C_TOOLS, .discard, nucleo_i2c_tools_initialize F env⟩,
     ⟨true, .keepFirst isNotOk, nucleo_rtc_initialize F env⟩,
     ⟨true, .keepFirst isNotOk, nucleo_input_initialize F env⟩,
     ⟨true, .keepFirst isNotOk, nucleo_usb_initialize F env⟩,
     ⟨true, .keepFirst isNotOk, nucleo_connectivity_initialize F env⟩,
     ⟨true, .discard, call env Leaf.stm32_spi_initialize⟩,
     ⟨F.SPI_DRIVER, .discard, stm32_spidev_register_all F env⟩,
     ⟨true, .keepFirst isNotOk, nucleo_adc_initialize F env⟩,
     ⟨true, .keepFirst isNotOk, nucleo_gpio_initialize F env⟩,
     ⟨true, .keepFirst isNotOk, nucleo_sensors_initialize F env⟩,
     ⟨true, .keepFirst isNotOk, nucleo_storage_initialize F env⟩,
     ⟨true, .keepFirst isNotOk, nucleo_timers_initialize F env⟩,
     ⟨true, .keepFirst isNotOk, nucleo_watchdog_initialize F env⟩]

end Groups

/-! ## The calls made -/

def otaOrder : List Leaf :=
  (List.range OTA_PARTITIONS).flatMap fun part =>
    [ Leaf.progmem_alloc_mtdpart part, Leaf.register_mtddriver part]

/-- Every call that `stm32_bringup` can make, one segment per block of `stm32_bringup` in the
order it runs them, and each segment in the order of the source. -/
def sourceOrder : List Leaf :=
  [ Leaf.userled_lower_initialize] ++
  [ Leaf.nx_mount_procfs, Leaf.stm32_romfs_initialize] ++
  i2cBuses.flatMap (fun bus =>
    [ Leaf.stm32_i2cbus_initialize bus, Leaf.i2c_register bus,
      Leaf.stm32_i2cbus_uninitialize bus]) ++
  [ Leaf.stm32_rtc_lowerhalf, Leaf.rtc_initialize] ++
  [ Leaf.btn_lower_initialize] ++
  [ Leaf.stm32_usbhost_initialize, Leaf.usbmonitor_start, Leaf.cdcacm_initialize,
    Leaf.usbdev_rndis_initialize] ++
  [ Leaf.stm32_pca9635_initialize, Leaf.stm32_wlinitialize] ++
  [ Leaf.stm32_spi_initialize] ++
  spiBuses.flatMap (fun bus => [ Leaf.stm32_spibus_initialize bus, Leaf.spi_register bus]) ++
  [ Leaf.stm32_adc_setup] ++
  [ Leaf.stm32_gpio_initialize] ++
  [ Leaf.stm32_lsm6dsl_initialize, Leaf.stm32_lsm9ds1_initialize,
    Leaf.stm32_lsm303agr_initialize] ++
  ( Leaf.stm32_mmcsd_initialize :: Leaf.progmem_initialize :: otaOrder) ++
  ( Leaf.stm32_pwm_setup :: (capTimers.map Leaf.stm32_cap_initialize ++ [ Leaf.cap_register_multiple])) ++
  [ Leaf.stm32_iwdginitialize]

def compiledIn (F : Features) : Leaf → Bool
  | Leaf.userled_lower_initialize => F.LEDS_USER
  | Leaf.nx_mount_procfs => F.FS_PROCFS
  | Leaf.stm32_romfs_initialize => F.STM32_ROMFS
  | Leaf.stm32_i2cbus_initialize bus | Leaf.i2c_register bus
  | Leaf.stm32_i2cbus_uninitialize bus => F.I2C_TOOLS && F.I2C bus
  | Leaf.stm32_rtc_lowerhalf | Leaf.rtc_initialize => F.HAVE_RTC_DRIVER
  | Leaf.btn_lower_initialize => F.INPUT_BUTTONS
  | Leaf.stm32_usbhost_initialize => F.HAVE_USBHOST
  | Leaf.usbmonitor_start => F.HAVE_USBMONITOR
  | Leaf.cdcacm_initialize => F.CDCACM
  | Leaf.usbdev_rndis_initialize => F.RNDIS
  | Leaf.stm32_pca9635_initialize => F.PCA9635PW
  | Leaf.stm32_wlinitialize => F.WL_NRF24L01
  | Leaf.stm32_spi_initialize => true
  | Leaf.stm32_spibus_initialize bus | Leaf.spi_register bus => F.SPI_DRIVER && F.SPI bus
  | Leaf.stm32_adc_setup => F.ADC
  | Leaf.stm32_gpio_initialize => F.DEV_GPIO
  | Leaf.stm32_lsm6dsl_initialize => F.SENSORS_LSM6DSL
  | Leaf.stm32_lsm9ds1_initialize => F.SENSORS_LSM9DS1
  | Leaf.stm32_lsm303agr_initialize => F.SENSORS_LSM303AGR
  | Leaf.stm32_mmcsd_initialize => F.MMCSD_SPI
  | Leaf.progmem_initialize => F.PROGMEM
  | Leaf.progmem_alloc_mtdpart _ | Leaf.register_mtddriver _ =>
    F.PROGMEM && F.PROGMEM_OTA_PARTITION
  | Leaf.stm32_pwm_setup => F.PWM
  | Leaf.stm32_cap_initialize timer => F.CAPTURE && F.TIM_CAP timer
  | Leaf.cap_register_multiple => F.CAPTURE && capTimers.any F.TIM_CAP
  | Leaf.stm32_iwdginitialize => F.STM32H7_IWDG

/-- Whether a compiled-in call is reached: only the calls behind a test of an earlier result
may not be. -/
def reached (env : Env) : Leaf → Bool
  | Leaf.i2c_register bus => env.ptr ( Leaf.stm32_i2cbus_initialize bus)
  | Leaf.stm32_i2cbus_uninitialize bus =>
    env.ptr ( Leaf.stm32_i2cbus_initialize bus) && isNeg (env.ret (Leaf.i2c_register bus))
  | Leaf.rtc_initialize => env.ptr Leaf.stm32_rtc_lowerhalf
  | Leaf.spi_register bus => env.ptr ( Leaf.stm32_spibus_initialize bus)
  | _ => true

def attempted (F : Features) (env : Env) (leaf : Leaf) : Bool :=
  compiledIn F leaf && reached env leaf

section Calls

variable (F : Features) (env : Env)

theorem singleInit_calls (enabled : Bool) (leaf : Leaf) :
    (singleInit env enabled leaf).1 = if enabled then [leaf] else [] := by
  cases enabled <;> rfl

theorem nucleo_filesystem_initialize_calls :
    ( nucleo_filesystem_initialize F env).1 =
      [ Leaf.nx_mount_procfs, Leaf.stm32_romfs_initialize].filter (attempted F env) := by
  by_cases h1 : F.FS_PROCFS <;> by_cases h2 : F.STM32_ROMFS <;>
    simp [ nucleo_filesystem_initialize, run_fst, call, attempted, compiledIn, reached, h1, h2]

theorem singleInit_calls_eq_filter {enabled : Bool} {leaf : Leaf}
    (hc : compiledIn F leaf = enabled) (hr : reached env leaf = true) :
    (singleInit env enabled leaf).1 = [leaf].filter (attempted F env) := by
  cases enabled <;> simp [singleInit_calls, attempted, hc, hr]

theorem stm32_i2c_register_eq (bus : ℕ) :
    stm32_i2c_register env bus =
      [ Leaf.stm32_i2cbus_initialize bus, Leaf.i2c_register bus,
        Leaf.stm32_i2cbus_uninitialize bus].filter (reached env) := by
  by_cases hp : env.ptr ( Leaf.stm32_i2cbus_initialize bus) <;>
    by_cases hn : env.ret (Leaf.i2c_register bus) < 0 <;>
    simp [stm32_i2c_register, List.filter_cons, reached, isNeg, hp, hn]

theorem nucleo_i2c_tools_initialize_calls :
    (if F.I2C_TOOLS then ( nucleo_i2c_tools_initialize F env).1 else []) =
      (i2cBuses.flatMap fun bus =>
        [ Leaf.stm32_i2cbus_initialize bus, Leaf.i2c_register bus,
          Leaf.stm32_i2cbus_uninitialize bus]).filter (attempted F env) := by
  rw [List.filter_flatMap]
  by_cases ht : F.I2C_TOOLS
  · rw [if_pos ht, nucleo_i2c_tools_initialize]
    apply List.flatMap_congr
    intro bus _
    by_cases hb : F.I2C bus <;>
      simp [stm32_i2c_register_eq, List.filter_cons, attempted, compiledIn, ht, hb]
  · simp [attempted, compiledIn, ht]

theorem nucleo_rtc_initialize_calls :
    ( nucleo_rtc_initialize F env).1 =
      [ Leaf.stm32_rtc_lowerhalf, Leaf.rtc_initialize].filter (attempted F env) := by
  by_cases hd : F.HAVE_RTC_DRIVER <;> by_cases hp : env.ptr Leaf.stm32_rtc_lowerhalf <;>
    simp [ nucleo_rtc_initialize, attempted, compiledIn, reached, hd, hp]

theorem nucleo_usb_initialize_calls :
    ( nucleo_usb_initialize F env).1 =
      [ Leaf.stm32_usbhost_initialize, Leaf.usbmonitor_start, Leaf.cdcacm_initialize,
        Leaf.usbdev_rndis_initialize].filter (attempted F env) := by
  simp only [ nucleo_usb_initialize, run_fst, List.flatMap_cons, List.flatMap_nil, calls_mk,
    List.filter_cons, attempted, compiledIn, reached, Bool.and_true, call, List.append_nil]
  split_ifs <;> rfl

theorem nucleo_connectivity_initialize_calls :
    ( nucleo_connectivity_initialize F env).1 =
      [ Leaf.stm32_pca9635_initialize, Leaf.stm32_wlinitialize].filter (attempted F env) := by
  by_cases h1 : F.PCA9635PW <;> by_cases h2 : F.WL_NRF24L01 <;>
    simp [ nucleo_connectivity_initialize, run_fst, call, attempted, compiledIn, reached, h1, h2]

theorem spidevBlock_calls (bus : ℕ) :
    (spidevBlock F env bus).calls =
      if F.SPI bus then
        [ Leaf.stm32_spibus_initialize bus, Leaf.spi_register bus].filter (reached env)
      else [] := by
  by_cases hp : env.ptr ( Leaf.stm32_spibus_initialize bus) <;>
    simp [spidevBlock, List.filter_cons, reached, hp]

theorem stm32_spidev_register_all_calls :
    (if F.SPI_DRIVER then (stm32_spidev_register_all F env).1 else []) =
      (spiBuses.flatMap fun bus =>
        [ Leaf.stm32_spibus_initialize bus, Leaf.spi_register bus]).filter (attempted F env) := by
  rw [List.filter_flatMap]
  by_cases hd : F.SPI_DRIVER
  · rw [if_pos hd, stm32_spidev_register_all, run_fst, List.flatMap_map]
    apply List.flatMap_congr
    intro bus _
    by_cases hb : F.SPI bus <;>
      simp [spidevBlock_calls, List.filter_cons, attempted, compiledIn, hd, hb]
  · simp [attempted, compiledIn, hd]

theorem nucleo_sensors_initialize_calls :
    ( nucleo_sensors_initialize F env).1 =
      [ Leaf.stm32_lsm6dsl_initialize, Leaf.stm32_lsm9ds1_initialize,
        Leaf.stm32_lsm303agr_initialize].filter (attempted F env) := by
  simp only [ nucleo_sensors_initialize, run_fst, List.flatMap_cons, List.flatMap_nil, calls_mk,
    List.filter_cons, attempted, compiledIn, reached, Bool.and_true, call, List.append_nil]
  split_ifs <;> rfl

theorem init_ota_partitions_calls : (init_ota_partitions env).1 = otaOrder := by
  rw [init_ota_partitions, run_fst, List.flatMap_map, otaOrder]
  rfl

theorem stm32_progmem_init_calls :
    (stm32_progmem_init F env).1 =
      Leaf.progmem_initialize :: if F.PROGMEM_OTA_PARTITION then otaOrder else [] := by
  by_cases ho : F.PROGMEM_OTA_PARTITION <;> simp [stm32_progmem_init, init_ota_partitions_calls, ho]

theorem otaOrder_filter :
    otaOrder.filter (attempted F env) =
      if F.PROGMEM && F.PROGMEM_OTA_PARTITION then otaOrder else [] := by
  split_ifs with h
  · rw [List.filter_eq_self]
    intro leaf hl
    obtain ⟨part, -, hpart⟩ := List.mem_flatMap.mp hl
    simp only [List.mem_cons, List.not_mem_nil, or_false] at hpart
    rcases hpart with rfl | rfl <;> simpa [attempted, compiledIn, reached] using h
  · rw [List.filter_eq_nil_iff]
    intro leaf hl
    obtain ⟨part, -, hpart⟩ := List.mem_flatMap.mp hl
    simp only [List.mem_cons, List.not_mem_nil, or_false] at hpart
    have hoff : (F.PROGMEM && F.PROGMEM_OTA_PARTITION) = false := Bool.eq_false_iff.mpr h
    rcases hpart with rfl | rfl <;> simp [attempted, compiledIn, hoff]

theorem nucleo_storage_initialize_calls :
    ( nucleo_storage_initialize F env).1 =
      ( Leaf.stm32_mmcsd_initialize :: Leaf.progmem_initialize :: otaOrder).filter
        (attempted F env) := by
  rw [List.filter_cons, List.filter_cons, otaOrder_filter]
  by_cases h1 : F.MMCSD_SPI <;> by_cases h2 : F.PROGMEM <;> by_cases h3 : F.PROGMEM_OTA_PARTITION <;>
    simp [ nucleo_storage_initialize, run_fst, call, stm32_progmem_init_calls, attempted,
      compiledIn, reached, h1, h2, h3]

theorem nucleo_capture_initialize_calls :
    ( nucleo_capture_initialize F env).1 =
      (capTimers.filter F.TIM_CAP).map Leaf.stm32_cap_initialize ++
        if capTimers.any F.TIM_CAP then [ Leaf.cap_register_multiple] else [] := by
  have hcount : ((capTimers.filter F.TIM_CAP).map Leaf.stm32_cap_initialize).length = 0 ↔
      capTimers.any F.TIM_CAP = false := by
    simp [List.filter_eq_nil_iff]
  rw [ nucleo_capture_initialize]
  by_cases h : capTimers.any F.TIM_CAP
  · rw [if_neg (fun h0 => by simp [hcount.mp h0] at h), if_pos h]
  · have he : capTimers.any F.TIM_CAP = false := by simpa using h
    rw [if_pos (hcount.mpr he), if_neg h, List.append_nil]

theorem nucleo_timers_initialize_calls :
    ( nucleo_timers_initialize F env).1 =
      ( Leaf.stm32_pwm_setup ::
        (capTimers.map Leaf.stm32_cap_initialize ++ [ Leaf.cap_register_multiple])).filter
        (attempted F env) := by
  rw [List.filter_cons, List.filter_append, List.filter_map]
  by_cases h1 : F.PWM <;> by_cases h2 : F.CAPTURE <;>
    simp [ nucleo_timers_initialize, run_fst, call, nucleo_capture_initialize_calls,
      List.filter_cons, attempted, compiledIn, reached, Function.comp_def, h1, h2]

/-- The calls `stm32_bringup` makes are the calls of the source, in its order, that the
configuration compiles in and that the results of earlier calls let it reach. -/
theorem stm32_bringup_calls :
    (stm32_bringup F env).1 = sourceOrder.filter (attempted F env) := by
  have hled : ( nucleo_led_initialize F env).1 =
      [ Leaf.userled_lower_initialize].filter (attempted F env) :=
    singleInit_calls_eq_filter F env rfl rfl
  have hinput : ( nucleo_input_initialize F env).1 =
      [ Leaf.btn_lower_initialize].filter (attempted F env) :=
    singleInit_calls_eq_filter F env rfl rfl
  have hadc : ( nucleo_adc_initialize F env).1 = [ Leaf.stm32_adc_setup].filter (attempted F env) :=
    singleInit_calls_eq_filter F env rfl rfl
  have hgpio : ( nucleo_gpio_initialize F env).1 =
      [ Leaf.stm32_gpio_initialize].filter (attempted F env) :=
    singleInit_calls_eq_filter F env rfl rfl
  have hwdg : ( nucleo_watchdog_initialize F env).1 =
      [ Leaf.stm32_iwdginitialize].filter (attempted F env) :=
    singleInit_calls_eq_filter F env rfl rfl
  have hspi : [ Leaf.stm32_spi_initialize] = [ Leaf.stm32_spi_initialize].filter (attempted F env) :=
    rfl
  rw [stm32_bringup, run_fst]
  simp only [List.flatMap_cons, List.flatMap_nil, calls_mk, if_true, List.append_nil, call]
  rw [hled, nucleo_filesystem_initialize_calls, nucleo_i2c_tools_initialize_calls,
    nucleo_rtc_initialize_calls, hinput, nucleo_usb_initialize_calls,
    nucleo_connectivity_initialize_calls, hspi, stm32_spidev_register_all_calls, hadc, hgpio,
    nucleo_sensors_initialize_calls, nucleo_storage_initialize_calls,
    nucleo_timers_initialize_calls, hwdg]
  simp only [sourceOrder, List.filter_append, List.append_assoc]

theorem sourceOrder_nodup : sourceOrder.Nodup := by decide

/-- Which calls are reached depends on the pointers returned and on no `int` result other than
`i2c_register`'s. -/
theorem attempted_congr {env' : Env} (hp : env'.ptr = env.ptr)
    (hr : ∀ bus, env'.ret (Leaf.i2c_register bus) = env.ret (Leaf.i2c_register bus)) :
    attempted F env' = attempted F env := by
  funext leaf
  cases leaf <;> simp [attempted, reached, hp, hr]

end Calls

/-! ## The value returned -/

/-- The results of the group helpers whose results `stm32_bringup` folds into `ret`, in the
order it calls them. -/
def groupResults (F : Features) (env : Env) : List ℤ :=
  [( nucleo_led_initialize F env).2, ( nucleo_filesystem_initialize F env).2,
   ( nucleo_rtc_initialize F env).2, ( nucleo_input_initialize F env).2,
   ( nucleo_usb_initialize F env).2, ( nucleo_connectivity_initialize F env).2,
   ( nucleo_adc_initialize F env).2, ( nucleo_gpio_initialize F env).2,
   ( nucleo_sensors_initialize F env).2, ( nucleo_storage_initialize F env).2,
   ( nucleo_timers_initialize F env).2, ( nucleo_watchdog_initialize F env).2]

section Results

variable (F : Features) (env : Env)

theorem isNotOk_keeps : (Update.keepFirst isNotOk).Keeps OK := by
  intro r hr
  simpa [isNotOk] using hr

/-- `stm32_bringup` returns the first group result that is not `OK`, and `OK` if there is
none. -/
theorem stm32_bringup_ret :
    (stm32_bringup F env).2 = ((groupResults F env).find? isNotOk).getD OK := by
  rw [stm32_bringup, run_snd_of_keeps, ← List.findSome?_guard]
  · simp only [List.findSome?_cons, report_keepFirst, report_discard, List.findSome?_nil,
      groupResults]
  · simp only [List.mem_cons, List.not_mem_nil, or_false]
    rintro b (rfl | rfl | rfl | rfl | rfl | rfl | rfl | rfl | rfl | rfl | rfl | rfl | rfl | rfl |
      rfl) - <;> first | exact isNotOk_keeps | trivial

theorem isNotOk_eq_false_iff (r : ℤ) : isNotOk r = false ↔ r = OK := by
  simp [isNotOk]

/-- `stm32_bringup` makes the calls of the source that the configuration compiles in, each at
most once and in the order of the source, except those behind a test of an earlier result;
which calls it makes depends on no `int` result but `i2c_register`'s. It returns `OK` exactly
when every group helper whose result it folds returns `OK`, and otherwise the first result of
a group helper that is not `OK`. -/
theorem stm32_bringup_keeps_first_group_failure :
    (stm32_bringup F env).1 = sourceOrder.filter (attempted F env) ∧
    sourceOrder.Nodup ∧
    (∀ env' : Env, env'.ptr = env.ptr →
      (∀ bus, env'.ret (Leaf.i2c_register bus) = env.ret (Leaf.i2c_register bus)) →
      (stm32_bringup F env').1 = (stm32_bringup F env).1) ∧
    ((stm32_bringup F env).2 = OK ↔ ∀ r ∈ groupResults F env, r = OK) ∧
    ((stm32_bringup F env).2 ≠ OK →
      ∃ pre post, groupResults F env = pre ++ (stm32_bringup F env).2 :: post ∧
        ∀ r ∈ pre, r = OK) := by
  have hok : isNotOk OK = false := (isNotOk_eq_false_iff OK).mpr rfl
  refine ⟨stm32_bringup_calls F env, sourceOrder_nodup, ?_, ?_, ?_⟩
  · intro env' hp hr
    rw [stm32_bringup_calls, stm32_bringup_calls, attempted_congr F env hp hr]
  · rw [stm32_bringup_ret, getD_find?_eq_iff hok]
    simp only [isNotOk_eq_false_iff]
  · intro hne
    rw [stm32_bringup_ret] at hne ⊢
    obtain ⟨pre, post, hl, hpre⟩ := exists_append_of_getD_find?_ne _ hne
    exact ⟨pre, post, hl, fun r hr => (isNotOk_eq_false_iff r).mp (hpre r hr)⟩

/-- With the RTC driver compiled in and no lower half, `rtc_initialize` is never called; and
with no group compiled in, a failing `stm32_spi_initialize` still gives `OK`. -/
theorem stm32_bringup_skips_rtc_and_spi_result :
    compiledIn { Features.none with HAVE_RTC_DRIVER := true } Leaf.rtc_initialize = true ∧
    (stm32_bringup { Features.none with HAVE_RTC_DRIVER := true } ⟨fun _ => OK, fun _ => false⟩).1 =
      [ Leaf.stm32_rtc_lowerhalf, Leaf.stm32_spi_initialize] ∧
    stm32_bringup Features.none
        ⟨fun leaf => if leaf = Leaf.stm32_spi_initialize then -EINVAL else OK, fun _ => true⟩ =
      ([ Leaf.stm32_spi_initialize], OK) := by
  refine ⟨rfl, ?_, ?_⟩ <;> decide

/-! ## Helpers whose last call decides -/

theorem nucleo_connectivity_initialize_ret :
    ( nucleo_connectivity_initialize F env).2 =
      if F.WL_NRF24L01 then env.ret Leaf.stm32_wlinitialize
      else if F.PCA9635PW then env.ret Leaf.stm32_pca9635_initialize else OK := by
  rw [ nucleo_connectivity_initialize, run_snd_of_assigns]
  · by_cases h1 : F.PCA9635PW <;> by_cases h2 : F.WL_NRF24L01 <;>
      simp [call, h1, h2]
  · simp

/-- With the NRF24L01 driver compiled in, what `stm32_pca9635_initialize` returns never reaches
the value `stm32_bringup` returns: `nucleo_connectivity_initialize` overwrites it. -/
theorem stm32_bringup_ignores_pca9635 (hwl : F.WL_NRF24L01 = true) (r : ℤ) :
    (stm32_bringup F (env.setRet Leaf.stm32_pca9635_initialize r)).2 = (stm32_bringup F env).2 := by
  rw [stm32_bringup_ret, stm32_bringup_ret]
  -- the connectivity helper is the only one that reads the result, and it overwrites it; the
  -- other helpers read the same results from both environments
  simp only [groupResults, nucleo_connectivity_initialize_ret, hwl, if_true]
  rfl

/-- A PCA9635 that fails while the NRF24L01 driver starts: `stm32_bringup` returns `OK`. -/
theorem stm32_bringup_ignores_pca9635_EIO :
    (stm32_bringup { Features.none with PCA9635PW := true, WL_NRF24L01 := true }
      ((⟨fun _ => OK, fun _ => true⟩ : Env).setRet Leaf.stm32_pca9635_initialize (-Libc.EIO))).2 =
      OK := by
  rw [stm32_bringup_ignores_pca9635 _ _ rfl]
  decide

end Results

end NucleoH753zi.Bringup
