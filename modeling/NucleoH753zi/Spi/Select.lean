import NucleoH753zi.Spi.Initialize

/-!
# Chip-select routing: `spi_cs_select` and `stm32_spiKselect`

`stm32_spiKselect (dev, devid, selected)` calls `spi_cs_select (devid + 8 * (K - 1), selected)`
in 32-bit unsigned arithmetic; the `dev` argument is not used. `spi_cs_select` splits the
number into `spi_base = devid / 8` and `cs_index = devid % 8`, takes the table of bus
`spi_base` when that bus is enabled, and drives `cs_pins[cs_index]` to `!selected` when the
index is below the count. Each function is modelled by the list of driver calls it makes.

A device number is the packed `SPIDEV_ID (type, index)` of `spi.h`. The routing reads the
whole number and not its index field: a device with a nonzero type, such as the SD card's
`SPIDEV_MMCSD (0)`, lands in no table, and an index of 8 or more lands in the table of another
bus. `busLocalSelect` is the routing by bus and index field, against which the code is
compared.
-/

namespace NucleoH753zi.Spi

open Libc

def SPIDEVTYPE_MMCSD : UInt32 := 1

def SPIDEV_ID (type index : UInt32) : UInt32 := ((type &&& 0xffff) <<< 16) ||| (index &&& 0xffff)

def SPIDEVID_INDEX (devid : UInt32) : UInt32 := devid &&& 0xffff

def SPIDEV_MMCSD (n : UInt32) : UInt32 := SPIDEV_ID SPIDEVTYPE_MMCSD n

/-- `spi_cs_select (devid, selected)`; a case of the switch exists only for an enabled bus. -/
def spi_cs_select (enable : Fin 6 → Bool) (tables : Fin 6 → CsTable) (devid : UInt32)
    (selected : Bool) : List GpioOp :=
  let spi_base := devid.toNat / MAX_CS_PINS_PER_SPI
  let cs_index := devid.toNat % MAX_CS_PINS_PER_SPI
  if h : spi_base < 6 then
    if enable ⟨spi_base, h⟩ then
      let cs_pins := (tables ⟨spi_base, h⟩).pins
      if hi : cs_index < cs_pins.length then [.gpiowrite (cs_pins.get ⟨cs_index, hi⟩) (!selected)]
      else []
    else []
  else []

/-- The select functions of the buses after the first: `spi_cs_select (devid + offset, ...)`. -/
def spiSelect (offset : UInt32) (enable : Fin 6 → Bool) (tables : Fin 6 → CsTable)
    (devid : UInt32) (selected : Bool) : List GpioOp :=
  spi_cs_select enable tables (devid + offset) selected

def stm32_spi1select (enable : Fin 6 → Bool) (tables : Fin 6 → CsTable) (devid : UInt32)
    (selected : Bool) : List GpioOp :=
  spi_cs_select enable tables devid selected

def stm32_spi2select : (Fin 6 → Bool) → (Fin 6 → CsTable) → UInt32 → Bool → List GpioOp :=
  spiSelect 8

def stm32_spi3select : (Fin 6 → Bool) → (Fin 6 → CsTable) → UInt32 → Bool → List GpioOp :=
  spiSelect 16

def stm32_spi4select : (Fin 6 → Bool) → (Fin 6 → CsTable) → UInt32 → Bool → List GpioOp :=
  spiSelect 24

def stm32_spi5select : (Fin 6 → Bool) → (Fin 6 → CsTable) → UInt32 → Bool → List GpioOp :=
  spiSelect 32

def stm32_spi6select : (Fin 6 → Bool) → (Fin 6 → CsTable) → UInt32 → Bool → List GpioOp :=
  spiSelect 40

def stm32_spiselect : Fin 6 → (Fin 6 → Bool) → (Fin 6 → CsTable) → UInt32 → Bool → List GpioOp
  | 0 => stm32_spi1select
  | 1 => stm32_spi2select
  | 2 => stm32_spi3select
  | 3 => stm32_spi4select
  | 4 => stm32_spi5select
  | 5 => stm32_spi6select

/-- Routing by bus and index field: bus `k` drives entry `SPIDEVID_INDEX devid` of its own
table, whatever the type field. -/
def busLocalSelect (k : Fin 6) (tables : Fin 6 → CsTable) (devid : UInt32) (selected : Bool) :
    List GpioOp :=
  let i := (SPIDEVID_INDEX devid).toNat
  if hi : i < (tables k).pins.length then [.gpiowrite ((tables k).pins.get ⟨i, hi⟩) (!selected)]
  else []

section Routing

variable (enable : Fin 6 → Bool) (tables : Fin 6 → CsTable) (selected : Bool)

theorem stm32_spiselect_eq (k : Fin 6) (devid : UInt32) :
    stm32_spiselect k enable tables devid selected =
      spi_cs_select enable tables (devid + UInt32.ofNat (8 * k.val)) selected := by
  match k with
  | 0 => simp [stm32_spiselect, stm32_spi1select]
  | 1 => rfl
  | 2 => rfl
  | 3 => rfl
  | 4 => rfl
  | 5 => rfl

theorem spi_cs_select_of_le {devid : UInt32} (h : 48 ≤ devid.toNat) :
    spi_cs_select enable tables devid selected = [] := by
  have hb : ¬ devid.toNat / MAX_CS_PINS_PER_SPI < 6 := by
    unfold MAX_CS_PINS_PER_SPI
    omega
  simp only [spi_cs_select, dif_neg hb]

theorem spi_cs_select_of_eq {devid : UInt32} (j : Fin 6) {i : ℕ} (hi : i < 8)
    (hd : devid.toNat = 8 * j.val + i) :
    spi_cs_select enable tables devid selected =
      if enable j then
        if h : i < (tables j).pins.length then [.gpiowrite ((tables j).pins.get ⟨i, h⟩) (!selected)]
        else []
      else [] := by
  have hb : devid.toNat / MAX_CS_PINS_PER_SPI = j.val := by
    unfold MAX_CS_PINS_PER_SPI
    omega
  have hm : devid.toNat % MAX_CS_PINS_PER_SPI = i := by
    unfold MAX_CS_PINS_PER_SPI
    omega
  have hlt : devid.toNat / MAX_CS_PINS_PER_SPI < 6 := by
    rw [hb]
    exact j.isLt
  have hj : (⟨devid.toNat / MAX_CS_PINS_PER_SPI, hlt⟩ : Fin 6) = j := Fin.ext hb
  simp only [spi_cs_select]
  rw [dif_pos hlt, hj, hm]

/-- A select call writes at most one pin: an entry of the table of an enabled bus, driven to
`!selected`. -/
theorem spi_cs_select_writes (devid : UInt32) :
    (spi_cs_select enable tables devid selected).length ≤ 1 ∧
      ∀ op ∈ spi_cs_select enable tables devid selected,
        ∃ j, enable j ∧ ∃ w ∈ (tables j).pins, op = .gpiowrite w (!selected) := by
  simp only [spi_cs_select]
  split_ifs with hb he hi
  · refine ⟨by simp, fun op hop => ⟨_, he, _, List.get_mem _ _, List.mem_singleton.mp hop⟩⟩
  all_goals simp

theorem SPIDEVID_INDEX_toNat (devid : UInt32) :
    (SPIDEVID_INDEX devid).toNat = devid.toNat % 2 ^ 16 := by
  rw [SPIDEVID_INDEX, UInt32.toNat_and, show (0xffff : UInt32).toNat = 2 ^ 16 - 1 from rfl,
    Nat.and_two_pow_sub_one_eq_mod]

/-- A select call writes at most one pin, a chip select of an enabled bus, driven to
`!selected`; so it changes the level of at most one pin. -/
theorem stm32_spiselect_writes (k : Fin 6) (devid : UInt32) (odr : Odr) :
    (stm32_spiselect k enable tables devid selected).length ≤ 1 ∧
    (∀ op ∈ stm32_spiselect k enable tables devid selected,
      ∃ j, enable j ∧ ∃ w ∈ (tables j).pins, op = .gpiowrite w (!selected)) ∧
    ∃ p, ∀ q, q ≠ p → applyOps (stm32_spiselect k enable tables devid selected) odr q = odr q := by
  rw [stm32_spiselect_eq]
  obtain ⟨hlen, hops⟩ := spi_cs_select_writes enable tables selected
    (devid + UInt32.ofNat (8 * k.val))
  refine ⟨hlen, hops, ?_⟩
  generalize spi_cs_select enable tables (devid + UInt32.ofNat (8 * k.val)) selected = ops at hlen hops
  match ops, hlen with
  | [], _ => exact ⟨(0, 0), fun q _ => rfl⟩
  | [.configgpio c], _ =>
    obtain ⟨_, _, _, _, hop⟩ := hops _ (List.mem_singleton_self _)
    cases hop
  | [.gpiowrite w v], _ => exact ⟨(portOf w, pinOf w), fun q hq => stm32_gpiowrite_other v odr hq⟩

/-- For a number below 8 the select function of an enabled bus drives the entry of that
number in its own table, as routing by bus and index does. -/
theorem stm32_spiselect_of_lt {k : Fin 6} (hk : enable k) {devid : UInt32} (hd : devid.toNat < 8) :
    stm32_spiselect k enable tables devid selected = busLocalSelect k tables devid selected := by
  have hsum : (devid + UInt32.ofNat (8 * k.val)).toNat = 8 * k.val + devid.toNat := by
    rw [UInt32.toNat_add, UInt32.toNat_ofNat']
    have := k.isLt
    omega
  have hidx : (SPIDEVID_INDEX devid).toNat = devid.toNat := by
    rw [SPIDEVID_INDEX_toNat]
    omega
  rw [stm32_spiselect_eq, spi_cs_select_of_eq enable tables selected k hd hsum, if_pos hk,
    busLocalSelect]
  simp only [hidx]

theorem stm32_spiselect_of_lt_zero :
    stm32_spiselect 2 (fun _ => true) (fun _ => ⟨[7], by decide⟩) 0 true = [.gpiowrite 7 false] ∧
      stm32_spiselect 2 (fun _ => true) (fun _ => ⟨[7], by decide⟩) 0 true =
        busLocalSelect 2 (fun _ => ⟨[7], by decide⟩) 0 true :=
  ⟨by decide, stm32_spiselect_of_lt (fun _ => true) (fun _ => ⟨[7], by decide⟩) true rfl (by decide)⟩

end Routing

/-- The SD card driver selects its card with `SPIDEV_MMCSD (0)`, whose index field is 0; on
`SPI3` the select function writes no pin for it, where routing by index drives the first chip
select of the bus. And `SPI1` routes the number 8 to the first chip select of `SPI2`. -/
theorem stm32_spiselect_misroutes (enable : Fin 6 → Bool) (tables : Fin 6 → CsTable)
    (selected : Bool) :
    (SPIDEVID_INDEX (SPIDEV_MMCSD 0) = 0 ∧
      stm32_spi3select enable tables (SPIDEV_MMCSD 0) selected = [] ∧
      ∀ h : 0 < (tables 2).pins.length, busLocalSelect 2 tables (SPIDEV_MMCSD 0) selected =
        [.gpiowrite ((tables 2).pins.get ⟨0, h⟩) (!selected)]) ∧
    (enable 1 → ∀ h : 0 < (tables 1).pins.length,
      stm32_spi1select enable tables 8 selected =
        [.gpiowrite ((tables 1).pins.get ⟨0, h⟩) (!selected)]) := by
  refine ⟨⟨by decide, ?_, fun h => ?_⟩, fun he h => ?_⟩
  · -- the number `SPIDEV_MMCSD (0) + 16` is far above the 48 numbers of the six buses
    show spi_cs_select enable tables (SPIDEV_MMCSD 0 + 16) selected = []
    apply spi_cs_select_of_le
    decide
  · rw [busLocalSelect]
    simp only [show (SPIDEVID_INDEX (SPIDEV_MMCSD 0)).toNat = 0 from rfl, dif_pos h]
  · rw [stm32_spi1select,
      spi_cs_select_of_eq enable tables selected 1 (show (0 : ℕ) < 8 by decide) (by decide),
      if_pos he, dif_pos h]

/-- After the initialization, as long as no enabled block up to bus `k` failed, the select
function of bus `k` drives for the number `i < 8` the pin named by the `i`-th token of the
bus's list, and no pin when the list has no such token. -/
theorem stm32_spiselect_after_initialize (cfg : SpiConfig) (configgpio : ℕ → ℤ) {k : Fin 6}
    (hk : cfg.enable k) (hok : ∀ j ≤ k, cfg.enable j → ¬ BusFails cfg configgpio j)
    {devid : UInt32} (hd : devid.toNat < 8) (selected : Bool) :
    stm32_spiselect k cfg.enable ( stm32_spi_initialize cfg configgpio SpiState.init).1.tables
        devid selected =
      match (csTokens (cfg.cs_pins k) MAX_CS_PINS_PER_SPI)[devid.toNat]? with
      | some t => [.gpiowrite (parse_gpio_pin t).1 (!selected)]
      | none => [] := by
  have htab := (stm32_spi_initialize_table_of_ok cfg configgpio SpiState.init hk hok).1
  have hparse : (parse_cs_pins (cfg.cs_pins k) MAX_CS_PINS_PER_SPI).2 = OK := by
    by_contra hne
    exact hok k (by omega) hk (Or.inl hne)
  have hpins : (parsedTable cfg k).pins =
      (csTokens (cfg.cs_pins k) MAX_CS_PINS_PER_SPI).map (fun t => (parse_gpio_pin t).1) := by
    have h := parse_cs_pins_eq (cfg.cs_pins k) MAX_CS_PINS_PER_SPI
    split_ifs at h
    · exact congrArg Prod.fst h
    · rw [h] at hparse
      cases hparse
  have hidx : (SPIDEVID_INDEX devid).toNat = devid.toNat := by
    rw [SPIDEVID_INDEX_toNat]
    omega
  rw [stm32_spiselect_of_lt _ _ _ hk hd]
  simp only [busLocalSelect]
  rw [htab, hidx, hpins]
  by_cases hi : devid.toNat < (csTokens (cfg.cs_pins k) MAX_CS_PINS_PER_SPI).length
  · rw [dif_pos (by rw [List.length_map]; exact hi), List.getElem?_eq_getElem hi]
    simp
  · rw [dif_neg (by rw [List.length_map]; exact hi), List.getElem?_eq_none (not_lt.mp hi)]

theorem stm32_spiselect_after_initialize_PA4 :
    stm32_spiselect 0 (fun k => k.val = 0)
        ( stm32_spi_initialize ⟨fun k => k.val = 0, fun _ => ['P', 'A', '4']⟩ (fun _ => 0)
          SpiState.init).1.tables 0 true =
      [.gpiowrite (parse_gpio_pin ['P', 'A', '4']).1 false] :=
  stm32_spiselect_after_initialize ⟨fun k => k.val = 0, fun _ => ['P', 'A', '4']⟩ (fun _ => 0)
    rfl (fun j hj _ => by
      have : j = 0 := by omega
      subst this
      decide) (by decide) true

end NucleoH753zi.Spi
