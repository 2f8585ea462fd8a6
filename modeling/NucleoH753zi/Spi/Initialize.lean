import NucleoH753zi.Spi.CsPins
import NucleoH753zi.Steps

/-!
# Chip-select initialization: `stm32_spi_initialize`

Each enabled bus `SPIk` has a table `g_spik_cs_pins[0 .. g_spik_cs_count)`; its list has at
most `MAX_CS_PINS_PER_SPI` entries (`CsTable`). Buses are numbered from 0 here, bus `k` being
`SPI(k+1)`.

`stm32_spi_initialize` is six copies of one block, one for each enabled bus in turn: parse the
bus's list into its table, then configure each pin and drive it high, returning at the first
parse error or the first failing `stm32_configgpio`. The block is `initBus`, and the function is
the run of `initBus` over the enabled buses that stops at the first failure (`Steps.runSteps`).
`stm32_configgpio` is a parameter: the outcome of each call is the value it returns for the
word. The calls made to the GPIO driver are kept in `SpiState.ops`.
-/

namespace NucleoH753zi.Spi

open Libc Steps

/-- `g_spik_cs_pins[0 .. g_spik_cs_count)`. -/
structure CsTable where
  pins : List ℕ
  length_le : pins.length ≤ MAX_CS_PINS_PER_SPI

def CsTable.empty : CsTable := ⟨[], Nat.zero_le _⟩

/-- The board options read by the SPI code: `CONFIG_NUCLEO_H753ZI_SPIk_ENABLE` and
`CONFIG_NUCLEO_H753ZI_SPIk_CS_PINS`. -/
structure SpiConfig where
  enable : Fin 6 → Bool
  cs_pins : Fin 6 → List Char

structure SpiState where
  tables : Fin 6 → CsTable
  ops : List GpioOp

def SpiState.init : SpiState := ⟨fun _ => CsTable.empty, []⟩

def pinError (configgpio : ℕ → ℤ) (pin : ℕ) : Option ℤ :=
  if configgpio pin < 0 then some (configgpio pin) else none

def csPinStep (configgpio : ℕ → ℤ) (st : List GpioOp × ℤ) (pin : ℕ) :
    (List GpioOp × ℤ) × Option ℤ :=
  let ret := configgpio pin
  if ret < 0 then ((st.1 ++ [.configgpio pin], ret), some ret)
  else ((st.1 ++ [.configgpio pin, .gpiowrite pin true], ret), none)

/-- The block of bus `k`, on the state and `ret`. -/
def initBus (cfg : SpiConfig) (configgpio : ℕ → ℤ) (st : SpiState × ℤ) (k : Fin 6) :
    (SpiState × ℤ) × Option ℤ :=
  let r := parse_cs_pins (cfg.cs_pins k) MAX_CS_PINS_PER_SPI
  let tables := Function.update st.1.tables k ⟨r.1, length_parse_cs_pins_le _ _⟩
  if r.2 < 0 then ((⟨tables, st.1.ops⟩, r.2), some r.2)
  else
    let c := runSteps (csPinStep configgpio) (st.1.ops, r.2) r.1
    ((⟨tables, c.1.1⟩, c.1.2), c.2)

def enabledBuses (cfg : SpiConfig) : List (Fin 6) := (List.finRange 6).filter cfg.enable

/-- `stm32_spi_initialize ()`: the state afterwards and the value returned, the last value of
`ret`. -/
def stm32_spi_initialize (cfg : SpiConfig) (configgpio : ℕ → ℤ) (s : SpiState) :
    SpiState × ℤ :=
  (runSteps (initBus cfg configgpio) (s, OK) (enabledBuses cfg)).1

/-- What makes the block of bus `k` fail: a malformed list, or a pin of it that does not
configure. -/
def busError (cfg : SpiConfig) (configgpio : ℕ → ℤ) (k : Fin 6) : Option ℤ :=
  let r := parse_cs_pins (cfg.cs_pins k) MAX_CS_PINS_PER_SPI
  if r.2 < 0 then some r.2 else r.1.findSome? (pinError configgpio)

def BusFails (cfg : SpiConfig) (configgpio : ℕ → ℤ) (k : Fin 6) : Prop :=
  (parse_cs_pins (cfg.cs_pins k) MAX_CS_PINS_PER_SPI).2 ≠ OK ∨
    ∃ w ∈ (parse_cs_pins (cfg.cs_pins k) MAX_CS_PINS_PER_SPI).1, configgpio w < 0

instance (cfg : SpiConfig) (configgpio : ℕ → ℤ) (k : Fin 6) : Decidable (BusFails cfg configgpio k) :=
  inferInstanceAs (Decidable (_ ≠ OK ∨ ∃ w ∈ _, configgpio w < 0))

section Pins

variable (configgpio : ℕ → ℤ)

theorem pinError_eq_none_iff (pin : ℕ) : pinError configgpio pin = none ↔ 0 ≤ configgpio pin := by
  by_cases h : configgpio pin < 0
  · simp only [pinError, if_pos h, reduceCtorEq, false_iff, not_le]
    exact h
  · simp only [pinError, if_neg h, true_iff]
    exact not_lt.mp h

theorem csPinStep_snd (st : List GpioOp × ℤ) (pin : ℕ) :
    (csPinStep configgpio st pin).2 = pinError configgpio pin := by
  by_cases h : configgpio pin < 0
  · simp only [csPinStep, pinError, if_pos h]
  · simp only [csPinStep, pinError, if_neg h]

theorem csPinStep_ops (st : List GpioOp × ℤ) (pin : ℕ) :
    (csPinStep configgpio st pin).1.1 = st.1 ++ [.configgpio pin] ∨
      (csPinStep configgpio st pin).1.1 = st.1 ++ [.configgpio pin, .gpiowrite pin true] := by
  by_cases h : configgpio pin < 0
  · exact Or.inl (by simp only [csPinStep, if_pos h])
  · exact Or.inr (by simp only [csPinStep, if_neg h])

theorem csPins_run_snd (st : List GpioOp × ℤ) (pins : List ℕ) :
    (runSteps (csPinStep configgpio) st pins).2 = pins.findSome? (pinError configgpio) :=
  runSteps_snd _ _ (csPinStep_snd configgpio) st pins

theorem csPins_run_ops (st : List GpioOp × ℤ) (pins : List ℕ) :
    ∃ added, (runSteps (csPinStep configgpio) st pins).1.1 = st.1 ++ added ∧
      ∀ op ∈ added, ∃ pin ∈ pins, op = .configgpio pin ∨ op = .gpiowrite pin true := by
  apply runSteps_invariant (csPinStep configgpio)
    (fun st' => ∃ added, st'.1 = st.1 ++ added ∧
      ∀ op ∈ added, ∃ pin ∈ pins, op = .configgpio pin ∨ op = .gpiowrite pin true)
  · rintro st' pin hpin ⟨added, hst, hadded⟩
    rcases csPinStep_ops configgpio st' pin with h | h
    · refine ⟨added ++ [.configgpio pin], by rw [h, hst, List.append_assoc], fun op hop => ?_⟩
      rcases List.mem_append.mp hop with hop | hop
      · exact hadded op hop
      · exact ⟨pin, hpin, Or.inl (List.mem_singleton.mp hop)⟩
    · refine ⟨added ++ [.configgpio pin, .gpiowrite pin true], by rw [h, hst, List.append_assoc],
        fun op hop => ?_⟩
      rcases List.mem_append.mp hop with hop | hop
      · exact hadded op hop
      · simp only [List.mem_cons, List.not_mem_nil, or_false] at hop
        exact ⟨pin, hpin, hop⟩
  · exact ⟨[], (List.append_nil _).symm, by simp⟩

theorem csPins_run_of_none {st : List GpioOp × ℤ} (hret : 0 ≤ st.2) {pins : List ℕ}
    (h : (runSteps (csPinStep configgpio) st pins).2 = none) :
    0 ≤ (runSteps (csPinStep configgpio) st pins).1.2 ∧
      ∀ w ∈ pins, GpioOp.configgpio w ∈ (runSteps (csPinStep configgpio) st pins).1.1 ∧
        GpioOp.gpiowrite w true ∈ (runSteps (csPinStep configgpio) st pins).1.1 := by
  induction pins generalizing st with
  | nil => exact ⟨hret, by simp⟩
  | cons pin pins ih =>
    have hnone : pinError configgpio pin = none :=
      List.findSome?_eq_none_iff.mp ((csPins_run_snd configgpio st (pin :: pins)).symm.trans h)
        pin List.mem_cons_self
    have hp : ¬ configgpio pin < 0 := by
      intro hneg
      simp [pinError, hneg] at hnone
    have hstep : csPinStep configgpio st pin =
        ((st.1 ++ [.configgpio pin, .gpiowrite pin true], configgpio pin), none) := by
      simp only [csPinStep, if_neg hp]
    rw [runSteps_cons_of_none _ pins (by rw [hstep])] at h ⊢
    rw [hstep] at h ⊢
    obtain ⟨hret', hall⟩ := ih (not_lt.mp hp) h
    refine ⟨hret', fun w hw => ?_⟩
    rcases List.mem_cons.mp hw with rfl | hw
    · -- the calls for the first pin are kept by the rest of the loop
      obtain ⟨added, hadd, -⟩ := csPins_run_ops configgpio
        (st.1 ++ [.configgpio w, .gpiowrite w true], configgpio w) pins
      rw [hadd]
      simp
    · exact hall w hw

end Pins

theorem parse_cs_pins_snd_lt_iff (s : List Char) (max_pins : ℕ) :
    (parse_cs_pins s max_pins).2 < 0 ↔ (parse_cs_pins s max_pins).2 ≠ OK := by
  rw [parse_cs_pins_eq]
  split_ifs
  · show OK < 0 ↔ OK ≠ OK
    decide
  · show -EINVAL < 0 ↔ -EINVAL ≠ OK
    decide

theorem portOf_lt_of_mem_parse_cs_pins {s : List Char} {max_pins w : ℕ}
    (hw : w ∈ (parse_cs_pins s max_pins).1) : portOf w < STM32H7_NGPIO := by
  rw [parse_cs_pins_eq] at hw
  split_ifs at hw with ha
  · obtain ⟨t, ht, rfl⟩ := List.mem_map.mp hw
    exact portOf_lt_of_accepts (ha t ht)
  · cases hw

theorem drive_of_mem_parse_cs_pins {s : List Char} {max_pins w : ℕ}
    (hw : w ∈ (parse_cs_pins s max_pins).1) : (GpioOp.configgpio w).drive = some (w, true) := by
  rw [parse_cs_pins_eq] at hw
  split_ifs at hw with ha
  · obtain ⟨t, ht, rfl⟩ := List.mem_map.mp hw
    exact drive_of_accepts (ha t ht)
  · cases hw

section Bus

variable (cfg : SpiConfig) (configgpio : ℕ → ℤ)

def parsedTable (k : Fin 6) : CsTable :=
  ⟨(parse_cs_pins (cfg.cs_pins k) MAX_CS_PINS_PER_SPI).1, length_parse_cs_pins_le _ _⟩

theorem initBus_snd (st : SpiState × ℤ) (k : Fin 6) :
    (initBus cfg configgpio st k).2 = busError cfg configgpio k := by
  by_cases h : (parse_cs_pins (cfg.cs_pins k) MAX_CS_PINS_PER_SPI).2 < 0
  · simp only [initBus, busError, if_pos h]
  · simp only [initBus, busError, if_neg h]
    exact csPins_run_snd configgpio _ _

theorem initBus_tables (st : SpiState × ℤ) (k : Fin 6) :
    (initBus cfg configgpio st k).1.1.tables = Function.update st.1.tables k (parsedTable cfg k) := by
  by_cases h : (parse_cs_pins (cfg.cs_pins k) MAX_CS_PINS_PER_SPI).2 < 0
  · simp only [initBus, if_pos h, parsedTable]
  · simp only [initBus, if_neg h, parsedTable]

theorem initBus_ops (st : SpiState × ℤ) (k : Fin 6) :
    ∃ added, (initBus cfg configgpio st k).1.1.ops = st.1.ops ++ added ∧ DrivesHigh added := by
  by_cases h : (parse_cs_pins (cfg.cs_pins k) MAX_CS_PINS_PER_SPI).2 < 0
  · simp only [initBus, if_pos h]
    exact ⟨[], (List.append_nil _).symm, drivesHigh_nil⟩
  · simp only [initBus, if_neg h]
    obtain ⟨added, hadd, hops⟩ := csPins_run_ops configgpio (st.1.ops, _)
      (parse_cs_pins (cfg.cs_pins k) MAX_CS_PINS_PER_SPI).1
    refine ⟨added, hadd, fun op hop p v hd => ?_⟩
    obtain ⟨pin, hpin, rfl | rfl⟩ := hops op hop
    · rw [drive_of_mem_parse_cs_pins hpin] at hd
      exact (Prod.mk.inj (Option.some.inj hd)).2.symm
    · rw [GpioOp.drive_gpiowrite] at hd
      exact (Prod.mk.inj (Option.some.inj hd)).2.symm

theorem initBus_of_some {st : SpiState × ℤ} {k : Fin 6} {e : ℤ}
    (h : (initBus cfg configgpio st k).2 = some e) :
    (initBus cfg configgpio st k).1.2 = e ∧ e < 0 := by
  by_cases hp : (parse_cs_pins (cfg.cs_pins k) MAX_CS_PINS_PER_SPI).2 < 0
  · simp only [initBus, if_pos hp, Option.some.injEq] at h ⊢
    subst h
    exact ⟨rfl, hp⟩
  · simp only [initBus, if_neg hp] at h ⊢
    obtain ⟨st', pin, -, hstep⟩ := runSteps_of_some _ h
    by_cases hneg : configgpio pin < 0
    · simp only [csPinStep, if_pos hneg] at hstep
      have hret := congrArg (fun p => p.1.2) hstep
      have he : configgpio pin = e := Option.some.inj (congrArg Prod.snd hstep)
      exact ⟨hret.symm.trans he, he ▸ hneg⟩
    · simp only [csPinStep, if_neg hneg] at hstep
      cases congrArg Prod.snd hstep

theorem initBus_of_none {st : SpiState × ℤ} {k : Fin 6} (h : (initBus cfg configgpio st k).2 = none) :
    0 ≤ (initBus cfg configgpio st k).1.2 ∧
      ∀ w ∈ (parsedTable cfg k).pins, GpioOp.configgpio w ∈ (initBus cfg configgpio st k).1.1.ops ∧
        GpioOp.gpiowrite w true ∈ (initBus cfg configgpio st k).1.1.ops := by
  have hp : ¬ (parse_cs_pins (cfg.cs_pins k) MAX_CS_PINS_PER_SPI).2 < 0 := by
    intro hp
    simp only [initBus, if_pos hp, reduceCtorEq] at h
  have hok : (parse_cs_pins (cfg.cs_pins k) MAX_CS_PINS_PER_SPI).2 = OK := by
    by_contra hne
    exact hp ((parse_cs_pins_snd_lt_iff _ _).mpr hne)
  simp only [initBus, if_neg hp] at h ⊢
  exact csPins_run_of_none configgpio (by rw [hok]; decide) h

theorem busError_eq_none_iff (k : Fin 6) :
    busError cfg configgpio k = none ↔ ¬ BusFails cfg configgpio k := by
  unfold busError BusFails
  by_cases hp : (parse_cs_pins (cfg.cs_pins k) MAX_CS_PINS_PER_SPI).2 < 0
  · simp only [if_pos hp, reduceCtorEq, false_iff, not_not]
    exact Or.inl ((parse_cs_pins_snd_lt_iff _ _).mp hp)
  · have hok : (parse_cs_pins (cfg.cs_pins k) MAX_CS_PINS_PER_SPI).2 = OK := by
      by_contra hne
      exact hp ((parse_cs_pins_snd_lt_iff _ _).mpr hne)
    rw [if_neg hp, List.findSome?_eq_none_iff, hok]
    simp only [ne_eq, not_true_eq_false, false_or, not_exists, not_and, not_lt]
    exact forall₂_congr fun w _ => pinError_eq_none_iff configgpio w

theorem mem_enabledBuses {k : Fin 6} : k ∈ enabledBuses cfg ↔ cfg.enable k := by
  simp [enabledBuses, List.mem_filter, List.mem_finRange]

theorem enabledBuses_pairwise : (enabledBuses cfg).Pairwise (· < ·) :=
  (List.pairwise_lt_finRange 6).filter _

theorem runSteps_initBus_tables {k : Fin 6} {l : List (Fin 6)} (hk : k ∉ l) (st : SpiState × ℤ) :
    (runSteps (initBus cfg configgpio) st l).1.1.tables k = st.1.tables k := by
  apply runSteps_invariant (initBus cfg configgpio) (fun st' => st'.1.tables k = st.1.tables k)
  · intro st' t ht hst'
    have htk : t ≠ k := fun he => hk (he ▸ ht)
    rw [initBus_tables, Function.update_of_ne htk.symm, hst']
  · rfl

theorem runSteps_initBus_ops (st : SpiState × ℤ) (l : List (Fin 6)) :
    ∃ added, (runSteps (initBus cfg configgpio) st l).1.1.ops = st.1.ops ++ added ∧ DrivesHigh added := by
  apply runSteps_invariant (initBus cfg configgpio)
    (fun st' => ∃ added, st'.1.ops = st.1.ops ++ added ∧ DrivesHigh added)
  · rintro st' t - ⟨added, hst, hadded⟩
    obtain ⟨added', hst', hadded'⟩ := initBus_ops cfg configgpio st' t
    exact ⟨added ++ added', by rw [hst', hst, List.append_assoc],
      drivesHigh_append.mpr ⟨hadded, hadded'⟩⟩
  · exact ⟨[], (List.append_nil _).symm, drivesHigh_nil⟩

theorem busFails_of_busError {k : Fin 6} {e : ℤ} (h : busError cfg configgpio k = some e) :
    BusFails cfg configgpio k := by
  by_contra hf
  rw [(busError_eq_none_iff cfg configgpio k).mpr hf] at h
  cases h

theorem stm32_spi_initialize_neg_iff (s : SpiState) :
    ( stm32_spi_initialize cfg configgpio s).2 < 0 ↔
      ∃ k, cfg.enable k ∧ BusFails cfg configgpio k := by
  have hsnd := runSteps_snd (initBus cfg configgpio) (busError cfg configgpio)
    (initBus_snd cfg configgpio) (s, OK) (enabledBuses cfg)
  unfold stm32_spi_initialize
  cases he : (runSteps (initBus cfg configgpio) (s, OK) (enabledBuses cfg)).2 with
  | some e =>
    obtain ⟨st', t, -, hstep⟩ := runSteps_of_some _ he
    have hfail := initBus_of_some cfg configgpio
      (show (initBus cfg configgpio st' t).2 = some e by rw [hstep])
    rw [hstep] at hfail
    obtain ⟨pre, a, post, hl, ha, -⟩ := List.findSome?_eq_some_iff.mp (hsnd.symm.trans he)
    have hmem : a ∈ enabledBuses cfg := hl ▸ List.mem_append_right _ List.mem_cons_self
    exact iff_of_true (hfail.1 ▸ hfail.2)
      ⟨a, (mem_enabledBuses cfg).mp hmem, busFails_of_busError cfg configgpio ha⟩
  | none =>
    have hret : 0 ≤ (runSteps (initBus cfg configgpio) (s, OK) (enabledBuses cfg)).1.2 :=
      runSteps_invariant_of_none _ (fun st => 0 ≤ st.2) he
        (fun _ _ _ _ ht => (initBus_of_none cfg configgpio ht).1) (le_refl 0)
    refine iff_of_false (not_lt.mpr hret) ?_
    rintro ⟨k, hk, hf⟩
    have hk' := List.findSome?_eq_none_iff.mp (hsnd.symm.trans he) k ((mem_enabledBuses cfg).mpr hk)
    exact (busError_eq_none_iff cfg configgpio k).mp hk' hf

/-- A bus whose block and every earlier enabled block pass ends with the table parsed from its
list, each pin configured and driven high. -/
theorem stm32_spi_initialize_table_of_ok (s : SpiState) {k : Fin 6} (hk : cfg.enable k)
    (hok : ∀ j ≤ k, cfg.enable j → ¬ BusFails cfg configgpio j) :
    ( stm32_spi_initialize cfg configgpio s).1.tables k = parsedTable cfg k ∧
      ∀ w ∈ (parsedTable cfg k).pins,
        GpioOp.configgpio w ∈ ( stm32_spi_initialize cfg configgpio s).1.ops ∧
          GpioOp.gpiowrite w true ∈ ( stm32_spi_initialize cfg configgpio s).1.ops := by
  obtain ⟨pre, post, hl⟩ := List.append_of_mem ((mem_enabledBuses cfg).mpr hk)
  have hord := enabledBuses_pairwise cfg
  rw [hl, List.pairwise_append] at hord
  -- the buses before `k` in the list are the enabled buses below it, and they pass
  have hpre : ∀ x ∈ pre, busError cfg configgpio x = none := by
    intro x hx
    have hxk : x < k := hord.2.2 x hx k List.mem_cons_self
    have hxe : cfg.enable x := (mem_enabledBuses cfg).mp (hl ▸ List.mem_append_left _ hx)
    exact (busError_eq_none_iff cfg configgpio x).mpr (hok x (by omega) hxe)
  have hkk : busError cfg configgpio k = none :=
    (busError_eq_none_iff cfg configgpio k).mpr (hok k (by omega) hk)
  have hpost : k ∉ post := by
    intro hm
    have := (List.pairwise_cons.mp hord.2.1).1 k hm
    omega
  unfold stm32_spi_initialize
  rw [hl, runSteps_append_cons_of_none _ _ (initBus_snd cfg configgpio) post hpre hkk]
  have hnone := (initBus_snd cfg configgpio (runSteps (initBus cfg configgpio) (s, OK) pre).1 k).trans hkk
  obtain ⟨-, hcalls⟩ := initBus_of_none cfg configgpio hnone
  obtain ⟨added, hadd, -⟩ := runSteps_initBus_ops cfg configgpio
    (initBus cfg configgpio (runSteps (initBus cfg configgpio) (s, OK) pre).1 k).1 post
  refine ⟨?_, fun w hw => ?_⟩
  · rw [runSteps_initBus_tables cfg configgpio hpost, initBus_tables, Function.update_self]
  · rw [hadd]
    exact ⟨List.mem_append_left _ (hcalls w hw).1, List.mem_append_left _ (hcalls w hw).2⟩

theorem stm32_spi_initialize_table_after_failure (s : SpiState) {j k : Fin 6}
    (hj : cfg.enable j) (hf : BusFails cfg configgpio j) (hjk : j < k) :
    ( stm32_spi_initialize cfg configgpio s).1.tables k = s.tables k := by
  have hj' : busError cfg configgpio j ≠ none := fun h => (busError_eq_none_iff cfg configgpio j).mp h hf
  have hsome : (enabledBuses cfg).findSome? (busError cfg configgpio) ≠ none := by
    rw [ne_eq, List.findSome?_eq_none_iff]
    exact fun hall => hj' (hall j ((mem_enabledBuses cfg).mpr hj))
  obtain ⟨e, he⟩ := Option.ne_none_iff_exists'.mp hsome
  obtain ⟨pre, a, post, hl, ha, hpre⟩ := List.findSome?_eq_some_iff.mp he
  have hord := enabledBuses_pairwise cfg
  rw [hl, List.pairwise_append] at hord
  have haj : a ≤ j := by
    by_contra hlt
    have hja : j < a := by omega
    have hjmem : j ∈ pre ++ a :: post := hl ▸ (mem_enabledBuses cfg).mpr hj
    rcases List.mem_append.mp hjmem with hjpre | hjrest
    · exact hj' (hpre j hjpre)
    · rcases List.mem_cons.mp hjrest with rfl | hjpost
      · omega
      · have := (List.pairwise_cons.mp hord.2.1).1 j hjpost
        omega
  have hak : a < k := by omega
  have hkpre : k ∉ pre := by
    intro hm
    have := hord.2.2 k hm a List.mem_cons_self
    omega
  unfold stm32_spi_initialize
  rw [hl, runSteps_append_cons_of_some _ _ (initBus_snd cfg configgpio) post hpre ha]
  dsimp only
  rw [initBus_tables, Function.update_of_ne (by omega : k ≠ a),
    runSteps_initBus_tables cfg configgpio hkpre]

theorem stm32_spi_initialize_writes_high {s : SpiState} (hs : DrivesHigh s.ops) :
    DrivesHigh ( stm32_spi_initialize cfg configgpio s).1.ops := by
  obtain ⟨added, hadd, hwrites⟩ := runSteps_initBus_ops cfg configgpio (s, OK) (enabledBuses cfg)
  rw [ stm32_spi_initialize, hadd]
  exact drivesHigh_append.mpr ⟨hs, hwrites⟩

end Bus

/-- The buses are initialized in order, and the first enabled bus whose list is malformed or
whose pin fails to configure ends the initialization: the value returned is negative exactly
when there is such a bus; every enabled bus up to which no block failed ends with its parsed
list as table, each pin configured and driven high; every bus after a failed one keeps a
count of 0. -/
theorem stm32_spi_initialize_in_bus_order (cfg : SpiConfig) (configgpio : ℕ → ℤ) (odr : Odr) :
    (( stm32_spi_initialize cfg configgpio SpiState.init).2 < 0 ↔
      ∃ k, cfg.enable k ∧ BusFails cfg configgpio k) ∧
    (∀ k, cfg.enable k → (∀ j ≤ k, cfg.enable j → ¬ BusFails cfg configgpio j) →
      (( stm32_spi_initialize cfg configgpio SpiState.init).1.tables k).pins =
          (parse_cs_pins (cfg.cs_pins k) MAX_CS_PINS_PER_SPI).1 ∧
        ∀ w ∈ (parse_cs_pins (cfg.cs_pins k) MAX_CS_PINS_PER_SPI).1,
          GpioOp.configgpio w ∈ ( stm32_spi_initialize cfg configgpio SpiState.init).1.ops ∧
          applyOps ( stm32_spi_initialize cfg configgpio SpiState.init).1.ops odr
            (portOf w, pinOf w) = true) ∧
    (∀ j k, cfg.enable j → BusFails cfg configgpio j → j < k →
      (( stm32_spi_initialize cfg configgpio SpiState.init).1.tables k).pins = []) := by
  refine ⟨stm32_spi_initialize_neg_iff cfg configgpio _, fun k hk hok => ?_,
    fun j k hj hf hjk => ?_⟩
  · obtain ⟨htab, hcalls⟩ := stm32_spi_initialize_table_of_ok cfg configgpio SpiState.init hk hok
    have hhigh := stm32_spi_initialize_writes_high cfg configgpio (s := SpiState.init) drivesHigh_nil
    rw [htab]
    refine ⟨rfl, fun w hw => ⟨(hcalls w hw).1, ?_⟩⟩
    exact applyOps_high_of_mem hhigh (hcalls w hw).2 (portOf_lt_of_mem_parse_cs_pins hw) odr
  · rw [stm32_spi_initialize_table_after_failure cfg configgpio _ hj hf hjk]
    rfl

/-- `SPI1` has the malformed list `"PA"` and `SPI2` the well-formed `"PB0"`, and every pin
configures: `SPI2` is never parsed and keeps no chip select. -/
theorem stm32_spi_initialize_skips_later_bus :
    (parse_cs_pins ['P', 'B', '0'] MAX_CS_PINS_PER_SPI).2 = OK ∧
      (parse_cs_pins ['P', 'B', '0'] MAX_CS_PINS_PER_SPI).1.length = 1 ∧
      (( stm32_spi_initialize
          ⟨fun k => k.val < 2, fun k => if k.val = 0 then ['P', 'A'] else ['P', 'B', '0']⟩
          (fun _ => 0) SpiState.init).1.tables 1).pins = [] := by
  decide

end NucleoH753zi.Spi
