import NucleoH753zi.Gpio
import NucleoH753zi.Libc
import NucleoH753zi.Steps
import NucleoH753zi.Machine

/-!
# The ADC drivers

`stm32_adc_setup` (`stm32_adc.c`) brings up the enabled ADCs in the order ADC1, ADC2, ADC3: it
configures the pins of each one's channels, asks `stm32h7_adc_initialize` for the lower half
(`-ENODEV` when there is none) and registers it with `adc_register` under `devname`, which starts
as `/dev/adc0` on every call and counts up after each registration. The first failure is returned
at once; the static `initialized`, set once every enabled ADC is registered, makes later calls
return OK.

`register_driver` refuses a path that is taken, so a call that fails after `/dev/adc0` is
registered makes every later call fail (`stm32_adc_setup_fails_forever`). The blocks are one step
`adcStep` run by `Steps.runSteps`. With ADC2 alone the source does not compile (the declarations
the ADC2 block uses are compiled out); the messages of `aerr` are left out.
-/

namespace NucleoH753zi.Adc

open Libc Steps

structure AdcConfig where
  ADC1 : Bool
  ADC2 : Bool
  ADC3 : Bool
  deriving DecidableEq, Repr

def ADC1_NCHANNELS : ℕ := 7
def ADC2_NCHANNELS : ℕ := 5
def ADC3_NCHANNELS : ℕ := 1

/-! The pins of `board.h`, as the pin map defines them. -/

def GPIO_ADC123_INP10 : ℕ := GPIO_ANALOG ||| GPIO_PORT 2 ||| GPIO_PIN 0
def GPIO_ADC123_INP12 : ℕ := GPIO_ANALOG ||| GPIO_PORT 2 ||| GPIO_PIN 2
def GPIO_ADC123_INP11 : ℕ := GPIO_ANALOG ||| GPIO_PORT 2 ||| GPIO_PIN 1
def GPIO_ADC12_INP15 : ℕ := GPIO_ANALOG ||| GPIO_PORT 0 ||| GPIO_PIN 3
def GPIO_ADC12_INP18 : ℕ := GPIO_ANALOG ||| GPIO_PORT 0 ||| GPIO_PIN 4
def GPIO_ADC12_INP19 : ℕ := GPIO_ANALOG ||| GPIO_PORT 0 ||| GPIO_PIN 5
def GPIO_ADC12_INP14 : ℕ := GPIO_ANALOG ||| GPIO_PORT 0 ||| GPIO_PIN 2
def GPIO_ADC123_INP7 : ℕ := GPIO_ANALOG ||| GPIO_PORT 0 ||| GPIO_PIN 7
def GPIO_ADC12_INP5 : ℕ := GPIO_ANALOG ||| GPIO_PORT 1 ||| GPIO_PIN 1
def GPIO_ADC12_INP3 : ℕ := GPIO_ANALOG ||| GPIO_PORT 0 ||| GPIO_PIN 6
def GPIO_ADC12_INP4 : ℕ := GPIO_ANALOG ||| GPIO_PORT 2 ||| GPIO_PIN 4
def GPIO_ADC12_INP8 : ℕ := GPIO_ANALOG ||| GPIO_PORT 2 ||| GPIO_PIN 5
def GPIO_ADC2_INP2 : ℕ := GPIO_ANALOG ||| GPIO_PORT 5 ||| GPIO_PIN 13

def g_adc1_chanlist : List ℕ := [5, 10, 15, 18, 19, 7, 12]
def g_adc1_pinlist : List ℕ :=
  [GPIO_ADC12_INP5, GPIO_ADC123_INP10, GPIO_ADC12_INP15, GPIO_ADC12_INP18, GPIO_ADC12_INP19,
    GPIO_ADC123_INP7, GPIO_ADC123_INP12]

def g_adc2_chanlist : List ℕ := [2, 3, 14, 4, 8]
def g_adc2_pinlist : List ℕ :=
  [GPIO_ADC2_INP2, GPIO_ADC12_INP3, GPIO_ADC12_INP14, GPIO_ADC12_INP4, GPIO_ADC12_INP8]

/-- Declared with `ADC1_NCHANNELS` entries, of which only the first is given. -/
def g_adc3_chanlist : List ℕ := [11, 0, 0, 0, 0, 0, 0]
def g_adc3_pinlist : List ℕ := [GPIO_ADC123_INP11]

/-- One ADC's block: the interface number, the channels passed to `stm32h7_adc_initialize`, and
the pin of each channel. -/
structure AdcBlock where
  intf : ℕ
  chanlist : List ℕ
  pinlist : List ℕ
  deriving DecidableEq, Repr

def adcBlocks (cfg : AdcConfig) : List AdcBlock :=
  (if cfg.ADC1 then [⟨1, g_adc1_chanlist.take ADC1_NCHANNELS, g_adc1_pinlist⟩] else []) ++
    (if cfg.ADC2 then [⟨2, g_adc2_chanlist.take ADC2_NCHANNELS, g_adc2_pinlist⟩] else []) ++
    (if cfg.ADC3 then [⟨3, g_adc3_chanlist.take ADC3_NCHANNELS, g_adc3_pinlist⟩] else [])

/-- What the rest of the system answers for ADC `intf`: whether `stm32h7_adc_initialize` gives
a lower half, and what binding it and allocating its buffers in `adc_register` returns. -/
structure AdcEnv where
  adc_initialize : ℕ → Bool
  bind : ℕ → ℤ

/-- The static flag, the registered ADC drivers (path and interface) and the GPIO driver calls
made. -/
structure AdcState where
  initialized : Bool
  registry : List (List Char × ℕ)
  gpio : List GpioOp

/-- `devname` once `devname[8]` has been counted up `k` times from `'0'`. -/
def devname (k : ℕ) : List Char := "/dev/adc".toList ++ [Char.ofNat ('0'.toNat + k)]

/-- `adc_register (path, dev)`: bind and allocate, then `register_driver`, which refuses a path
that is taken. -/
def adc_register (env : AdcEnv) (registry : List (List Char × ℕ)) (path : List Char) (intf : ℕ) :
    List (List Char × ℕ) × ℤ :=
  if env.bind intf < 0 then (registry, env.bind intf)
  else if path ∈ registry.map Prod.fst then (registry, -EEXIST)
  else (registry ++ [(path, intf)], OK)

def pinConfigs (b : AdcBlock) : List GpioOp := (b.pinlist.filter (· ≠ 0)).map GpioOp.configgpio

/-- One ADC's block, with `devname` counted by `k`. -/
def adcStep (env : AdcEnv) (sk : AdcState × ℕ) (b : AdcBlock) : (AdcState × ℕ) × Option ℤ :=
  let s := { sk.1 with gpio := sk.1.gpio ++ pinConfigs b }
  if env.adc_initialize b.intf = false then ((s, sk.2), some (-ENODEV))
  else
    let r := adc_register env s.registry (devname sk.2) b.intf
    if r.2 < 0 then (({ s with registry := r.1 }, sk.2), some r.2)
    else (({ s with registry := r.1 }, sk.2 + 1), none)

def stm32_adc_setup (cfg : AdcConfig) (env : AdcEnv) (s : AdcState) : AdcState × ℤ :=
  if s.initialized then (s, OK)
  else
    let r := runSteps (adcStep env) (s, 0) (adcBlocks cfg)
    match r.2 with
    | some e => (r.1.1, e)
    | none => ({ r.1.1 with initialized := true }, OK)

/-! ## One block -/

def blockError (env : AdcEnv) (b : AdcBlock) : Option ℤ :=
  if env.adc_initialize b.intf = false then some (-ENODEV)
  else if env.bind b.intf < 0 then some (env.bind b.intf)
  else none

theorem devname_injective : ∀ i < 10, ∀ j < 10, devname i = devname j → i = j := by
  decide

section Step

variable (env : AdcEnv) (b : AdcBlock) (s : AdcState) (k : ℕ)

theorem adcStep_of_free (hfree : devname k ∉ s.registry.map Prod.fst) :
    adcStep env (s, k) b =
      ((⟨s.initialized, s.registry ++ (if blockError env b = none then [(devname k, b.intf)] else []),
          s.gpio ++ pinConfigs b⟩, if blockError env b = none then k + 1 else k),
        blockError env b) := by
  unfold adcStep blockError adc_register
  by_cases hinit : env.adc_initialize b.intf = false
  · simp [hinit]
  · by_cases hbind : env.bind b.intf < 0
    · simp [hinit, hbind]
    · simp [hinit, hbind, hfree, OK]

theorem adcStep_of_taken (htaken : devname k ∈ s.registry.map Prod.fst) :
    (adcStep env (s, k) b).1.1.registry = s.registry ∧
      (adcStep env (s, k) b).1.1.initialized = s.initialized ∧
      ∃ e < 0, (adcStep env (s, k) b).2 = some e := by
  unfold adcStep adc_register
  by_cases hinit : env.adc_initialize b.intf = false
  · simp [hinit, ENODEV]
  · by_cases hbind : env.bind b.intf < 0
    · simp [hinit, hbind]
    · simp [hinit, hbind, htaken, EEXIST]

end Step

/-! ## A run of the blocks -/

theorem devname_free_succ {registry : List (List Char × ℕ)} {k : ℕ} (hk : k < 10)
    (hfree : ∀ j, k ≤ j → j < 10 → devname j ∉ registry.map Prod.fst) (intf : ℕ) :
    ∀ j, k + 1 ≤ j → j < 10 → devname j ∉ (registry ++ [(devname k, intf)]).map Prod.fst := by
  intro j hkj hj hmem
  simp only [List.map_append, List.map_cons, List.map_nil, List.mem_append,
    List.mem_singleton] at hmem
  rcases hmem with hmem | heq
  · exact hfree j (by omega) hj hmem
  · have := devname_injective j hj k hk heq
    omega

/-- Run from a counter `k` whose names up to `10` are free, the blocks return the first error
among them; when there is none, ADC `i` of the run is registered as `devname (k + i)`. -/
theorem runSteps_adcStep (env : AdcEnv) (blocks : List AdcBlock) (s : AdcState) (k : ℕ)
    (hlen : k + blocks.length ≤ 10)
    (hfree : ∀ j, k ≤ j → j < 10 → devname j ∉ s.registry.map Prod.fst) :
    let r := runSteps (adcStep env) (s, k) blocks
    r.2 = blocks.findSome? (blockError env) ∧
      (r.2 = none →
        r.1.1.registry = s.registry ++ blocks.mapIdx (fun i b => (devname (k + i), b.intf)) ∧
          r.1.1.gpio = s.gpio ++ blocks.flatMap pinConfigs ∧ r.1.1.initialized = s.initialized) := by
  induction blocks generalizing s k with
  | nil => simp
  | cons b bs ih =>
    simp only [List.length_cons] at hlen
    rw [List.findSome?_cons]
    cases he : blockError env b with
    | some e =>
      rw [runSteps_cons_of_some _ bs (by rw [adcStep_of_free env b s k (hfree k le_rfl (by omega)), he])]
      simp
    | none =>
      have hstep := adcStep_of_free env b s k (hfree k le_rfl (by omega))
      simp only [he, if_true] at hstep
      rw [runSteps_cons_of_none _ bs (by rw [hstep]), hstep]
      -- the name of this block is taken now, the later ones are still free
      obtain ⟨h1, h2⟩ := ih ⟨s.initialized, s.registry ++ [(devname k, b.intf)], s.gpio ++ pinConfigs b⟩
        (k + 1) (by omega) (devname_free_succ (by omega) hfree b.intf)
      refine ⟨h1, fun hnone => ?_⟩
      obtain ⟨hreg, hgpio, hinit⟩ := h2 hnone
      refine ⟨?_, ?_, hinit⟩
      · rw [hreg, List.mapIdx_cons, List.append_assoc]
        simp [Nat.add_assoc, Nat.add_comm 1]
      · rw [hgpio, List.flatMap_cons, List.append_assoc]

theorem blockError_neg {env : AdcEnv} {b : AdcBlock} {e : ℤ} (h : blockError env b = some e) :
    e < 0 := by
  unfold blockError at h
  split_ifs at h with hinit hbind
  · cases h
    decide
  · cases h
    exact hbind

theorem length_adcBlocks_le (cfg : AdcConfig) : (adcBlocks cfg).length ≤ 3 := by
  unfold adcBlocks
  cases cfg.ADC1 <;> cases cfg.ADC2 <;> cases cfg.ADC3 <;> simp

/-! ## The calls of `stm32_adc_setup` -/

section Setup

variable (cfg : AdcConfig) (env : AdcEnv) {s : AdcState} (hinit : s.initialized = false)
include hinit

theorem stm32_adc_setup_of_some {e : ℤ} (h : (runSteps (adcStep env) (s, 0) (adcBlocks cfg)).2 = some e) :
    stm32_adc_setup cfg env s = ((runSteps (adcStep env) (s, 0) (adcBlocks cfg)).1.1, e) := by
  simp [stm32_adc_setup, hinit, h]

theorem stm32_adc_setup_of_none (h : (runSteps (adcStep env) (s, 0) (adcBlocks cfg)).2 = none) :
    stm32_adc_setup cfg env s =
      ({ (runSteps (adcStep env) (s, 0) (adcBlocks cfg)).1.1 with initialized := true }, OK) := by
  simp [stm32_adc_setup, hinit, h]

end Setup

/-- From a state where no ADC is registered yet, `stm32_adc_setup` returns the first error of the
enabled ADCs, or OK; on OK the `i`-th enabled ADC is registered as `/dev/adc<i>`, the pins of
every enabled ADC are configured and `initialized` is set. -/
theorem stm32_adc_setup_registers (cfg : AdcConfig) (env : AdcEnv) (s : AdcState)
    (hinit : s.initialized = false) (hfree : ∀ j < 10, devname j ∉ s.registry.map Prod.fst) :
    (stm32_adc_setup cfg env s).2 = ((adcBlocks cfg).findSome? (blockError env)).getD OK ∧
      ((stm32_adc_setup cfg env s).2 = OK →
        (stm32_adc_setup cfg env s).1.initialized = true ∧
          (stm32_adc_setup cfg env s).1.registry =
            s.registry ++ (adcBlocks cfg).mapIdx (fun i b => (devname i, b.intf)) ∧
          (stm32_adc_setup cfg env s).1.gpio = s.gpio ++ (adcBlocks cfg).flatMap pinConfigs) := by
  obtain ⟨hrun, hok⟩ := runSteps_adcStep env (adcBlocks cfg) s 0
    (by have := length_adcBlocks_le cfg; omega) (fun j _ hj => hfree j hj)
  cases hr : (runSteps (adcStep env) (s, 0) (adcBlocks cfg)).2 with
  | some e =>
    rw [hr] at hrun
    obtain ⟨b, -, hb⟩ := List.exists_of_findSome?_eq_some hrun.symm
    have he : e ≠ OK := by
      have := blockError_neg hb
      rw [OK]
      omega
    rw [stm32_adc_setup_of_some cfg env hinit hr, ← hrun]
    exact ⟨rfl, fun h => absurd h he⟩
  | none =>
    rw [hr] at hrun
    obtain ⟨hreg, hgpio, -⟩ := hok hr
    rw [stm32_adc_setup_of_none cfg env hinit hr, ← hrun]
    refine ⟨rfl, fun _ => ⟨rfl, ?_, hgpio⟩⟩
    simpa using hreg

theorem stm32_adc_setup_registers_all :
    (⟨false, [], []⟩ : AdcState).initialized = false ∧
      (∀ j < 10, devname j ∉ (⟨false, [], []⟩ : AdcState).registry.map Prod.fst) ∧
      (stm32_adc_setup ⟨true, true, true⟩ ⟨fun _ => true, fun _ => 0⟩ ⟨false, [], []⟩).2 =
        ((adcBlocks ⟨true, true, true⟩).findSome? (blockError ⟨fun _ => true, fun _ => 0⟩)).getD OK :=
  have hfree : ∀ j < 10, devname j ∉ (⟨false, [], []⟩ : AdcState).registry.map Prod.fst := by
    simp
  ⟨rfl, hfree, (stm32_adc_setup_registers _ _ _ rfl hfree).1⟩

/-- `initialized` is false and `/dev/adc0` is taken: the state a call leaves when it fails after
registering its first ADC. -/
def Stuck (s : AdcState) : Prop := s.initialized = false ∧ devname 0 ∈ s.registry.map Prod.fst

theorem stm32_adc_setup_of_stuck {cfg : AdcConfig} (hcfg : adcBlocks cfg ≠ []) (env : AdcEnv)
    {s : AdcState} (hs : Stuck s) :
    Stuck (stm32_adc_setup cfg env s).1 ∧ (stm32_adc_setup cfg env s).2 < 0 := by
  obtain ⟨b, bs, hbs⟩ := List.exists_cons_of_ne_nil hcfg
  obtain ⟨hreg, hinit, e, he, hstep⟩ := adcStep_of_taken env b s 0 hs.2
  have hrun : runSteps (adcStep env) (s, 0) (adcBlocks cfg) = ((adcStep env (s, 0) b).1, some e) := by
    rw [hbs, runSteps_cons_of_some _ bs hstep]
  rw [stm32_adc_setup_of_some cfg env hs.1 (by rw [hrun]), hrun]
  exact ⟨⟨hinit.trans hs.1, hreg ▸ hs.2⟩, he⟩

/-- Once a call has failed after registering `/dev/adc0`, every later call fails, whatever the
ADCs and the allocator answer. -/
theorem stm32_adc_setup_fails_forever {cfg : AdcConfig} (hcfg : adcBlocks cfg ≠ []) {s : AdcState}
    (hinit : s.initialized = false) (htaken : devname 0 ∈ s.registry.map Prod.fst)
    (envs : List AdcEnv) :
    ∀ r ∈ (Machine.run (fun s env => stm32_adc_setup cfg env s) s envs).2, r < 0 := by
  intro r hr
  obtain ⟨s', env, hs', rfl⟩ := Machine.mem_run_snd (fun s env => stm32_adc_setup cfg env s) Stuck
    (fun _ env h => (stm32_adc_setup_of_stuck hcfg env h).1) ⟨hinit, htaken⟩ hr
  exact (stm32_adc_setup_of_stuck hcfg env hs').2

/-- A boot with ADC1 and ADC2 where `adc_register` runs out of memory binding ADC2 leaves
`/dev/adc0` registered and the call failed; a second call then fails even with every ADC
answering. -/
theorem stm32_adc_setup_fails_forever_after_adc2_enomem :
    let cfg : AdcConfig := ⟨true, true, false⟩
    let s := (stm32_adc_setup cfg ⟨fun _ => true, fun intf => if intf = 2 then -ENOMEM else OK⟩
      ⟨false, [], []⟩).1
    adcBlocks cfg ≠ [] ∧ s.initialized = false ∧ devname 0 ∈ s.registry.map Prod.fst ∧
      ∀ r ∈ (Machine.run (fun s env => stm32_adc_setup cfg env s) s
        [⟨fun _ => true, fun _ => OK⟩]).2, r < 0 := by
  intro cfg s
  have h1 : adcBlocks cfg ≠ [] := by decide
  have h2 : s.initialized = false := by decide
  have h3 : devname 0 ∈ s.registry.map Prod.fst := by decide
  exact ⟨h1, h2, h3, stm32_adc_setup_fails_forever h1 h2 h3 _⟩

end NucleoH753zi.Adc
