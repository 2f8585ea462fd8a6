import NucleoH753zi.Libc
import Mathlib.Data.Nat.Bitwise

/-!
# Jumping to an application image

`board_boot_image` (`stm32_boot_image.c`) opens the image, reads the two words of its vector table
at `hdr_size` (the initial stack pointer and the reset handler), silences the machine and jumps:
`systick_disable`, `cleanup_arm_nvic` with its two loops over the NVIC's clear-enable and
clear-pending words, then, as configured, `up_disable_dcache` and `up_disable_icache`
(`arm_cache.c`) and `mpu_control (false, false, false)` (`arm_mpu.c`). Its effects are a list of
register writes and barriers, and `getreg32` reads the registers as the writes before it left
them. The file is never closed; the syslog messages are left out.
-/

namespace NucleoH753zi.BootImage

open Libc

def STM32_IRQ_FIRST : ℕ := 16
/-- The external interrupts of the STM32H7x3 (`stm32h7x3xx_irq.h`). -/
def STM32_IRQ_NEXTINTS : ℕ := 150
def NR_IRQS : ℕ := STM32_IRQ_FIRST + STM32_IRQ_NEXTINTS

def ARMV7M_NVIC_BASE : ℕ := 0xe000e000
def NVIC_IRQ_CLEAR (n : ℕ) : ℕ := ARMV7M_NVIC_BASE + (0x0180 + 4 * (n >>> 5))
def NVIC_IRQ_CLRPEND (n : ℕ) : ℕ := ARMV7M_NVIC_BASE + (0x0280 + 4 * (n >>> 5))
def NVIC_SYSTICK_CTRL : ℕ := ARMV7M_NVIC_BASE + 0x0010
def NVIC_SYSTICK_RELOAD : ℕ := ARMV7M_NVIC_BASE + 0x0014
def NVIC_SYSTICK_CURRENT : ℕ := ARMV7M_NVIC_BASE + 0x0018
def NVIC_SYSTICK_RELOAD_MASK : UInt32 := 0x00ffffff

def NVIC_CFGCON : ℕ := ARMV7M_NVIC_BASE + 0x0d14
def NVIC_CCSIDR : ℕ := ARMV7M_NVIC_BASE + 0x0d80
def NVIC_ICIALLU : ℕ := ARMV7M_NVIC_BASE + 0x0f50
def NVIC_DCCISW : ℕ := ARMV7M_NVIC_BASE + 0x0f74
def NVIC_CFGCON_DC : UInt32 := (1 : UInt32) <<< 16
def NVIC_CFGCON_IC : UInt32 := (1 : UInt32) <<< 17
def NVIC_CCSIDR_LINESIZE_SHIFT : UInt32 := 0
def NVIC_CCSIDR_LINESIZE_MASK : UInt32 := 7 <<< NVIC_CCSIDR_LINESIZE_SHIFT
def NVIC_CCSIDR_ASSOCIATIVITY_SHIFT : UInt32 := 3
def NVIC_CCSIDR_ASSOCIATIVITY_MASK : UInt32 := 0x3ff <<< NVIC_CCSIDR_ASSOCIATIVITY_SHIFT
def NVIC_CCSIDR_NUMSETS_SHIFT : UInt32 := 13
def NVIC_CCSIDR_NUMSETS_MASK : UInt32 := 0x7fff <<< NVIC_CCSIDR_NUMSETS_SHIFT

def MPU_CTRL : ℕ := 0xe000ed94
def MPU_CTRL_ENABLE : UInt32 := (1 : UInt32) <<< 0
def MPU_CTRL_HFNMIENA : UInt32 := (1 : UInt32) <<< 1
def MPU_CTRL_PRIVDEFENA : UInt32 := (1 : UInt32) <<< 2

/-- What the code before the jump does to the machine. -/
inductive Effect
  | putreg32 (value : UInt32) (addr : ℕ)
  | dsb
  | isb
  | cpsid
  deriving DecidableEq, Repr

abbrev Regs := ℕ → UInt32

def Effect.apply (regs : Regs) : Effect → Regs
  | .putreg32 value addr => Function.update regs addr value
  | _ => regs

def applyEffects (effects : List Effect) (regs : Regs) : Regs := effects.foldl Effect.apply regs

def UP_MB : List Effect := [.dsb, .isb]

/-- The values `i` takes in `for (i = start; i < n; i += 32)`. -/
def by32 (n i : ℕ) : List ℕ :=
  if i < n then i :: by32 n (i + 32) else []
termination_by n - i

def systick_disable : List Effect :=
  [.putreg32 0 NVIC_SYSTICK_CTRL, .putreg32 NVIC_SYSTICK_RELOAD_MASK NVIC_SYSTICK_RELOAD,
    .putreg32 0 NVIC_SYSTICK_CURRENT]

def cleanup_arm_nvic : List Effect :=
  [.isb, .cpsid] ++
    (by32 NR_IRQS 0).map (fun i => .putreg32 0xffffffff (NVIC_IRQ_CLEAR i)) ++
    (by32 NR_IRQS 0).map (fun i => .putreg32 0xffffffff (NVIC_IRQ_CLRPEND i))

/-- The values `n` takes in `do { ... } while (n--)`: `n` down to 0. -/
def countdown (n : ℕ) : List ℕ := (List.range (n + 1)).reverse

def arm_clz (value : UInt32) : UInt32 :=
  if value = 0 then 32 else (31 - value.toNat.log2).toUInt32

def CCSIDR_WAYS (n : UInt32) : UInt32 :=
  (n &&& NVIC_CCSIDR_ASSOCIATIVITY_MASK) >>> NVIC_CCSIDR_ASSOCIATIVITY_SHIFT
def CCSIDR_SETS (n : UInt32) : UInt32 := (n &&& NVIC_CCSIDR_NUMSETS_MASK) >>> NVIC_CCSIDR_NUMSETS_SHIFT
def CCSIDR_LSSHIFT (n : UInt32) : UInt32 :=
  (n &&& NVIC_CCSIDR_LINESIZE_MASK) >>> NVIC_CCSIDR_LINESIZE_SHIFT

/-- Disable the D-cache, then clean and invalidate every set and way of it. -/
def up_disable_dcache (regs : Regs) : List Effect :=
  let ccsidr := regs NVIC_CCSIDR
  let sets := CCSIDR_SETS ccsidr
  let sshift := CCSIDR_LSSHIFT ccsidr + 4
  let ways := CCSIDR_WAYS ccsidr
  let wshift := arm_clz ways &&& 0x1f
  [.dsb, .putreg32 (regs NVIC_CFGCON &&& ~~~NVIC_CFGCON_DC) NVIC_CFGCON] ++
    (countdown sets.toNat).flatMap (fun s => (countdown ways.toNat).map fun tmpways =>
      .putreg32 ((tmpways.toUInt32 <<< wshift) ||| (s.toUInt32 <<< sshift)) NVIC_DCCISW) ++
    UP_MB

def up_disable_icache (regs : Regs) : List Effect :=
  UP_MB ++ [.putreg32 (regs NVIC_CFGCON &&& ~~~NVIC_CFGCON_IC) NVIC_CFGCON, .putreg32 0 NVIC_ICIALLU] ++
    UP_MB

def mpu_control (enable hfnmiena privdefena : Bool) : List Effect :=
  let regval : UInt32 :=
    if enable then
      MPU_CTRL_ENABLE ||| (if hfnmiena then MPU_CTRL_HFNMIENA else 0) |||
        (if privdefena then MPU_CTRL_PRIVDEFENA else 0)
    else 0
  [.putreg32 regval MPU_CTRL] ++ UP_MB

structure arm_vector_table where
  spr : UInt32
  reset : UInt32
  deriving DecidableEq, Repr

structure BootConfig where
  ARMV7M_DCACHE : Bool
  ARMV7M_ICACHE : Bool
  ARM_MPU : Bool
  deriving DecidableEq, Repr

/-- What the file system returns: `file_open`'s result, and `file_pread`'s byte count with the
table it read from the image at `hdr_size`. -/
structure FileEnv where
  file_open : ℤ
  file_pread : ℤ × arm_vector_table

/-- A returned value, or the jump with the values loaded into `msp`, `control` and `pc`. -/
inductive BootOut
  | ret (r : ℤ)
  | jump (msp control pc : UInt32)
  deriving DecidableEq, Repr

def sizeof_vt : ℤ := 8

def board_boot_image (cfg : BootConfig) (env : FileEnv) (regs : Regs) : List Effect × BootOut :=
  if env.file_open < 0 then ([], .ret env.file_open)
  else
    let (bytes, vt) := env.file_pread
    if bytes ≠ sizeof_vt then ([], .ret (if bytes < 0 then bytes else -1))
    else
      let e := systick_disable ++ cleanup_arm_nvic
      let e := e ++ if cfg.ARMV7M_DCACHE then up_disable_dcache (applyEffects e regs) else []
      let e := e ++ if cfg.ARMV7M_ICACHE then up_disable_icache (applyEffects e regs) else []
      let e := e ++ if cfg.ARM_MPU then mpu_control false false false else []
      (e, .jump vt.spr 0 vt.reset)

/-! ## The loops -/

theorem mem_by32 {n s i : ℕ} : i ∈ by32 n s ↔ s ≤ i ∧ i < n ∧ (i - s) % 32 = 0 := by
  induction s using by32.induct n with
  | case1 s hs ih =>
    rw [by32, if_pos hs, List.mem_cons, ih]
    constructor
    · rintro (rfl | ⟨h1, h2, h3⟩)
      · simp [hs]
      · exact ⟨by omega, h2, by omega⟩
    · rintro ⟨h1, h2, h3⟩
      by_cases hi : i = s
      · exact .inl hi
      · exact .inr ⟨by omega, h2, by omega⟩
  | case2 s hs =>
    rw [by32, if_neg hs]
    simp only [List.not_mem_nil, false_iff, not_and]
    omega

theorem mem_by32_zero {n irq : ℕ} (h : irq < n) : 32 * (irq >>> 5) ∈ by32 n 0 := by
  rw [mem_by32, Nat.shiftRight_eq_div_pow]
  refine ⟨Nat.zero_le _, ?_, ?_⟩ <;> omega

theorem shiftRight_five_mul (irq : ℕ) : (32 * (irq >>> 5)) >>> 5 = irq >>> 5 := by
  simp only [Nat.shiftRight_eq_div_pow]
  omega

theorem shiftRight_five_of_mem {i : ℕ} (h : i ∈ by32 NR_IRQS 0) : i >>> 5 < 8 := by
  rw [mem_by32] at h
  rw [Nat.shiftRight_eq_div_pow]
  simp only [NR_IRQS, STM32_IRQ_FIRST, STM32_IRQ_NEXTINTS] at h
  omega

/-! ## Registers -/

theorem applyEffects_append (e e' : List Effect) (regs : Regs) :
    applyEffects (e ++ e') regs = applyEffects e' (applyEffects e regs) :=
  List.foldl_append

@[simp] theorem applyEffects_nil (regs : Regs) : applyEffects [] regs = regs := rfl

@[simp] theorem applyEffects_cons (e : Effect) (effects : List Effect) (regs : Regs) :
    applyEffects (e :: effects) regs = applyEffects effects (e.apply regs) := rfl

theorem applyEffects_of_forall {effects : List Effect} {addr : ℕ}
    (h : ∀ v, Effect.putreg32 v addr ∉ effects) (regs : Regs) :
    applyEffects effects regs addr = regs addr := by
  induction effects generalizing regs with
  | nil => rfl
  | cons e effects ih =>
    rw [applyEffects_cons, ih fun v hv => h v (List.mem_cons_of_mem _ hv)]
    cases e with
    | putreg32 v a =>
      refine Function.update_of_ne ?_ _ _
      rintro rfl
      exact h v List.mem_cons_self
    | dsb | isb | cpsid => rfl

theorem NVIC_DCCISW_ne_NVIC_CFGCON : NVIC_DCCISW ≠ NVIC_CFGCON := by decide
theorem NVIC_ICIALLU_ne_NVIC_CFGCON : NVIC_ICIALLU ≠ NVIC_CFGCON := by decide
theorem MPU_CTRL_ne_NVIC_CFGCON : MPU_CTRL ≠ NVIC_CFGCON := by decide

theorem cfgcon_up_disable_dcache (r s : Regs) :
    applyEffects (up_disable_dcache r) s NVIC_CFGCON = r NVIC_CFGCON &&& ~~~NVIC_CFGCON_DC := by
  have hrest : ∀ v, Effect.putreg32 v NVIC_CFGCON ∉
      (countdown (CCSIDR_SETS (r NVIC_CCSIDR)).toNat).flatMap (fun s =>
        (countdown (CCSIDR_WAYS (r NVIC_CCSIDR)).toNat).map fun tmpways =>
          Effect.putreg32 ((tmpways.toUInt32 <<< (arm_clz (CCSIDR_WAYS (r NVIC_CCSIDR)) &&& 0x1f)) |||
            (s.toUInt32 <<< (CCSIDR_LSSHIFT (r NVIC_CCSIDR) + 4))) NVIC_DCCISW) ++ UP_MB := by
    intro v hv
    simp [UP_MB, NVIC_DCCISW_ne_NVIC_CFGCON] at hv
  rw [up_disable_dcache, List.append_assoc, applyEffects_append, applyEffects_of_forall hrest]
  simp [applyEffects, Effect.apply]

theorem cfgcon_up_disable_icache (r s : Regs) :
    applyEffects (up_disable_icache r) s NVIC_CFGCON = r NVIC_CFGCON &&& ~~~NVIC_CFGCON_IC := by
  simp [up_disable_icache, UP_MB, applyEffects, Effect.apply, NVIC_ICIALLU_ne_NVIC_CFGCON.symm]

theorem mpu_control_not_cfgcon (enable hfnmiena privdefena : Bool) (v : UInt32) :
    Effect.putreg32 v NVIC_CFGCON ∉ mpu_control enable hfnmiena privdefena := by
  intro hv
  simp only [mpu_control, UP_MB, List.cons_append, List.nil_append, List.mem_cons, Effect.putreg32.injEq,
    reduceCtorEq, List.not_mem_nil, or_false] at hv
  exact MPU_CTRL_ne_NVIC_CFGCON hv.2.symm

theorem mpu_ctrl_mpu_control_off (s : Regs) :
    applyEffects (mpu_control false false false) s MPU_CTRL = 0 := by
  simp [mpu_control, UP_MB, applyEffects, Effect.apply]

theorem and_not_and_self (c m : UInt32) : c &&& ~~~m &&& m = 0 := by
  apply UInt32.toBitVec_inj.mp
  simp [BitVec.and_assoc]

theorem and_and_not_and_self (c m n : UInt32) : c &&& ~~~m &&& ~~~n &&& m = 0 := by
  apply UInt32.toBitVec_inj.mp
  simp
  grind

/-! ## Where a boot writes -/

/-- Every register an effect list writes satisfies `R`. -/
def WritesWithin (R : ℕ → Prop) (effects : List Effect) : Prop :=
  ∀ v addr, Effect.putreg32 v addr ∈ effects → R addr

theorem writesWithin_append {R : ℕ → Prop} {e e' : List Effect} :
    WritesWithin R (e ++ e') ↔ WritesWithin R e ∧ WritesWithin R e' := by
  simp only [WritesWithin, List.mem_append, or_imp, forall_and]

theorem WritesWithin.mono {R R' : ℕ → Prop} {e : List Effect} (h : WritesWithin R e)
    (hR : ∀ addr, R addr → R' addr) : WritesWithin R' e :=
  fun v addr hv => hR addr (h v addr hv)

theorem writesWithin_ite {R : ℕ → Prop} {e : List Effect} (h : WritesWithin R e) (b : Bool) :
    WritesWithin R (if b then e else []) := by
  cases b
  · intro v addr hv
    cases hv
  · exact h

/-- The SysTick registers and the eight registers of each NVIC clear bank. -/
def NvicReg (addr : ℕ) : Prop :=
  addr ∈ [NVIC_SYSTICK_CTRL, NVIC_SYSTICK_RELOAD, NVIC_SYSTICK_CURRENT] ∨
    ∃ k < 8, addr = ARMV7M_NVIC_BASE + (0x0180 + 4 * k) ∨ addr = ARMV7M_NVIC_BASE + (0x0280 + 4 * k)

/-- The control registers of the caches and the MPU. -/
def CacheReg (addr : ℕ) : Prop :=
  addr ∈ [NVIC_CFGCON, NVIC_DCCISW, NVIC_ICIALLU, MPU_CTRL]

theorem writesWithin_systick_disable : WritesWithin NvicReg systick_disable := by
  intro v addr h
  simp only [systick_disable, List.mem_cons, Effect.putreg32.injEq, List.not_mem_nil, or_false] at h
  rcases h with ⟨-, rfl⟩ | ⟨-, rfl⟩ | ⟨-, rfl⟩ <;> simp [NvicReg]

theorem writesWithin_cleanup_arm_nvic : WritesWithin NvicReg cleanup_arm_nvic := by
  intro v addr h
  simp only [cleanup_arm_nvic, List.mem_append, List.mem_cons, List.mem_map,
    List.not_mem_nil, or_false, reduceCtorEq, false_or, Effect.putreg32.injEq] at h
  rcases h with ⟨i, hi, -, rfl⟩ | ⟨i, hi, -, rfl⟩
  · exact .inr ⟨_, shiftRight_five_of_mem hi, .inl rfl⟩
  · exact .inr ⟨_, shiftRight_five_of_mem hi, .inr rfl⟩

theorem writesWithin_up_disable_dcache (r : Regs) : WritesWithin CacheReg (up_disable_dcache r) := by
  intro v addr h
  simp only [up_disable_dcache, UP_MB, List.mem_append, List.mem_cons, List.mem_flatMap, List.mem_map,
    List.not_mem_nil, or_false, reduceCtorEq, false_or, Effect.putreg32.injEq] at h
  rcases h with ⟨-, rfl⟩ | ⟨_, -, _, -, -, rfl⟩ <;> simp [CacheReg]

theorem writesWithin_up_disable_icache (r : Regs) : WritesWithin CacheReg (up_disable_icache r) := by
  intro v addr h
  simp only [up_disable_icache, UP_MB, List.mem_append, List.mem_cons, List.not_mem_nil, or_false,
    reduceCtorEq, false_or, Effect.putreg32.injEq] at h
  rcases h with ⟨-, rfl⟩ | ⟨-, rfl⟩ <;> simp [CacheReg]

theorem writesWithin_mpu_control (enable hfnmiena privdefena : Bool) :
    WritesWithin CacheReg (mpu_control enable hfnmiena privdefena) := by
  intro v addr h
  simp only [mpu_control, UP_MB, List.mem_append, List.mem_cons, List.not_mem_nil, or_false,
    reduceCtorEq, Effect.putreg32.injEq] at h
  rw [h.2]
  simp [CacheReg]

/-- Every external interrupt of the chip has its clear-enable and clear-pending words written with
all ones. -/
theorem cleanup_arm_nvic_clears {irq : ℕ} (h : irq < STM32_IRQ_NEXTINTS) :
    Effect.putreg32 0xffffffff (NVIC_IRQ_CLEAR irq) ∈ cleanup_arm_nvic ∧
      Effect.putreg32 0xffffffff (NVIC_IRQ_CLRPEND irq) ∈ cleanup_arm_nvic := by
  have hmem := @mem_by32_zero NR_IRQS irq (by simp only [NR_IRQS, STM32_IRQ_FIRST]; omega)
  have hclear : NVIC_IRQ_CLEAR (32 * (irq >>> 5)) = NVIC_IRQ_CLEAR irq := by
    rw [NVIC_IRQ_CLEAR, NVIC_IRQ_CLEAR, shiftRight_five_mul]
  have hpend : NVIC_IRQ_CLRPEND (32 * (irq >>> 5)) = NVIC_IRQ_CLRPEND irq := by
    rw [NVIC_IRQ_CLRPEND, NVIC_IRQ_CLRPEND, shiftRight_five_mul]
  simp only [cleanup_arm_nvic, List.mem_append, List.mem_map]
  exact ⟨.inl (.inr ⟨_, hmem, by rw [hclear]⟩), .inr ⟨_, hmem, by rw [hpend]⟩⟩

section Jump

variable (cfg : BootConfig) (regs : Regs)

theorem board_boot_image_of_read {env : FileEnv} {vt : arm_vector_table} (ho : ¬ env.file_open < 0)
    (hread : env.file_pread = (sizeof_vt, vt)) :
    ∃ d i, board_boot_image cfg env regs =
        (systick_disable ++ cleanup_arm_nvic ++ d ++ i ++ (if cfg.ARM_MPU then mpu_control false false false else []),
          .jump vt.spr 0 vt.reset) ∧
      d = (if cfg.ARMV7M_DCACHE then up_disable_dcache (applyEffects (systick_disable ++ cleanup_arm_nvic) regs)
        else []) ∧
      i = (if cfg.ARMV7M_ICACHE then up_disable_icache (applyEffects (systick_disable ++ cleanup_arm_nvic ++ d) regs)
        else []) := by
  refine ⟨_, _, ?_, rfl, rfl⟩
  simp only [board_boot_image, if_neg ho, hread, sizeof_vt, ne_eq, not_true_eq_false, if_false]

theorem cfgcon_dc_of_jump (d i : List Effect) (hd : d = if cfg.ARMV7M_DCACHE then
      up_disable_dcache (applyEffects (systick_disable ++ cleanup_arm_nvic) regs) else [])
    (hi : i = if cfg.ARMV7M_ICACHE then
      up_disable_icache (applyEffects (systick_disable ++ cleanup_arm_nvic ++ d) regs) else [])
    (hdc : cfg.ARMV7M_DCACHE = true) (m : List Effect) (hm : ∀ v, Effect.putreg32 v NVIC_CFGCON ∉ m) :
    applyEffects (systick_disable ++ cleanup_arm_nvic ++ d ++ i ++ m) regs NVIC_CFGCON &&&
      NVIC_CFGCON_DC = 0 := by
  rw [applyEffects_append, applyEffects_of_forall hm, applyEffects_append]
  rw [hdc, if_pos rfl] at hd
  cases hic : cfg.ARMV7M_ICACHE with
  | false =>
    rw [hic, if_neg Bool.false_ne_true] at hi
    rw [hi, applyEffects_nil, applyEffects_append, hd, cfgcon_up_disable_dcache]
    exact and_not_and_self _ _
  | true =>
    rw [hic, if_pos rfl] at hi
    rw [hi, cfgcon_up_disable_icache, applyEffects_append, hd, cfgcon_up_disable_dcache]
    exact and_and_not_and_self _ _ _

theorem cfgcon_ic_of_jump (d i : List Effect)
    (hi : i = if cfg.ARMV7M_ICACHE then
      up_disable_icache (applyEffects (systick_disable ++ cleanup_arm_nvic ++ d) regs) else [])
    (hic : cfg.ARMV7M_ICACHE = true) (m : List Effect) (hm : ∀ v, Effect.putreg32 v NVIC_CFGCON ∉ m) :
    applyEffects (systick_disable ++ cleanup_arm_nvic ++ d ++ i ++ m) regs NVIC_CFGCON &&&
      NVIC_CFGCON_IC = 0 := by
  rw [hic, if_pos rfl] at hi
  rw [applyEffects_append, applyEffects_of_forall hm, applyEffects_append, hi, cfgcon_up_disable_icache]
  exact and_not_and_self _ _

end Jump

/-- When `board_boot_image` jumps, it loads the stack pointer and reset handler of the image.
Before the jump every external interrupt of the chip has had its clear-enable and clear-pending
words written with all ones, and the caches and the MPU are off as configured. Every register
write lies in the SysTick registers, the NVIC clear banks, or the cache and MPU control
registers. -/
theorem board_boot_image_silences_nvic (cfg : BootConfig) (env : FileEnv) (regs : Regs)
    {effects : List Effect} {msp control pc : UInt32}
    (h : board_boot_image cfg env regs = (effects, .jump msp control pc)) :
    env.file_pread = (sizeof_vt, ⟨msp, pc⟩) ∧ control = 0 ∧
      WritesWithin (fun addr => NvicReg addr ∨ CacheReg addr) effects ∧
      (∀ irq < STM32_IRQ_NEXTINTS,
        Effect.putreg32 0xffffffff (NVIC_IRQ_CLEAR irq) ∈ effects ∧
          Effect.putreg32 0xffffffff (NVIC_IRQ_CLRPEND irq) ∈ effects) ∧
      (cfg.ARMV7M_DCACHE = true → applyEffects effects regs NVIC_CFGCON &&& NVIC_CFGCON_DC = 0) ∧
      (cfg.ARMV7M_ICACHE = true → applyEffects effects regs NVIC_CFGCON &&& NVIC_CFGCON_IC = 0) ∧
      (cfg.ARM_MPU = true → applyEffects effects regs MPU_CTRL = 0) := by
  obtain ⟨fo, bytes, vt⟩ := env
  have ho : ¬ fo < 0 := by
    intro ho
    simp [board_boot_image, ho] at h
  have hb : bytes = sizeof_vt := by
    by_contra hb
    simp [board_boot_image, ho, hb] at h
  subst hb
  obtain ⟨d, i, hboot, hd, hi⟩ := @board_boot_image_of_read cfg regs ⟨fo, sizeof_vt, vt⟩ _ ho rfl
  rw [hboot, Prod.mk.injEq, BootOut.jump.injEq] at h
  obtain ⟨rfl, rfl, rfl, rfl⟩ := h
  have hm : ∀ v, Effect.putreg32 v NVIC_CFGCON ∉ (if cfg.ARM_MPU then mpu_control false false false else []) := by
    intro v hv
    split_ifs at hv
    · exact mpu_control_not_cfgcon false false false v hv
    · cases hv
  refine ⟨rfl, rfl, ?_, fun irq hirq => ?_, fun hdc => cfgcon_dc_of_jump cfg regs d i hd hi hdc _ hm,
    fun hic => cfgcon_ic_of_jump cfg regs d i hi hic _ hm, fun hmpu => ?_⟩
  · have hdw : WritesWithin CacheReg d := hd ▸ writesWithin_ite (writesWithin_up_disable_dcache _) _
    have hiw : WritesWithin CacheReg i := hi ▸ writesWithin_ite (writesWithin_up_disable_icache _) _
    simp only [writesWithin_append]
    exact ⟨⟨⟨⟨writesWithin_systick_disable.mono fun _ => .inl, writesWithin_cleanup_arm_nvic.mono fun _ => .inl⟩,
      hdw.mono fun _ => .inr⟩, hiw.mono fun _ => .inr⟩,
      (writesWithin_ite (writesWithin_mpu_control false false false) _).mono fun _ => .inr⟩
  · obtain ⟨h1, h2⟩ := cleanup_arm_nvic_clears hirq
    exact ⟨by simp [h1], by simp [h2]⟩
  · rw [hmpu, if_pos rfl, applyEffects_append, mpu_ctrl_mpu_control_off]

/-- The default configuration of the board, with both caches, from registers all zero. -/
theorem board_boot_image_silences_nvic_nsh :
    ∃ effects, board_boot_image ⟨true, true, false⟩ ⟨OK, (8, ⟨0x20020000, 0x08020201⟩)⟩ (fun _ => 0) =
        (effects, .jump 0x20020000 0 0x08020201) ∧
      applyEffects effects (fun _ => 0) NVIC_CFGCON &&& NVIC_CFGCON_DC = 0 ∧
      applyEffects effects (fun _ => 0) NVIC_CFGCON &&& NVIC_CFGCON_IC = 0 ∧
      WritesWithin (fun addr => NvicReg addr ∨ CacheReg addr) effects := by
  refine ⟨_, rfl, ?_⟩
  obtain ⟨-, -, hw, -, hdc, hic, -⟩ := board_boot_image_silences_nvic ⟨true, true, false⟩
    ⟨OK, (8, ⟨0x20020000, 0x08020201⟩)⟩ (fun _ => 0) rfl
  exact ⟨hdc rfl, hic rfl, hw⟩

end NucleoH753zi.BootImage
