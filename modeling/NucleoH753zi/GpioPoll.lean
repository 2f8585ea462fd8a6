import NucleoH753zi.GpioUpper
import NucleoH753zi.GpioSignal

/-!
# Polling an interrupt pin

`gpio_handler` counts the edges it is called for in `int_count`, a `uintptr_t`, and wakes the poll
requests bound to the device's `CONFIG_DEV_GPIO_NPOLLWAITERS` slots. Each open file keeps in
`f_priv` the count it last saw: `gpio_open`, `gpio_read` where it reads the pin, and `GPIOC_READ`
set it. `gpio_poll` binds a request to the first free slot, and reports an edge at once when the
count has moved since the file last saw it.

The count is 32 bits wide on this chip, so a poll sees the number of edges since the file last
read the pin modulo `2 ^ 32` (`unseen_pollRun`, `pollRun_pollin_iff`). And `gpio_poll` attaches nothing: only
`GPIOC_REGISTER` attaches `gpio_handler`, so without one no edge reaches the device and no poll
ever reports one (`pollRun_without_register`).
-/

namespace NucleoH753zi.GpioFile

open Libc GpioDriver

structure IntFile where
  f_pos : ℕ
  f_priv : UInt32
  deriving DecidableEq, Repr

/-- The interrupt device and its upper half: the state the lower half reads, the device, the
edge count, the poll slots `fds` (the request bound to each, or NULL), each request's
`pollfd.priv` (the slot it is bound to) and the open files. -/
structure PollDev (σ E : Type) where
  pin : σ
  dev : IntDev E
  int_count : UInt32
  fds : List (Option ℕ)
  priv : ℕ → Option ℕ
  files : List IntFile

inductive PollOp (E : Type)
  | gpio_open
  | gpio_read (fd buflen : ℕ) (ext : ℕ × ℕ → Bool)
  | GPIOC_READ (fd : ℕ) (ext : ℕ × ℕ → Bool)
  | GPIOC_REGISTER (fd pid : ℕ) (arg : Option E)
  | GPIOC_UNREGISTER (fd pid : ℕ)
  /-- `poll` on file `fd` with the request `fds`: set it up, or tear it down -/
  | gpio_poll (fd fds : ℕ) (setup : Bool)
  | edge

inductive PollOut (E : Type)
  | file (out : FileOut)
  /-- `poll_notify (POLLIN)` at setup: an edge is pending -/
  | pollin
  /-- an edge: what the device did, and the requests `poll_notify` woke -/
  | int (out : IntOut E) (woken : List ℕ)

variable {σ E : Type}

theorem PollOut.file_ne_pollin (out : FileOut) : (PollOut.file out : PollOut E) ≠ .pollin := by
  intro h
  cases h

theorem PollOut.int_ne_pollin (out : IntOut E) (woken : List ℕ) : PollOut.int out woken ≠ .pollin := by
  intro h
  cases h

/-- `gpio_poll (filep, fds, setup)` on an open file. -/
def gpio_poll (s : PollDev σ E) (file : IntFile) (fds : ℕ) (setup : Bool) :
    PollDev σ E × PollOut E :=
  if setup then
    match s.fds.findIdx? Option.isNone with
    | none => ({ s with priv := Function.update s.priv fds none }, .file (.ret (-EBUSY)))
    | some i =>
      let s := { s with fds := s.fds.set i (some fds), priv := Function.update s.priv fds (some i) }
      (s, if s.int_count ≠ file.f_priv then .pollin else .file (.ret OK))
  else
    match s.priv fds with
    | none => (s, .file (.ret OK))
    | some i =>
      ({ s with fds := s.fds.set i none, priv := Function.update s.priv fds none }, .file (.ret OK))

/-- One call on the interrupt device's files, or one edge on its pin. -/
def pollStep (lower : LowerHalf σ) (s : PollDev σ E) : PollOp E → PollDev σ E × PollOut E
  | .gpio_open => ({ s with files := s.files ++ [⟨0, s.int_count⟩] }, .file (.ret s.files.length))
  | .gpio_read fd buflen ext =>
    match s.files[fd]? with
    | none => (s, .file (.ret (-EBADF)))
    | some file =>
      let r := gpio_read lower s.pin ext gpintDev file.f_pos buflen
      -- the count is sampled where the pin is read, past the two end-of-file returns
      let f_priv := if buflen = 0 ∨ 0 < file.f_pos then file.f_priv else s.int_count
      ({ s with files := s.files.set fd ⟨r.1, f_priv⟩ }, .file r.2)
  | .GPIOC_READ fd ext =>
    match s.files[fd]? with
    | none => (s, .file (.ret (-EBADF)))
    | some file =>
      let r := gpio_ioctl lower s.pin gpintDev (.GPIOC_READ ext)
      ({ s with pin := r.1, files := s.files.set fd { file with f_priv := s.int_count } }, .file r.2)
  | .GPIOC_REGISTER fd pid arg =>
    match s.files[fd]? with
    | none => (s, .file (.ret (-EBADF)))
    | some _ =>
      let r := gpioc_register gpintDev s.dev pid arg
      ({ s with dev := r.1 }, .file (.ret r.2))
  | .GPIOC_UNREGISTER fd pid =>
    match s.files[fd]? with
    | none => (s, .file (.ret (-EBADF)))
    | some _ =>
      let r := gpioc_unregister gpintDev s.dev pid
      ({ s with dev := r.1 }, .file (.ret r.2))
  | .gpio_poll fd fds setup =>
    match s.files[fd]? with
    | none => (s, .file (.ret (-EBADF)))
    | some file => gpio_poll s file fds setup
  | .edge =>
    match intEdge s.dev int0 with
    -- `gpio_handler` counts the edge and wakes every request bound to a slot
    | .notified signals =>
      ({ s with int_count := s.int_count + 1 }, .int (.notified signals) (s.fds.filterMap id))
    | out => (s, .int out [])

/-- The device after `stm32_gpio_initialize`, with `n` signal slots, `npoll` poll slots and no
open file. -/
def pollBoot (pin : σ) (st : DriverState UpperHandler) (n npoll : ℕ) : PollDev σ E :=
  ⟨pin, intBoot st n, 0, List.replicate npoll none, fun _ => none, []⟩

def PollOp.fd? : PollOp E → Option ℕ
  | .gpio_read fd _ _ | .GPIOC_READ fd _ | .GPIOC_REGISTER fd _ _ | .GPIOC_UNREGISTER fd _
  | .gpio_poll fd _ _ => some fd
  | .gpio_open | .edge => none

theorem pollStep_of_not_open (lower : LowerHalf σ) (s : PollDev σ E) {op : PollOp E} {fd : ℕ}
    (hop : op.fd? = some fd) (h : s.files[fd]? = none) :
    pollStep lower s op = (s, .file (.ret (-EBADF))) := by
  cases op <;> cases hop <;> simp [pollStep, h]

/-! ## What a file has not seen -/

/-- An output of an edge for which `gpio_handler` ran. -/
def PollOut.delivered : PollOut E → Bool
  | .int (.notified _) _ => true
  | _ => false

def unseen (s : PollDev σ E) (fd : ℕ) : UInt32 :=
  s.int_count - ((s.files[fd]?).map IntFile.f_priv).getD 0

/-- The operations that set `f_priv` of file `fd`, when they reach the pin. -/
def PollOp.samples (fd : ℕ) : PollOp E → Bool
  | .gpio_read fd' _ _ | .GPIOC_READ fd' _ => fd' == fd
  | _ => false

section Step

variable (s : PollDev σ E) (file : IntFile) (fds : ℕ) (setup : Bool)

@[simp] theorem gpio_poll_int_count : (gpio_poll s file fds setup).1.int_count = s.int_count := by
  unfold gpio_poll
  split_ifs <;> split <;> rfl

@[simp] theorem gpio_poll_files : (gpio_poll s file fds setup).1.files = s.files := by
  unfold gpio_poll
  split_ifs <;> split <;> rfl

@[simp] theorem gpio_poll_dev : (gpio_poll s file fds setup).1.dev = s.dev := by
  unfold gpio_poll
  split_ifs <;> split <;> rfl

theorem gpio_poll_delivered : (gpio_poll s file fds setup).2.delivered = false := by
  unfold gpio_poll
  split_ifs
  · split
    · rfl
    · -- a setup that finds a slot reports an edge or OK, neither of them an edge's output
      dsimp only
      split_ifs <;> rfl
  · split <;> rfl

theorem gpio_poll_ne_pollin (h : s.int_count = file.f_priv) :
    (gpio_poll s file fds setup).2 ≠ .pollin := by
  unfold gpio_poll
  split_ifs
  · split
    · exact PollOut.file_ne_pollin _
    · simp [h, PollOut.file_ne_pollin]
  · split <;> exact PollOut.file_ne_pollin _

variable (lower : LowerHalf σ)

theorem pollStep_int_count (op : PollOp E) :
    (pollStep lower s op).1.int_count =
      s.int_count + if (pollStep lower s op).2.delivered then 1 else 0 := by
  cases op with
  | gpio_open => simp [pollStep, PollOut.delivered]
  | gpio_read fd buflen ext => cases h : s.files[fd]? <;> simp [pollStep, h, PollOut.delivered]
  | GPIOC_READ fd ext => cases h : s.files[fd]? <;> simp [pollStep, h, PollOut.delivered]
  | GPIOC_REGISTER fd pid arg => cases h : s.files[fd]? <;> simp [pollStep, h, PollOut.delivered]
  | GPIOC_UNREGISTER fd pid => cases h : s.files[fd]? <;> simp [pollStep, h, PollOut.delivered]
  | gpio_poll fd fds setup =>
    cases h : s.files[fd]? with
    | none => simp [pollStep, h, PollOut.delivered]
    | some file => simp [pollStep, h, gpio_poll_delivered]
  | edge =>
    cases h : intEdge s.dev int0 <;> simp [pollStep, h, PollOut.delivered]

theorem pollStep_files (op : PollOp E) :
    (∃ f, (pollStep lower s op).1.files = s.files ++ [f]) ∨
      (∃ fd, op.samples fd ∧ ∃ f, (pollStep lower s op).1.files = s.files.set fd f) ∨
      (pollStep lower s op).1.files = s.files := by
  cases op with
  | gpio_open => exact .inl ⟨_, rfl⟩
  | gpio_read fd buflen ext =>
    cases h : s.files[fd]? with
    | none => exact .inr (.inr (by simp [pollStep, h]))
    | some file =>
      refine .inr (.inl ⟨fd, by simp [PollOp.samples], ?_⟩)
      simp only [pollStep, h]
      exact ⟨_, rfl⟩
  | GPIOC_READ fd ext =>
    cases h : s.files[fd]? with
    | none => exact .inr (.inr (by simp [pollStep, h]))
    | some file =>
      refine .inr (.inl ⟨fd, by simp [PollOp.samples], ?_⟩)
      simp only [pollStep, h]
      exact ⟨_, rfl⟩
  | GPIOC_REGISTER fd pid arg => exact .inr (.inr (by cases h : s.files[fd]? <;> simp [pollStep, h]))
  | GPIOC_UNREGISTER fd pid => exact .inr (.inr (by cases h : s.files[fd]? <;> simp [pollStep, h]))
  | gpio_poll fd fds setup => exact .inr (.inr (by cases h : s.files[fd]? <;> simp [pollStep, h]))
  | edge => exact .inr (.inr (by cases h : intEdge s.dev int0 <;> simp [pollStep, h]))

theorem length_files_pollStep (op : PollOp E) :
    s.files.length ≤ (pollStep lower s op).1.files.length := by
  rcases pollStep_files s lower op with ⟨f, h⟩ | ⟨fd, -, f, h⟩ | h <;> simp [h]

theorem files_pollStep_of_not_samples {fd : ℕ} (hfd : fd < s.files.length) {op : PollOp E}
    (hop : op.samples fd = false) : (pollStep lower s op).1.files[fd]? = s.files[fd]? := by
  rcases pollStep_files s lower op with ⟨f, h⟩ | ⟨fd', hs, f, h⟩ | h
  · rw [h, List.getElem?_append_left hfd]
  · have hne : fd' ≠ fd := by
      rintro rfl
      rw [hs] at hop
      cases hop
    rw [h, List.getElem?_set_ne hne]
  · rw [h]

theorem unseen_pollStep {fd : ℕ} (hfd : fd < s.files.length) {op : PollOp E}
    (hop : op.samples fd = false) :
    unseen (pollStep lower s op).1 fd =
      unseen s fd + if (pollStep lower s op).2.delivered then 1 else 0 := by
  have hsub : ∀ a b d : UInt32, a + d - b = a - b + d := by
    intro a b d
    grind
  rw [unseen, unseen, files_pollStep_of_not_samples s lower hfd hop, pollStep_int_count, hsub]

theorem pollStep_setup {fd : ℕ} {file : IntFile} (hfile : s.files[fd]? = some file) {i : ℕ}
    (hslot : s.fds.findIdx? Option.isNone = some i) (fds : ℕ) :
    (pollStep lower s (.gpio_poll fd fds true)).2 =
      if unseen s fd ≠ 0 then .pollin else .file (.ret OK) := by
  have hne : s.int_count ≠ file.f_priv ↔ s.int_count - file.f_priv ≠ 0 := by
    grind
  simp only [pollStep, hfile, gpio_poll, if_true, hslot, unseen, Option.map_some, Option.getD_some]
  by_cases h : s.int_count ≠ file.f_priv
  · rw [if_pos h, if_pos (hne.mp h)]
  · rw [if_neg h, if_neg (fun h' => h (hne.mpr h'))]

end Step

section Run

variable (lower : LowerHalf σ)

theorem length_files_pollRun (s : PollDev σ E) (ops : List (PollOp E)) :
    s.files.length ≤ (Machine.run (pollStep lower) s ops).1.files.length := by
  induction ops generalizing s with
  | nil => exact le_rfl
  | cons op ops ih => exact (length_files_pollStep s lower op).trans (ih _)

/-- Over a run that does not read file `fd`, what the file has not seen grows by the edges
delivered, modulo `2 ^ 32`. -/
theorem unseen_pollRun {s : PollDev σ E} {fd : ℕ} (hfd : fd < s.files.length)
    {ops : List (PollOp E)} (hops : ∀ op ∈ ops, op.samples fd = false) :
    unseen (Machine.run (pollStep lower) s ops).1 fd =
      unseen s fd + ((Machine.run (pollStep lower) s ops).2.countP PollOut.delivered).toUInt32 := by
  induction ops generalizing s with
  | nil => simp
  | cons op ops ih =>
    have hop := hops op List.mem_cons_self
    have hfd' := Nat.lt_of_lt_of_le hfd (length_files_pollStep s lower op)
    rw [Machine.run_cons, ih hfd' fun op' h => hops op' (List.mem_cons_of_mem _ h),
      unseen_pollStep s lower hfd hop, List.countP_cons]
    split_ifs
    · -- one more edge delivered
      simp only [Nat.toUInt32_eq, UInt32.ofNat_add]
      grind
    · simp

theorem toUInt32_ne_zero_iff (n : ℕ) : n.toUInt32 ≠ 0 ↔ n % 2 ^ 32 ≠ 0 := by
  rw [Ne, Ne, ← UInt32.toNat_inj]
  simp

/-- After file `fd` has seen the count, a run that does not read it, and then a poll on it with
a free slot: the poll reports an edge exactly when the run delivered a number of edges that is
not a multiple of `2 ^ 32`. -/
theorem pollRun_pollin_iff {s : PollDev σ E} {fd : ℕ} (hfd : fd < s.files.length)
    (hseen : unseen s fd = 0) {ops : List (PollOp E)} (hops : ∀ op ∈ ops, op.samples fd = false)
    {i : ℕ} (hslot : (Machine.run (pollStep lower) s ops).1.fds.findIdx? Option.isNone = some i)
    (fds : ℕ) :
    (pollStep lower (Machine.run (pollStep lower) s ops).1 (.gpio_poll fd fds true)).2 = .pollin ↔
      (Machine.run (pollStep lower) s ops).2.countP PollOut.delivered % 2 ^ 32 ≠ 0 := by
  have hlen := Nat.lt_of_lt_of_le hfd (length_files_pollRun lower s ops)
  rw [pollStep_setup _ lower (List.getElem?_eq_getElem hlen) hslot, unseen_pollRun lower hfd hops,
    hseen, UInt32.zero_add, ← toUInt32_ne_zero_iff]
  by_cases h : ((Machine.run (pollStep lower) s ops).2.countP PollOut.delivered).toUInt32 = 0
  · simp [h]
  · simp [h]

/-- A file opened after task 1 registered, then two edges: a poll on the file reports them. -/
theorem pollRun_pollin_iff_two_edges :
    let lower : LowerHalf Unit := ⟨fun _ _ _ => some true, fun s _ _ => some s⟩
    let s := (Machine.run (pollStep lower)
      (pollBoot () (⟨GpintState.reset, [], []⟩ : DriverState UpperHandler) 1 1)
      [.gpio_open, .GPIOC_REGISTER 0 1 (some ())]).1
    let ops : List (PollOp Unit) := [.edge, .edge]
    (pollStep lower (Machine.run (pollStep lower) s ops).1 (.gpio_poll 0 5 true)).2 = .pollin := by
  intro lower s ops
  have hfd : 0 < s.files.length := by decide
  have hseen : unseen s 0 = 0 := by decide
  have hops : ∀ op ∈ ops, op.samples 0 = false := by decide
  have hslot : (Machine.run (pollStep lower) s ops).1.fds.findIdx? Option.isNone = some 0 := by decide
  exact (pollRun_pollin_iff lower hfd hseen hops hslot 5).mpr (by decide)

/-! ## Polling without a registration -/

def PollOp.registers : PollOp E → Bool
  | .GPIOC_REGISTER .. => true
  | _ => false

/-- Nothing attached, no edge counted, and every file has seen the count. -/
def Silent (s : PollDev σ E) : Prop :=
  s.dev.gpint.handler (extiLine int0) = none ∧ s.int_count = 0 ∧ ∀ f ∈ s.files, f.f_priv = 0

theorem silent_pollBoot (pin : σ) (st : DriverState UpperHandler) (n npoll : ℕ) :
    Silent (pollBoot pin st n npoll : PollDev σ E) :=
  ⟨intBoot_handler st n, rfl, by simp [pollBoot]⟩

theorem silent_pollStep {s : PollDev σ E} (hs : Silent s) {op : PollOp E}
    (hop : op.registers = false) :
    Silent (pollStep lower s op).1 ∧ (pollStep lower s op).2 ≠ .pollin ∧
      (pollStep lower s op).2.delivered = false := by
  obtain ⟨hh, hc, hf⟩ := hs
  cases op with
  | gpio_open =>
    refine ⟨⟨hh, hc, fun f hmem => ?_⟩, PollOut.file_ne_pollin _, rfl⟩
    rcases List.mem_append.mp hmem with hmem | hmem
    · exact hf f hmem
    · rw [List.mem_singleton.mp hmem]
      exact hc
  | gpio_read fd buflen ext =>
    cases h : s.files[fd]? with
    | none =>
      rw [pollStep_of_not_open lower s rfl h]
      exact ⟨⟨hh, hc, hf⟩, PollOut.file_ne_pollin _, rfl⟩
    | some file =>
      simp only [pollStep, h]
      refine ⟨⟨hh, hc, fun f hmem => ?_⟩, PollOut.file_ne_pollin _, rfl⟩
      rcases List.mem_or_eq_of_mem_set hmem with hmem | rfl
      · exact hf f hmem
      · dsimp only
        split_ifs
        · exact hf file (List.mem_of_getElem? h)
        · exact hc
  | GPIOC_READ fd ext =>
    cases h : s.files[fd]? with
    | none =>
      rw [pollStep_of_not_open lower s rfl h]
      exact ⟨⟨hh, hc, hf⟩, PollOut.file_ne_pollin _, rfl⟩
    | some file =>
      simp only [pollStep, h]
      refine ⟨⟨hh, hc, fun f hmem => ?_⟩, PollOut.file_ne_pollin _, rfl⟩
      rcases List.mem_or_eq_of_mem_set hmem with hmem | rfl
      · exact hf f hmem
      · exact hc
  | GPIOC_REGISTER fd pid arg => cases hop
  | GPIOC_UNREGISTER fd pid =>
    cases h : s.files[fd]? with
    | none =>
      rw [pollStep_of_not_open lower s rfl h]
      exact ⟨⟨hh, hc, hf⟩, PollOut.file_ne_pollin _, rfl⟩
    | some file =>
      simp only [pollStep, h, gpioc_unregister_eq]
      refine ⟨⟨?_, hc, hf⟩, PollOut.file_ne_pollin _, rfl⟩
      split_ifs
      · exact detached_handler _
      · exact hh
  | gpio_poll fd fds setup =>
    cases h : s.files[fd]? with
    | none =>
      rw [pollStep_of_not_open lower s rfl h]
      exact ⟨⟨hh, hc, hf⟩, PollOut.file_ne_pollin _, rfl⟩
    | some file =>
      have hseen : s.int_count = file.f_priv := hc.trans (hf file (List.mem_of_getElem? h)).symm
      simp only [pollStep, h]
      exact ⟨⟨by simpa using hh, by simpa using hc, by simpa using hf⟩,
        gpio_poll_ne_pollin s file fds setup hseen, gpio_poll_delivered s file fds setup⟩
  | edge =>
    have hidle : intEdge s.dev int0 = .idle := by
      simp [intEdge, hh]
    simp only [pollStep, hidle]
    exact ⟨⟨hh, hc, hf⟩, PollOut.int_ne_pollin _ _, rfl⟩

/-- From `stm32_gpio_initialize`, along every run without `GPIOC_REGISTER`, no edge reaches
`gpio_handler` and no poll reports one: `gpio_poll` never enables the interrupt. -/
theorem pollRun_without_register (pin : σ) (st : DriverState UpperHandler) (n npoll : ℕ)
    {ops : List (PollOp E)} (hops : ∀ op ∈ ops, op.registers = false) :
    ∀ o ∈ (Machine.run (pollStep lower) (pollBoot pin st n npoll) ops).2,
      o ≠ .pollin ∧ o.delivered = false := by
  intro o ho
  obtain ⟨s, op, hop, hs, rfl⟩ := Machine.mem_run_snd_of_mem (pollStep lower) Silent
    (silent_pollBoot pin st n npoll) (fun s op hop hs => (silent_pollStep lower hs (hops op hop)).1) ho
  exact (silent_pollStep lower hs (hops op hop)).2

/-- A file opened and polled, with an edge before and after the poll and no registration. -/
theorem pollRun_without_register_open_poll :
    let ops : List (PollOp Unit) := [.gpio_open, .edge, .gpio_poll 0 5 true, .edge]
    (∀ op ∈ ops, op.registers = false) ∧
      ∀ o ∈ (Machine.run (pollStep (⟨fun _ _ _ => some true, fun s _ _ => some s⟩ : LowerHalf Unit))
          (pollBoot () ⟨GpintState.reset, [], []⟩ 1 1) ops).2,
        o ≠ .pollin ∧ o.delivered = false := by
  intro ops
  have hops : ∀ op ∈ ops, op.registers = false := by decide
  exact ⟨hops, pollRun_without_register _ () _ 1 1 hops⟩

end Run

end NucleoH753zi.GpioFile
