import NucleoH753zi.GpioDriver

/-!
# The GPIO upper half: the device files

`drivers/ioexpander/gpio.c` gives each registered pin a character device. Its file operations
read the pin as one ASCII digit (`gpio_read`, then end of file until `gpio_seek` back to 0),
write it from `'0'` or `'1'` (`gpio_write`), and answer `GPIOC_WRITE`, `GPIOC_READ` and
`GPIOC_PINTYPE`, through `go_read` and `go_write` of the device's table.

The upper half is written over any lower half (`LowerHalf`): when one simulates another
(`LowerHalf.Simulates`), every file operation does the same over both
(`LowerHalf.Simulates.fileStep`). Open files are numbered in the order they are opened. The VFS's
own checks are left out, and so are `f_priv` and the interrupt counter, which only polling reads
(`GpioPoll`). `GPIOC_REGISTER` and `GPIOC_UNREGISTER` are in `GpioSignal`; `GPIOC_SETPINTYPE` is
left out.
-/

namespace NucleoH753zi.GpioFile

open Libc GpioDriver

def GPIO_OUTPUT_PIN_OPENDRAIN : ℕ := 4

def SEEK_SET : ℕ := 0
def SEEK_CUR : ℕ := 1
def SEEK_END : ℕ := 2

/-- The methods `dev->gp_ops->go_read` and `go_write` on the state `σ` the lower half drives,
given the levels applied to the pins from outside; `none` when the method is NULL or one of its
assertions fails. The board's methods return OK whenever their assertions hold, so no error
return is modelled. -/
structure LowerHalf (σ : Type) where
  go_read : σ → (ℕ × ℕ → Bool) → Registration → Option Bool
  go_write : σ → Registration → Bool → Option σ

inductive FileOut
  | ret (r : ℤ)
  /-- `read` returned 1 with this byte in the buffer -/
  | byte (c : Char)
  /-- `GPIOC_READ` returned OK with this value in `*ptr` -/
  | value (b : Bool)
  /-- `GPIOC_PINTYPE` returned OK with this type in `*ptr` -/
  | pintype (t : ℕ)
  /-- a `DEBUGASSERT` failed, or a NULL method was called -/
  | assertFailed
  deriving DecidableEq, Repr

structure OpenFile where
  minor : ℕ
  f_pos : ℕ
  deriving DecidableEq, Repr

inductive GpioCmd
  | GPIOC_WRITE (arg : ℕ)
  /-- with the levels applied to the pins from outside when the pin is read -/
  | GPIOC_READ (ext : ℕ × ℕ → Bool)
  | GPIOC_PINTYPE

inductive FileOp
  | gpio_open (minor : ℕ)
  | gpio_read (fd buflen : ℕ) (ext : ℕ × ℕ → Bool)
  | gpio_write (fd : ℕ) (buffer : List Char)
  | gpio_seek (fd : ℕ) (offset : ℤ) (whence : ℕ)
  | gpio_ioctl (fd : ℕ) (cmd : GpioCmd)

/-- The pin types `gpio_write` and `GPIOC_WRITE` accept. -/
def isWritable (dev : Registration) : Prop :=
  dev.pintype = GPIO_OUTPUT_PIN ∨ dev.pintype = GPIO_OUTPUT_PIN_OPENDRAIN

instance (dev : Registration) : Decidable (isWritable dev) :=
  inferInstanceAs (Decidable (dev.pintype = _ ∨ dev.pintype = _))

section Upper

variable {σ : Type} (lower : LowerHalf σ)

/-- `gpio_read (filep, buffer, buflen)`: the new `f_pos` and the result. -/
def gpio_read (s : σ) (ext : ℕ × ℕ → Bool) (dev : Registration) (f_pos buflen : ℕ) :
    ℕ × FileOut :=
  if buflen = 0 then (f_pos, .ret 0)
  -- end of file once the byte has been read
  else if 0 < f_pos then (f_pos, .ret 0)
  else
    match lower.go_read s ext dev with
    | none => (f_pos, .assertFailed)
    -- `buffer[0] += '0'` turns the value read into a digit
    | some v => (1, .byte (if v then '1' else '0'))

def gpio_write (s : σ) (dev : Registration) (buffer : List Char) : σ × FileOut :=
  if ¬ isWritable dev then (s, .ret (-EACCES))
  else
    match buffer with
    | [] => (s, .ret 0)
    | c :: _ =>
      if c = '0' ∨ c = '1' then
        match lower.go_write s dev (c == '1') with
        | none => (s, .assertFailed)
        | some s' => (s', .ret 1)
      else (s, .ret (-EINVAL))

/-- `gpio_seek (filep, offset, whence)`: the new `f_pos` and the result. -/
def gpio_seek (f_pos : ℕ) (offset : ℤ) (whence : ℕ) : ℕ × FileOut :=
  if whence = SEEK_CUR ∨ whence = SEEK_END then (f_pos, .ret (-ENOSYS))
  else if whence = SEEK_SET ∧ offset = 0 then (0, .ret 0)
  else (f_pos, .ret (-EINVAL))

def gpio_ioctl (s : σ) (dev : Registration) : GpioCmd → σ × FileOut
  | .GPIOC_WRITE arg =>
    if isWritable dev then
      if 1 < arg then (s, .assertFailed)
      else
        match lower.go_write s dev (arg != 0) with
        | none => (s, .assertFailed)
        | some s' => (s', .ret OK)
    else (s, .ret (-EACCES))
  | .GPIOC_READ ext =>
    match lower.go_read s ext dev with
    | none => (s, .assertFailed)
    | some v => (s, .value v)
  | .GPIOC_PINTYPE => (s, .pintype dev.pintype)

def fileDev (devices : List Registration) (files : List OpenFile) (fd : ℕ) :
    Option (OpenFile × Registration) :=
  match files[fd]? with
  | none => none
  | some file => (devices.find? fun dev => dev.minor == file.minor).map fun dev => (file, dev)

def fileStep (devices : List Registration) (st : σ × List OpenFile) :
    FileOp → (σ × List OpenFile) × FileOut
  | .gpio_open minor =>
    -- `gpio_open` only samples the interrupt counter
    if devices.any fun dev => dev.minor == minor then
      ((st.1, st.2 ++ [⟨minor, 0⟩]), .ret st.2.length)
    else (st, .ret (-ENOENT))
  | .gpio_read fd buflen ext =>
    match fileDev devices st.2 fd with
    | none => (st, .ret (-EBADF))
    | some (file, dev) =>
      let r := gpio_read lower st.1 ext dev file.f_pos buflen
      ((st.1, st.2.set fd { file with f_pos := r.1 }), r.2)
  | .gpio_write fd buffer =>
    match fileDev devices st.2 fd with
    | none => (st, .ret (-EBADF))
    | some (_, dev) =>
      let r := gpio_write lower st.1 dev buffer
      ((r.1, st.2), r.2)
  | .gpio_seek fd offset whence =>
    match fileDev devices st.2 fd with
    | none => (st, .ret (-EBADF))
    | some (file, _) =>
      let r := gpio_seek file.f_pos offset whence
      ((st.1, st.2.set fd { file with f_pos := r.1 }), r.2)
  | .gpio_ioctl fd cmd =>
    match fileDev devices st.2 fd with
    | none => (st, .ret (-EBADF))
    | some (_, dev) =>
      let r := gpio_ioctl lower st.1 dev cmd
      ((r.1, st.2), r.2)

end Upper

theorem mem_of_fileDev {devices : List Registration} {files : List OpenFile} {fd : ℕ}
    {file : OpenFile} {dev : Registration} (h : fileDev devices files fd = some (file, dev)) :
    dev ∈ devices := by
  unfold fileDev at h
  split at h
  · cases h
  · obtain ⟨dev', hfind, hdev⟩ := Option.map_eq_some_iff.mp h
    cases hdev
    exact List.mem_of_find?_eq_some hfind

/-! ## Simulation -/

section Simulation

variable {σ τ : Type} (lower : LowerHalf σ) (lower' : LowerHalf τ) (f : σ → τ) (P : σ → Prop)
  (devices : List Registration)

/-- Through `f`, `lower'` does what `lower` does, on the states of `P` and the devices
registered, and the writes of `lower` keep `P`. -/
structure LowerHalf.Simulates : Prop where
  read : ∀ s ext dev, P s → dev ∈ devices → lower'.go_read (f s) ext dev = lower.go_read s ext dev
  write : ∀ s dev v, P s → dev ∈ devices →
    lower'.go_write (f s) dev v = (lower.go_write s dev v).map f
  keep : ∀ s dev v s', P s → dev ∈ devices → lower.go_write s dev v = some s' → P s'

variable {lower lower' f P devices}
variable (h : LowerHalf.Simulates lower lower' f P devices)
include h

theorem LowerHalf.Simulates.gpio_read {s : σ} (hs : P s) (ext : ℕ × ℕ → Bool)
    {dev : Registration} (hdev : dev ∈ devices) (f_pos buflen : ℕ) :
    gpio_read lower' (f s) ext dev f_pos buflen = gpio_read lower s ext dev f_pos buflen := by
  simp only [GpioFile.gpio_read, h.read s ext dev hs hdev]

-- both lower halves write, or neither
theorem LowerHalf.Simulates.go_write_cases {s : σ} (hs : P s) {dev : Registration}
    (hdev : dev ∈ devices) (v : Bool) :
    (lower.go_write s dev v = none ∧ lower'.go_write (f s) dev v = none) ∨
      ∃ s', lower.go_write s dev v = some s' ∧ lower'.go_write (f s) dev v = some (f s') ∧ P s' := by
  rw [h.write s dev v hs hdev]
  cases hw : lower.go_write s dev v with
  | none => exact .inl ⟨rfl, rfl⟩
  | some s' => exact .inr ⟨s', rfl, rfl, h.keep s dev v s' hs hdev hw⟩

theorem LowerHalf.Simulates.gpio_write {s : σ} (hs : P s) {dev : Registration}
    (hdev : dev ∈ devices) (buffer : List Char) :
    (f (gpio_write lower s dev buffer).1, (gpio_write lower s dev buffer).2) =
        gpio_write lower' (f s) dev buffer ∧
      P (gpio_write lower s dev buffer).1 := by
  unfold GpioFile.gpio_write
  by_cases hw : isWritable dev
  · rw [if_neg (not_not_intro hw), if_neg (not_not_intro hw)]
    cases buffer with
    | nil => exact ⟨rfl, hs⟩
    | cons c _ =>
      dsimp only
      split_ifs with hc
      · rcases h.go_write_cases hs hdev (c == '1') with ⟨h1, h2⟩ | ⟨s', h1, h2, hs'⟩
        · rw [h1, h2]
          exact ⟨rfl, hs⟩
        · rw [h1, h2]
          exact ⟨rfl, hs'⟩
      · exact ⟨rfl, hs⟩
  · rw [if_pos hw, if_pos hw]
    exact ⟨rfl, hs⟩

theorem LowerHalf.Simulates.gpio_ioctl {s : σ} (hs : P s) {dev : Registration}
    (hdev : dev ∈ devices) (cmd : GpioCmd) :
    (f (gpio_ioctl lower s dev cmd).1, (gpio_ioctl lower s dev cmd).2) =
        gpio_ioctl lower' (f s) dev cmd ∧
      P (gpio_ioctl lower s dev cmd).1 := by
  cases cmd with
  | GPIOC_WRITE arg =>
    simp only [GpioFile.gpio_ioctl]
    by_cases hw : isWritable dev
    · rw [if_pos hw, if_pos hw]
      by_cases harg : 1 < arg
      · rw [if_pos harg, if_pos harg]
        exact ⟨rfl, hs⟩
      · rw [if_neg harg, if_neg harg]
        rcases h.go_write_cases hs hdev (arg != 0) with ⟨h1, h2⟩ | ⟨s', h1, h2, hs'⟩
        · rw [h1, h2]
          exact ⟨rfl, hs⟩
        · rw [h1, h2]
          exact ⟨rfl, hs'⟩
    · rw [if_neg hw, if_neg hw]
      exact ⟨rfl, hs⟩
  | GPIOC_READ ext =>
    simp only [GpioFile.gpio_ioctl, h.read s ext dev hs hdev]
    split <;> exact ⟨rfl, hs⟩
  | GPIOC_PINTYPE => exact ⟨rfl, hs⟩

theorem LowerHalf.Simulates.fileStep (st : σ × List OpenFile) (hs : P st.1) (op : FileOp) :
    ((f (fileStep lower devices st op).1.1, (fileStep lower devices st op).1.2),
        (fileStep lower devices st op).2) = fileStep lower' devices (f st.1, st.2) op ∧
      P (fileStep lower devices st op).1.1 := by
  cases op with
  | gpio_open minor =>
    simp only [GpioFile.fileStep]
    split_ifs <;> exact ⟨rfl, hs⟩
  | gpio_read fd buflen ext =>
    simp only [GpioFile.fileStep]
    cases hfd : fileDev devices st.2 fd with
    | none => exact ⟨rfl, hs⟩
    | some fdev =>
      obtain ⟨file, dev⟩ := fdev
      dsimp only
      rw [h.gpio_read hs ext (mem_of_fileDev hfd)]
      exact ⟨rfl, hs⟩
  | gpio_write fd buffer =>
    simp only [GpioFile.fileStep]
    cases hfd : fileDev devices st.2 fd with
    | none => exact ⟨rfl, hs⟩
    | some fdev =>
      obtain ⟨file, dev⟩ := fdev
      dsimp only
      obtain ⟨hmap, hkeep⟩ := h.gpio_write hs (mem_of_fileDev hfd) buffer
      rw [← hmap]
      exact ⟨rfl, hkeep⟩
  | gpio_seek fd offset whence =>
    simp only [GpioFile.fileStep]
    cases fileDev devices st.2 fd <;> exact ⟨rfl, hs⟩
  | gpio_ioctl fd cmd =>
    simp only [GpioFile.fileStep]
    cases hfd : fileDev devices st.2 fd with
    | none => exact ⟨rfl, hs⟩
    | some fdev =>
      obtain ⟨file, dev⟩ := fdev
      dsimp only
      obtain ⟨hmap, hkeep⟩ := h.gpio_ioctl hs (mem_of_fileDev hfd) cmd
      rw [← hmap]
      exact ⟨rfl, hkeep⟩

end Simulation

end NucleoH753zi.GpioFile
