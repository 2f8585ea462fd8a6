import NucleoH753zi.GpioDriver
import Mathlib.Data.List.Perm.Basic

/-!
# Signals on a GPIO interrupt: `GPIOC_REGISTER` and `GPIOC_UNREGISTER`

The upper half keeps for each interrupt device a table of `CONFIG_DEV_GPIO_NSIGNALS` signals and a
`uint8_t` count of registrations, `register_count`. `GPIOC_REGISTER` stores the task's signal in
its own slot or the first free one, and the first registration attaches `gpio_handler` and
enables the pin. `GPIOC_UNREGISTER` moves the last used slot into the task's slot, and the call
that brings the count to 0 disables the pin and detaches the handler. An edge signals each slot
up to the first free one.

Along every run from `stm32_gpio_initialize` the table keeps its tasks first and each once
(`Packed`), and the registered tasks follow a set (`intRun_registered`). While tasks follow the
protocol the count is the number of registered tasks (`intRun_follows`); but any task counts it
down, and a stray `GPIOC_UNREGISTER` turns the interrupt off under the tasks still registered.
Tasks are positive process ids; the poll waiters are in `GpioPoll`, the work items left out.
-/

namespace NucleoH753zi.GpioFile

open Libc GpioDriver

/-- `struct gpio_signal_s`: the event a task asked for (`none` where none was ever written), and
the task. -/
structure gpio_signal_s (E : Type) where
  gp_event : Option E
  gp_pid : ℕ

inductive UpperHandler
  | gpio_handler

/-- An interrupt device: the lower half's callback and line handler, and the upper half's
`register_count` and `gp_signals`. -/
structure IntDev (E : Type) where
  gpint : GpintState UpperHandler
  register_count : UInt8
  gp_signals : List (gpio_signal_s E)

variable {E : Type}

def freeSlot : gpio_signal_s E := ⟨none, 0⟩

/-- The slot `GPIOC_REGISTER` takes: the first that is free or the task's own. -/
def registerSlot (sigs : List (gpio_signal_s E)) (pid : ℕ) : Option ℕ :=
  sigs.findIdx? fun s => s.gp_pid == 0 || s.gp_pid == pid

/-- The signal loop of `GPIOC_REGISTER`; `none` when no slot is left (`-EBUSY`). -/
def registerSignal (sigs : List (gpio_signal_s E)) (pid : ℕ) (event : E) :
    Option (List (gpio_signal_s E)) :=
  (registerSlot sigs pid).map fun i => sigs.set i ⟨some event, pid⟩

def unregisterSignal (sigs : List (gpio_signal_s E)) (pid : ℕ) : List (gpio_signal_s E) :=
  match sigs.findIdx? fun s => pid == s.gp_pid with
  | none => sigs
  | some i =>
    -- `j` stops at the first free slot after `i`, or at the end, and then steps back
    let j := i + 1 + ((sigs.drop (i + 1)).takeWhile fun s => s.gp_pid != 0).length - 1
    let sigs := if i ≠ j then sigs.set i (sigs.getD j freeSlot) else sigs
    sigs.modify j fun s => { s with gp_pid := 0 }

/-- The signal loop of `gpio_handler`: each slot up to the first free one is signalled. -/
def gpio_handler (sigs : List (gpio_signal_s E)) : List (ℕ × Option E) :=
  (sigs.takeWhile fun s => s.gp_pid != 0).map fun s => (s.gp_pid, s.gp_event)

/-- The table after the signal loop of `GPIOC_REGISTER`: a NULL argument stores no signal. -/
def storeSignal (sigs : List (gpio_signal_s E)) (pid : ℕ) : Option E → Option (List (gpio_signal_s E))
  | none => some sigs
  | some event => registerSignal sigs pid event

/-- `GPIOC_REGISTER` from task `pid`, with the sigevent `arg` or NULL. -/
def gpioc_register (dev : Registration) (s : IntDev E) (pid : ℕ) (arg : Option E) :
    IntDev E × ℤ :=
  if dev.pintype < GPIO_INTERRUPT_PIN then (s, -EACCES)
  else
    match storeSignal s.gp_signals pid arg with
    | none => (s, -EBUSY)
    | some sigs =>
      let count := s.register_count
      let s := { s with gp_signals := sigs, register_count := count + 1 }
      -- only a registration that finds the count at 0 attaches and enables
      if 0 < count then (s, OK)
      else
        let a := go_attach s.gpint dev (some .gpio_handler)
        if a.2 < 0 then ({ s with gpint := a.1 }, a.2)
        else
          let e := go_enable a.1 dev true
          ({ s with gpint := e.1 }, e.2)

/-- `GPIOC_UNREGISTER` from task `pid`. -/
def gpioc_unregister (dev : Registration) (s : IntDev E) (pid : ℕ) : IntDev E × ℤ :=
  if dev.pintype < GPIO_INTERRUPT_PIN then (s, -EACCES)
  else
    let s := { s with gp_signals := unregisterSignal s.gp_signals pid,
                      register_count := s.register_count - 1 }
    if 0 < s.register_count then (s, OK)
    else
      let e := go_enable s.gpint dev false
      if e.2 < 0 then ({ s with gpint := e.1 }, e.2)
      else
        let a := go_attach e.1 dev none
        ({ s with gpint := a.1 }, a.2)

inductive IntOut (E : Type)
  | ret (r : ℤ)
  /-- no handler is set on the line of the edge -/
  | idle
  /-- `gpio_handler` ran and signalled these tasks with their events, in order -/
  | notified (signals : List (ℕ × Option E))
  /-- `DEBUGASSERT (stm32gpint->callback != NULL)` failed -/
  | assertFailed

/-- An edge on the pin of interrupt device `id`. -/
def intEdge (s : IntDev E) (id : Fin BOARD_NGPIOINT) : IntOut E :=
  match s.gpint.handler (extiLine id) with
  | none => .idle
  | some arg =>
    match stm32_gpio_interrupt_handler s.gpint arg with
    | .called .gpio_handler _ => .notified (gpio_handler s.gp_signals)
    | _ => .assertFailed

inductive IntOp (E : Type)
  | GPIOC_REGISTER (pid : ℕ) (arg : Option E)
  | GPIOC_UNREGISTER (pid : ℕ)
  | edge

def IntOp.pid : IntOp E → Option ℕ
  | .GPIOC_REGISTER pid _ | .GPIOC_UNREGISTER pid => some pid
  | .edge => none

def intStep (dev : Registration) (s : IntDev E) : IntOp E → IntDev E × IntOut E
  | .GPIOC_REGISTER pid arg => ((gpioc_register dev s pid arg).1, .ret (gpioc_register dev s pid arg).2)
  | .GPIOC_UNREGISTER pid => ((gpioc_unregister dev s pid).1, .ret (gpioc_unregister dev s pid).2)
  | .edge => (s, if h : dev.id < BOARD_NGPIOINT then intEdge s ⟨dev.id, h⟩ else .idle)

/-! ## The signal table -/

def registered (sigs : List (gpio_signal_s E)) : List ℕ := (gpio_handler sigs).map Prod.fst

/-- The table keeps its tasks in its first slots, each once, and its free slots after them. -/
def Packed (sigs : List (gpio_signal_s E)) : Prop :=
  ∃ used free, sigs = used ++ free ∧ (∀ s ∈ used, s.gp_pid ≠ 0) ∧ (∀ s ∈ free, s.gp_pid = 0) ∧
    (used.map gpio_signal_s.gp_pid).Nodup

section Table

variable {α : Type} (a c : List α) (x : α)

theorem modify_middle (g : α → α) : (a ++ x :: c).modify a.length g = a ++ g x :: c := by
  induction a with
  | nil => simp [List.modify_cons]
  | cons y a ih => simp [ih]

theorem findIdx?_middle {p : α → Bool} (ha : ∀ y ∈ a, p y = false) (hx : p x = true) :
    (a ++ x :: c).findIdx? p = some a.length := by
  rw [List.findIdx?_append, List.findIdx?_eq_none_iff.mpr ha, List.findIdx?_cons, if_pos hx]
  simp

end Table

theorem takeWhile_packed {used free : List (gpio_signal_s E)} (hu : ∀ s ∈ used, s.gp_pid ≠ 0)
    (hf : ∀ s ∈ free, s.gp_pid = 0) :
    (used ++ free).takeWhile (fun s => s.gp_pid != 0) = used := by
  rw [List.takeWhile_append_of_pos (fun s hs => by simpa using hu s hs)]
  cases free with
  | nil => simp
  | cons f free => simp [hf f List.mem_cons_self]

theorem registered_packed {used free : List (gpio_signal_s E)} (hu : ∀ s ∈ used, s.gp_pid ≠ 0)
    (hf : ∀ s ∈ free, s.gp_pid = 0) :
    registered (used ++ free) = used.map gpio_signal_s.gp_pid := by
  simp only [registered, gpio_handler, takeWhile_packed hu hf, List.map_map]
  rfl

theorem packed_replicate (n : ℕ) : Packed (List.replicate n (freeSlot : gpio_signal_s E)) :=
  ⟨[], _, rfl, by simp, fun s hs => by rw [List.eq_of_mem_replicate hs]; rfl, List.nodup_nil⟩

theorem set_middle (a c : List (gpio_signal_s E)) (x y : gpio_signal_s E) :
    (a ++ x :: c).set a.length y = a ++ y :: c := by
  rw [List.set_append_right _ _ le_rfl, Nat.sub_self, List.set_cons_zero]

theorem pid_ne_of_nodup {a b : List (gpio_signal_s E)} {x : gpio_signal_s E}
    (hnd : ((a ++ x :: b).map gpio_signal_s.gp_pid).Nodup) : ∀ y ∈ a, y.gp_pid ≠ x.gp_pid := by
  rw [List.map_append, List.map_cons] at hnd
  intro y hy
  exact (List.nodup_append.mp hnd).2.2 _ (List.mem_map_of_mem hy) _ List.mem_cons_self

section Register

variable {sigs : List (gpio_signal_s E)} {pid : ℕ}

theorem cleared_cons {free : List (gpio_signal_s E)} (hf : ∀ s ∈ free, s.gp_pid = 0)
    (x : gpio_signal_s E) : ∀ s ∈ { x with gp_pid := 0 } :: free, s.gp_pid = 0 := by
  intro s hs
  rcases List.mem_cons.mp hs with rfl | hs
  · rfl
  · exact hf s hs

theorem used_replace {a b : List (gpio_signal_s E)} {x y : gpio_signal_s E}
    (hu : ∀ s ∈ a ++ x :: b, s.gp_pid ≠ 0) (hy : y.gp_pid ≠ 0) : ∀ s ∈ a ++ y :: b, s.gp_pid ≠ 0 := by
  intro s hs
  rcases List.mem_append.mp hs with hs | hs
  · exact hu s (List.mem_append_left _ hs)
  · rcases List.mem_cons.mp hs with rfl | hs
    · exact hy
    · exact hu s (List.mem_append_right _ (List.mem_cons_of_mem _ hs))

/-! ### `GPIOC_REGISTER` -/

theorem skips_used {used : List (gpio_signal_s E)} (hu : ∀ s ∈ used, s.gp_pid ≠ 0)
    (hmem : pid ∉ used.map gpio_signal_s.gp_pid) :
    ∀ y ∈ used, (y.gp_pid == 0 || y.gp_pid == pid) = false := by
  intro y hy
  have hy' : y.gp_pid ≠ pid := fun h => hmem (h ▸ List.mem_map_of_mem hy)
  simp [hu y hy, hy']

theorem registerSignal_of_mem {a b free : List (gpio_signal_s E)} {x : gpio_signal_s E}
    (hu : ∀ s ∈ a, s.gp_pid ≠ 0) (ha : ∀ y ∈ a, y.gp_pid ≠ x.gp_pid) (event : E) :
    registerSignal (a ++ x :: b ++ free) x.gp_pid event =
      some (a ++ ⟨some event, x.gp_pid⟩ :: b ++ free) := by
  have hslot : registerSlot (a ++ x :: b ++ free) x.gp_pid = some a.length := by
    rw [registerSlot, List.append_assoc, List.cons_append]
    exact findIdx?_middle _ _ _ (fun y hy => by simp [hu y hy, ha y hy]) (by simp)
  rw [registerSignal, hslot, Option.map_some, List.append_assoc, List.cons_append, set_middle]
  simp

theorem registerSignal_free {used free : List (gpio_signal_s E)} {f : gpio_signal_s E}
    (hu : ∀ s ∈ used, s.gp_pid ≠ 0) (hmem : pid ∉ used.map gpio_signal_s.gp_pid)
    (hf : f.gp_pid = 0) (event : E) :
    registerSignal (used ++ f :: free) pid event = some (used ++ ⟨some event, pid⟩ :: free) := by
  rw [registerSignal, registerSlot, findIdx?_middle _ _ _ (skips_used hu hmem) (by simp [hf]),
    Option.map_some, set_middle]

theorem registerSignal_full {used : List (gpio_signal_s E)} (hu : ∀ s ∈ used, s.gp_pid ≠ 0)
    (hmem : pid ∉ used.map gpio_signal_s.gp_pid) (event : E) :
    registerSignal used pid event = none := by
  rw [registerSignal, registerSlot, List.findIdx?_eq_none_iff.mpr (skips_used hu hmem)]
  rfl

/-- `GPIOC_REGISTER` overwrites the slot of a task that holds one, and gives another task the
first free slot, if there is one. -/
theorem registerSignal_spec (hp : Packed sigs) (hpid : 0 < pid) (event : E) :
    (registerSignal sigs pid event = none ∧ pid ∉ registered sigs ∧
        (registered sigs).length = sigs.length) ∨
      ∃ sigs', registerSignal sigs pid event = some sigs' ∧ Packed sigs' ∧
        sigs'.length = sigs.length ∧
        registered sigs' = if pid ∈ registered sigs then registered sigs else registered sigs ++ [pid] := by
  obtain ⟨used, free, rfl, hu, hf, hnd⟩ := hp
  rw [registered_packed hu hf]
  by_cases hmem : pid ∈ used.map gpio_signal_s.gp_pid
  · obtain ⟨x, hx, rfl⟩ := List.mem_map.mp hmem
    obtain ⟨a, b, rfl⟩ := List.append_of_mem hx
    have hu' : ∀ s ∈ a ++ ⟨some event, x.gp_pid⟩ :: b, s.gp_pid ≠ 0 := used_replace hu hpid.ne'
    have hpids : (a ++ ⟨some event, x.gp_pid⟩ :: b).map gpio_signal_s.gp_pid =
        (a ++ x :: b).map gpio_signal_s.gp_pid := by
      simp
    refine .inr ⟨_, registerSignal_of_mem (fun s hs => hu s (by simp [hs])) (pid_ne_of_nodup hnd) event,
      ⟨_, free, rfl, hu', hf, hpids ▸ hnd⟩, by simp, ?_⟩
    rw [registered_packed hu' hf, hpids, if_pos hmem]
  · cases free with
    | nil =>
      refine .inl ⟨?_, hmem, by simp⟩
      rw [List.append_nil]
      exact registerSignal_full hu hmem event
    | cons f free =>
      have hu' : ∀ s ∈ used ++ [⟨some event, pid⟩], s.gp_pid ≠ 0 :=
        List.forall_mem_append.mpr ⟨hu, List.forall_mem_singleton.mpr hpid.ne'⟩
      have hf' : ∀ s ∈ free, s.gp_pid = 0 := fun s hs => hf s (List.mem_cons_of_mem _ hs)
      have hnd' : ((used ++ [(⟨some event, pid⟩ : gpio_signal_s E)]).map gpio_signal_s.gp_pid).Nodup := by
        rw [List.map_append, List.map_singleton]
        exact List.nodup_append.mpr ⟨hnd, List.nodup_singleton _,
          fun y hy z hz h => by
            have hyp : y = pid := h.trans (List.mem_singleton.mp hz)
            exact hmem (hyp ▸ hy)⟩
      refine .inr ⟨_, registerSignal_free hu hmem (hf f List.mem_cons_self) event,
        ⟨_, free, by simp, hu', hf', hnd'⟩, by simp, ?_⟩
      rw [show used ++ ⟨some event, pid⟩ :: free = (used ++ [⟨some event, pid⟩]) ++ free by simp,
        registered_packed hu' hf', if_neg hmem]
      simp

/-! ### `GPIOC_UNREGISTER` -/

theorem unregisterSignal_of_not_mem (hp : Packed sigs) (hpid : 0 < pid)
    (hmem : pid ∉ registered sigs) : unregisterSignal sigs pid = sigs := by
  obtain ⟨used, free, rfl, hu, hf, -⟩ := hp
  rw [registered_packed hu hf] at hmem
  have hnone : (used ++ free).findIdx? (fun s => pid == s.gp_pid) = none := by
    refine List.findIdx?_eq_none_iff.mpr fun y hy => ?_
    rcases List.mem_append.mp hy with hy | hy
    · have hy' : pid ≠ y.gp_pid := fun h => hmem (h ▸ List.mem_map_of_mem hy)
      simp [hy']
    · have hy' : pid ≠ y.gp_pid := by rw [hf y hy]; exact Nat.pos_iff_ne_zero.mp hpid
      simp [hy']
  rw [unregisterSignal, hnone]

section Slot

variable {a b free : List (gpio_signal_s E)} {x : gpio_signal_s E}

theorem unregisterSlot (ha : ∀ y ∈ a, y.gp_pid ≠ x.gp_pid) :
    (a ++ x :: b ++ free).findIdx? (fun s => x.gp_pid == s.gp_pid) = some a.length := by
  rw [List.append_assoc, List.cons_append]
  exact findIdx?_middle _ _ _ (fun y hy => by simp [Ne.symm (ha y hy)]) (by simp)

theorem unregisterRun (hb : ∀ s ∈ b, s.gp_pid ≠ 0) (hf : ∀ s ∈ free, s.gp_pid = 0) :
    ((a ++ x :: b ++ free).drop (a.length + 1)).takeWhile (fun s => s.gp_pid != 0) = b := by
  rw [show a ++ x :: b ++ free = (a ++ [x]) ++ (b ++ free) by simp, List.drop_left' (by simp)]
  exact takeWhile_packed hb hf

theorem unregisterSignal_last (ha : ∀ y ∈ a, y.gp_pid ≠ x.gp_pid) (hf : ∀ s ∈ free, s.gp_pid = 0) :
    unregisterSignal (a ++ x :: free) x.gp_pid = a ++ { x with gp_pid := 0 } :: free := by
  have hslot : (a ++ x :: [] ++ free).findIdx? (fun s => x.gp_pid == s.gp_pid) = some a.length :=
    unregisterSlot ha
  have hrun : ((a ++ x :: [] ++ free).drop (a.length + 1)).takeWhile (fun s => s.gp_pid != 0) = [] :=
    unregisterRun (by simp) hf
  have hj : a.length + 1 + ([] : List (gpio_signal_s E)).length - 1 = a.length := by simp
  rw [show a ++ x :: free = a ++ x :: [] ++ free by simp, unregisterSignal, hslot]
  dsimp only
  rw [hrun, if_neg (by simp), hj, show a ++ [x] ++ free = a ++ x :: free by simp, modify_middle]

theorem unregisterSignal_move {L : List (gpio_signal_s E)} {z : gpio_signal_s E}
    (ha : ∀ y ∈ a, y.gp_pid ≠ x.gp_pid) (hb : ∀ s ∈ L ++ [z], s.gp_pid ≠ 0)
    (hf : ∀ s ∈ free, s.gp_pid = 0) :
    unregisterSignal (a ++ x :: (L ++ [z]) ++ free) x.gp_pid =
      a ++ z :: L ++ { z with gp_pid := 0 } :: free := by
  have hj : a.length + 1 + (L ++ [z]).length - 1 = (a ++ z :: L).length := by
    simp
    omega
  have hne : a.length ≠ (a ++ z :: L).length := by simp
  have hget : (a ++ x :: (L ++ [z]) ++ free).getD (a ++ z :: L).length freeSlot = z := by
    rw [show a ++ x :: (L ++ [z]) ++ free = (a ++ x :: L) ++ z :: free by simp,
      List.getD_append_right _ _ _ _ (by simp)]
    simp
  rw [unregisterSignal, unregisterSlot ha]
  dsimp only
  rw [unregisterRun hb hf, hj, if_pos hne, hget, List.append_assoc, List.cons_append, set_middle,
    show a ++ z :: ((L ++ [z]) ++ free) = (a ++ z :: L) ++ z :: free by simp, modify_middle]

end Slot

theorem unregisterSignal_spec (hp : Packed sigs) (hpid : 0 < pid) :
    Packed (unregisterSignal sigs pid) ∧ (unregisterSignal sigs pid).length = sigs.length ∧
      (registered (unregisterSignal sigs pid)).Perm ((registered sigs).erase pid) := by
  by_cases hmem : pid ∈ registered sigs
  swap
  · rw [unregisterSignal_of_not_mem hp hpid hmem, List.erase_of_not_mem hmem]
    exact ⟨hp, rfl, List.Perm.refl _⟩
  obtain ⟨used, free, rfl, hu, hf, hnd⟩ := hp
  rw [registered_packed hu hf] at hmem ⊢
  obtain ⟨x, hx, rfl⟩ := List.mem_map.mp hmem
  obtain ⟨a, b, rfl⟩ := List.append_of_mem hx
  have ha := pid_ne_of_nodup hnd
  have hua : ∀ s ∈ a, s.gp_pid ≠ 0 := fun s hs => hu s (by simp [hs])
  have hxa : x.gp_pid ∉ a.map gpio_signal_s.gp_pid := by
    intro h
    obtain ⟨y, hy, hyx⟩ := List.mem_map.mp h
    exact ha y hy hyx
  have herase : ((a ++ x :: b).map gpio_signal_s.gp_pid).erase x.gp_pid =
      (a ++ b).map gpio_signal_s.gp_pid := by
    rw [List.map_append, List.map_append, List.erase_append_right _ hxa, List.map_cons,
      List.erase_cons_head]
  rcases List.eq_nil_or_concat b with rfl | ⟨L, z, rfl⟩
  · rw [show a ++ [x] ++ free = a ++ x :: free by simp, unregisterSignal_last ha hf]
    refine ⟨⟨a, _, rfl, hua, cleared_cons hf x, ?_⟩, by simp, ?_⟩
    · rw [List.map_append] at hnd
      exact (List.nodup_append.mp hnd).1
    · rw [registered_packed hua (cleared_cons hf x), herase, List.append_nil]
  · simp only [List.concat_eq_append] at hnd herase hu ⊢
    have hb : ∀ s ∈ L ++ [z], s.gp_pid ≠ 0 := fun s hs => hu s (by simp [hs])
    have hused : ∀ s ∈ a ++ z :: L, s.gp_pid ≠ 0 := by
      intro s hs
      exact hu s (by simp at hs ⊢; tauto)
    have hperm : ((a ++ z :: L).map gpio_signal_s.gp_pid).Perm
        ((a ++ (L ++ [z])).map gpio_signal_s.gp_pid) :=
      ((List.perm_append_singleton z L).symm.append_left a).map _
    have hnd' : ((a ++ (L ++ [z])).map gpio_signal_s.gp_pid).Nodup := by
      rw [← herase]
      exact hnd.erase _
    rw [unregisterSignal_move ha hb hf]
    refine ⟨⟨a ++ z :: L, _, rfl, hused, cleared_cons hf z, hperm.nodup_iff.mpr hnd'⟩, by simp, ?_⟩
    rw [registered_packed hused (cleared_cons hf z), herase]
    exact hperm

theorem storeSignal_spec (hp : Packed sigs) (hpid : 0 < pid) (arg : Option E) :
    storeSignal sigs pid arg = none ∨
      ∃ sigs', storeSignal sigs pid arg = some sigs' ∧ Packed sigs' ∧ sigs'.length = sigs.length ∧
        (registered sigs' = registered sigs ∨ registered sigs' = registered sigs ++ [pid]) := by
  cases arg with
  | none => exact .inr ⟨sigs, rfl, hp, rfl, .inl rfl⟩
  | some event =>
    rcases registerSignal_spec hp hpid event with ⟨hnone, -⟩ | ⟨sigs', hsome, hp', hlen, hreg⟩
    · exact .inl hnone
    · refine .inr ⟨sigs', hsome, hp', hlen, ?_⟩
      split_ifs at hreg
      · exact .inl hreg
      · exact .inr hreg

end Register

/-! ## The board's interrupt device -/

def gpintDev : Registration := ⟨4, GPIO_INTERRUPT_PIN, g_gpint_ops, 0⟩

def int0 : Fin BOARD_NGPIOINT := ⟨0, by decide⟩

def attached (g : GpintState UpperHandler) : GpintState UpperHandler :=
  ⟨Function.update g.callback int0 (some .gpio_handler),
    Function.update g.handler (extiLine int0) (some int0)⟩

def detached (g : GpintState UpperHandler) : GpintState UpperHandler :=
  ⟨Function.update g.callback int0 none, Function.update g.handler (extiLine int0) none⟩

/-- The lower half is in one of the two states the upper half leaves it in. -/
def Wired (g : GpintState UpperHandler) : Prop :=
  (g.callback int0 = some .gpio_handler ∧ g.handler (extiLine int0) = some int0) ∨
    (g.callback int0 = none ∧ g.handler (extiLine int0) = none)

theorem wired_attached (g : GpintState UpperHandler) : Wired (attached g) :=
  .inl ⟨by simp [attached], by simp [attached]⟩

theorem wired_detached (g : GpintState UpperHandler) : Wired (detached g) :=
  .inr ⟨by simp [detached], by simp [detached]⟩

theorem attached_handler (g : GpintState UpperHandler) :
    (attached g).handler (extiLine int0) = some int0 := by
  simp [attached]

theorem detached_handler (g : GpintState UpperHandler) :
    (detached g).handler (extiLine int0) = none := by
  simp [detached]

theorem go_attach_gpintDev (g : GpintState UpperHandler) (callback : Option UpperHandler) :
    go_attach g gpintDev callback = stm32_gpint_attach g int0 callback :=
  rfl

theorem go_enable_gpintDev (g : GpintState UpperHandler) (enable : Bool) :
    go_enable g gpintDev enable = stm32_gpint_enable g int0 enable :=
  rfl

theorem go_attach_enable (g : GpintState UpperHandler) :
    (go_attach g gpintDev (some .gpio_handler)).2 = OK ∧
      go_enable (go_attach g gpintDev (some .gpio_handler)).1 gpintDev true = (attached g, OK) := by
  rw [go_attach_gpintDev, go_enable_gpintDev]
  refine ⟨rfl, ?_⟩
  simp [stm32_gpint_attach, stm32_gpint_enable, stm32_gpiosetevent, attached, extiLine]

theorem go_disable_detach (g : GpintState UpperHandler) :
    (go_enable g gpintDev false).2 = OK ∧
      go_attach (go_enable g gpintDev false).1 gpintDev none = (detached g, OK) := by
  rw [go_attach_gpintDev, go_enable_gpintDev]
  refine ⟨rfl, ?_⟩
  simp [stm32_gpint_attach, stm32_gpint_enable, stm32_gpiosetevent, detached, extiLine]

section Device

variable (s : IntDev E) {pid : ℕ} {arg : Option E}

theorem gpioc_register_of_none (h : storeSignal s.gp_signals pid arg = none) :
    gpioc_register gpintDev s pid arg = (s, -EBUSY) := by
  simp only [gpioc_register, h]
  rfl

theorem gpioc_register_of_some {sigs : List (gpio_signal_s E)}
    (h : storeSignal s.gp_signals pid arg = some sigs) :
    gpioc_register gpintDev s pid arg =
      (⟨if s.register_count = 0 then attached s.gpint else s.gpint, s.register_count + 1, sigs⟩,
        OK) := by
  obtain ⟨hattach, henable⟩ := go_attach_enable s.gpint
  have hint : ¬ gpintDev.pintype < GPIO_INTERRUPT_PIN := by decide
  simp only [gpioc_register, if_neg hint, h]
  by_cases hc : s.register_count = 0
  · rw [if_neg (by rw [hc]; decide), if_pos hc, hattach, if_neg (by decide), henable]
  · rw [if_pos (UInt8.pos_iff_ne_zero.mpr hc), if_neg hc]

theorem gpioc_unregister_eq (pid : ℕ) :
    gpioc_unregister gpintDev s pid =
      (⟨if s.register_count - 1 = 0 then detached s.gpint else s.gpint, s.register_count - 1,
        unregisterSignal s.gp_signals pid⟩, OK) := by
  obtain ⟨hdisable, hdetach⟩ := go_disable_detach s.gpint
  have hint : ¬ gpintDev.pintype < GPIO_INTERRUPT_PIN := by decide
  simp only [gpioc_unregister, if_neg hint]
  by_cases hc : s.register_count - 1 = 0
  · rw [if_neg (by rw [hc]; decide), if_pos hc, if_neg (by rw [hdisable]; decide), hdetach]
  · rw [if_pos (UInt8.pos_iff_ne_zero.mpr hc), if_neg hc]

theorem intStep_edge (hw : Wired s.gpint) :
    intStep gpintDev s .edge =
      (s, if s.gpint.handler (extiLine int0) = some int0 then .notified (gpio_handler s.gp_signals)
        else .idle) := by
  show (s, intEdge s int0) = _
  rcases hw with ⟨hcb, hh⟩ | ⟨-, hh⟩
  · simp [intEdge, hh, stm32_gpio_interrupt_handler, hcb]
  · simp [intEdge, hh]

theorem run_edges (hw : Wired s.gpint) (k : ℕ) :
    Machine.run (intStep gpintDev) s (List.replicate k .edge) =
      (s, List.replicate k (if s.gpint.handler (extiLine int0) = some int0
        then .notified (gpio_handler s.gp_signals) else .idle)) := by
  induction k with
  | zero => rfl
  | succ k ih => rw [List.replicate_succ, Machine.run_cons, intStep_edge s hw, ih]; rfl

theorem run_edges_of_none (hw : Wired s.gpint) (hnone : s.gpint.handler (extiLine int0) = none)
    (k : ℕ) : Machine.run (intStep gpintDev) s (List.replicate k .edge) = (s, List.replicate k .idle) := by
  have hoff : s.gpint.handler (extiLine int0) ≠ some int0 := by
    rw [hnone]
    simp
  rw [run_edges s hw k, if_neg hoff]

end Device

/-! ## Runs from boot -/

/-- The table and the lower half as every step of tasks leaves them, with `n` signal slots. -/
def Valid (n : ℕ) (s : IntDev E) : Prop :=
  Packed s.gp_signals ∧ s.gp_signals.length = n ∧ Wired s.gpint

/-- The interrupt device after `stm32_gpio_initialize`: nothing attached, `register_count` 0 and
`CONFIG_DEV_GPIO_NSIGNALS` free slots, as static storage starts. -/
def intBoot (st : DriverState UpperHandler) (n : ℕ) : IntDev E :=
  ⟨( stm32_gpio_initialize st).1.gpint, 0, List.replicate n freeSlot⟩

theorem valid_intBoot (st : DriverState UpperHandler) (n : ℕ) : Valid n (intBoot st n : IntDev E) := by
  have hline : extiLine int0 = pinOf GPIO_INT1 := rfl
  refine ⟨packed_replicate n, List.length_replicate, .inr ⟨?_, ?_⟩⟩ <;>
    simp [intBoot, stm32_gpio_initialize_gpint, hline]

section Step

variable {n : ℕ} {s : IntDev E} {pid : ℕ}

theorem valid_intStep (hv : Valid n s) {op : IntOp E} (hop : ∀ pid ∈ op.pid, 0 < pid) :
    Valid n (intStep gpintDev s op).1 := by
  obtain ⟨hp, hlen, hw⟩ := hv
  cases op with
  | GPIOC_REGISTER pid arg =>
    rcases storeSignal_spec hp (hop pid rfl) arg with hnone | ⟨sigs, hsome, hp', hlen', -⟩
    · rw [intStep, gpioc_register_of_none s hnone]
      exact ⟨hp, hlen, hw⟩
    · rw [intStep, gpioc_register_of_some s hsome]
      refine ⟨hp', hlen'.trans hlen, ?_⟩
      split_ifs
      · exact wired_attached _
      · exact hw
  | GPIOC_UNREGISTER pid =>
    obtain ⟨hp', hlen', -⟩ := unregisterSignal_spec hp (hop pid rfl)
    rw [intStep, gpioc_unregister_eq]
    refine ⟨hp', hlen'.trans hlen, ?_⟩
    split_ifs
    · exact wired_detached _
    · exact hw
  | edge =>
    rw [intStep_edge s hw]
    exact ⟨hp, hlen, hw⟩

theorem length_registered_le (sigs : List (gpio_signal_s E)) :
    (registered sigs).length ≤ sigs.length := by
  simp only [registered, gpio_handler, List.length_map]
  exact (List.takeWhile_sublist _).length_le

theorem registered_nodup {sigs : List (gpio_signal_s E)} (hp : Packed sigs) : (registered sigs).Nodup := by
  obtain ⟨used, free, rfl, hu, hf, hnd⟩ := hp
  rwa [registered_packed hu hf]

/-- A step never reaches the `DEBUGASSERT` of the lower half's interrupt handler, and an edge
signals the registered tasks, each once. -/
theorem intStep_out (hv : Valid n s) (op : IntOp E) :
    (intStep gpintDev s op).2 ≠ .assertFailed ∧
      ∀ signals, (intStep gpintDev s op).2 = .notified signals →
        signals.map Prod.fst = registered s.gp_signals ∧ (registered s.gp_signals).Nodup := by
  cases op with
  | GPIOC_REGISTER pid arg => exact ⟨nofun, fun _ h => nomatch h⟩
  | GPIOC_UNREGISTER pid => exact ⟨nofun, fun _ h => nomatch h⟩
  | edge =>
    rw [intStep_edge s hv.2.2]
    split_ifs
    · refine ⟨nofun, fun signals h => ?_⟩
      cases h
      exact ⟨rfl, registered_nodup hv.1⟩
    · exact ⟨nofun, fun _ h => nomatch h⟩

theorem registered_register_some (hv : Valid n s) (hpid : 0 < pid) (event : E) :
    registered (intStep gpintDev s (.GPIOC_REGISTER pid (some event))).1.gp_signals =
      if pid ∈ registered s.gp_signals ∨ (registered s.gp_signals).length = n then
        registered s.gp_signals
      else registered s.gp_signals ++ [pid] := by
  rcases registerSignal_spec hv.1 hpid event with ⟨hnone, -, hfull⟩ | ⟨sigs, hsome, -, hlen, hreg⟩
  · have hstore : storeSignal s.gp_signals pid (some event) = none := hnone
    rw [intStep, gpioc_register_of_none s hstore, if_pos (.inr (hfull.trans hv.2.1))]
  · have hstore : storeSignal s.gp_signals pid (some event) = some sigs := hsome
    rw [intStep, gpioc_register_of_some s hstore]
    show registered sigs = _
    by_cases hmem : pid ∈ registered s.gp_signals
    · rw [hreg, if_pos hmem, if_pos (.inl hmem)]
    · -- the task took a free slot, so the table was not full
      have hle := length_registered_le sigs
      rw [hreg, if_neg hmem, List.length_append, List.length_singleton, hlen, hv.2.1] at hle
      rw [hreg, if_neg hmem, if_neg (not_or.mpr ⟨hmem, by omega⟩)]

theorem registered_unregister (hv : Valid n s) (hpid : 0 < pid) :
    (registered (intStep gpintDev s (.GPIOC_UNREGISTER pid)).1.gp_signals).Perm
      ((registered s.gp_signals).erase pid) := by
  rw [intStep, gpioc_unregister_eq]
  exact (unregisterSignal_spec hv.1 hpid).2.2

end Step

section Run

variable (st : DriverState UpperHandler) (n : ℕ) {ops : List (IntOp E)}

theorem valid_intRun (hops : ∀ op ∈ ops, ∀ pid ∈ op.pid, 0 < pid) :
    Valid n (Machine.run (intStep gpintDev) (intBoot st n) ops).1 :=
  Machine.run_invariant_of_mem _ (Valid n) (valid_intBoot st n)
    fun _ op hop hv => valid_intStep hv (hops op hop)

theorem intRun_out (hops : ∀ op ∈ ops, ∀ pid ∈ op.pid, 0 < pid) {o : IntOut E}
    (ho : o ∈ (Machine.run (intStep gpintDev) (intBoot st n) ops).2) :
    o ≠ .assertFailed ∧ ∀ signals, o = .notified signals → (signals.map Prod.fst).Nodup := by
  obtain ⟨s, op, -, hv, rfl⟩ := Machine.mem_run_snd_of_mem _ (Valid n) (valid_intBoot st n)
    (fun _ op hop hv => valid_intStep hv (hops op hop)) ho
  obtain ⟨hne, hsig⟩ := intStep_out hv op
  refine ⟨hne, fun signals h => ?_⟩
  obtain ⟨hmap, hnd⟩ := hsig signals h
  rwa [hmap]

/-- Along every run of tasks from boot the table holds a set of at most `n` tasks, each once:
`GPIOC_REGISTER` with a signal adds a task that is not there while a slot is free,
`GPIOC_UNREGISTER` removes the task, and nothing else changes which tasks are registered. -/
theorem intRun_registered (hops : ∀ op ∈ ops, ∀ pid ∈ op.pid, 0 < pid) :
    let s := (Machine.run (intStep gpintDev) (intBoot st n) ops).1
    (registered s.gp_signals).Nodup ∧ (registered s.gp_signals).length ≤ n ∧
      (∀ pid, 0 < pid → ∀ event : E,
        registered (intStep gpintDev s (.GPIOC_REGISTER pid (some event))).1.gp_signals =
          if pid ∈ registered s.gp_signals ∨ (registered s.gp_signals).length = n then
            registered s.gp_signals
          else registered s.gp_signals ++ [pid]) ∧
      (∀ pid, registered (intStep gpintDev s (.GPIOC_REGISTER pid none)).1.gp_signals =
        registered s.gp_signals) ∧
      (∀ pid, 0 < pid → (registered (intStep gpintDev s (.GPIOC_UNREGISTER pid)).1.gp_signals).Perm
        ((registered s.gp_signals).erase pid)) ∧
      registered (intStep gpintDev s .edge).1.gp_signals = registered s.gp_signals := by
  intro s
  have hv : Valid n s := valid_intRun st n hops
  refine ⟨registered_nodup hv.1, ?_, fun pid hpid event => registered_register_some hv hpid event,
    fun pid => ?_, fun pid hpid => registered_unregister hv hpid, ?_⟩
  · rw [← hv.2.1]
    exact length_registered_le _
  · have hstore : storeSignal s.gp_signals pid none = some s.gp_signals := rfl
    rw [intStep, gpioc_register_of_some s hstore]
  · rw [intStep_edge s hv.2.2]

/-- On a two-slot table, task 1 registers with a signal: it joins the registered tasks. -/
theorem intRun_registered_task1 :
    let s := (Machine.run (intStep gpintDev)
      (intBoot (⟨GpintState.reset, [], []⟩ : DriverState UpperHandler) 2) ([] : List (IntOp Unit))).1
    (∀ op ∈ ([] : List (IntOp Unit)), ∀ pid ∈ op.pid, 0 < pid) ∧
      registered (intStep gpintDev s (.GPIOC_REGISTER 1 (some ()))).1.gp_signals = [1] := by
  intro s
  have hops : ∀ op ∈ ([] : List (IntOp Unit)), ∀ pid ∈ op.pid, 0 < pid := by
    simp
  obtain ⟨-, -, hreg, -⟩ := intRun_registered ⟨GpintState.reset, [], []⟩ 2 hops
  refine ⟨hops, ?_⟩
  rw [hreg 1 (by decide) ()]
  decide

/-- `register_count` counts calls, not tasks: at a count of 1, `GPIOC_UNREGISTER` from a task
that is not registered leaves the registered tasks in the table, brings the count to 0, and
disables and detaches the interrupt, so that no later edge signals them. The table stays packed
and no edge of the whole run reaches the lower half's `DEBUGASSERT`. -/
theorem gpioc_unregister_stray_detaches (hops : ∀ op ∈ ops, ∀ pid ∈ op.pid, 0 < pid) {pid : ℕ}
    (hpid : 0 < pid)
    (hnot : pid ∉ registered (Machine.run (intStep gpintDev) (intBoot st n) ops).1.gp_signals)
    (hcount : (Machine.run (intStep gpintDev) (intBoot st n) ops).1.register_count = 1) (k : ℕ) :
    let s := (Machine.run (intStep gpintDev) (intBoot st n) ops).1
    let r := Machine.run (intStep gpintDev) s (.GPIOC_UNREGISTER pid :: List.replicate k .edge)
    registered r.1.gp_signals = registered s.gp_signals ∧ r.2 = .ret OK :: List.replicate k .idle ∧
      Packed s.gp_signals ∧ Packed r.1.gp_signals ∧
      IntOut.assertFailed ∉ (Machine.run (intStep gpintDev) (intBoot st n) ops).2 ++ r.2 := by
  intro s r
  have hp : Packed s.gp_signals := (valid_intRun st n hops).1
  have hstep : intStep gpintDev s (.GPIOC_UNREGISTER pid) =
      (⟨detached s.gpint, 0, s.gp_signals⟩, .ret OK) := by
    rw [intStep, gpioc_unregister_eq, hcount, unregisterSignal_of_not_mem hp hpid hnot]
    rfl
  have hedges := run_edges_of_none (⟨detached s.gpint, 0, s.gp_signals⟩ : IntDev E)
    (wired_detached s.gpint) (detached_handler s.gpint) k
  have hr : r = (⟨detached s.gpint, 0, s.gp_signals⟩, .ret OK :: List.replicate k .idle) := by
    simp only [r, Machine.run_cons, hstep, hedges]
  refine ⟨by rw [hr], by rw [hr], hp, by rw [hr]; exact hp, ?_⟩
  rw [hr, List.mem_append]
  rintro (h | h)
  · exact (intRun_out st n hops h).1 rfl
  · simp at h

/-- Task 1 registers on a one-slot table; task 2, never registered, unregisters. -/
theorem gpioc_unregister_stray_detaches_task2 :
    let s := (Machine.run (intStep gpintDev) (intBoot (⟨GpintState.reset, [], []⟩ : DriverState UpperHandler) 1)
      [IntOp.GPIOC_REGISTER 1 (some ())]).1
    registered s.gp_signals = [1] ∧
      registered (Machine.run (intStep gpintDev) s [.GPIOC_UNREGISTER 2, .edge]).1.gp_signals = [1] ∧
      (Machine.run (intStep gpintDev) s [.GPIOC_UNREGISTER 2, .edge]).2 = [.ret OK, .idle] := by
  dsimp only
  have hops : ∀ op ∈ [IntOp.GPIOC_REGISTER 1 (some ())], ∀ pid ∈ op.pid, 0 < pid := by
    simp [IntOp.pid]
  have hpid : (0 : ℕ) < 2 := by decide
  obtain ⟨hkeep, hout, -⟩ := gpioc_unregister_stray_detaches ⟨GpintState.reset, [], []⟩ 1 hops hpid
    (by decide) (by decide) 1
  rw [List.replicate_one] at hkeep hout
  exact ⟨by decide, hkeep.trans (by decide), hout⟩

end Run

/-! ## Tasks that follow the protocol

The count is meant to be the number of registered tasks. It is, along every run in which each task
registers once, with a signal, and unregisters only while registered: the interrupt is then on
exactly while a task is registered, and each edge signals all of them. -/

/-- What the upper half expects of the task making a call. -/
def Follows (s : IntDev E) : IntOp E → Prop
  | .GPIOC_REGISTER pid arg => 0 < pid ∧ arg ≠ none ∧ pid ∉ registered s.gp_signals
  | .GPIOC_UNREGISTER pid => 0 < pid ∧ pid ∈ registered s.gp_signals
  | .edge => True

/-- `register_count` counts the registered tasks, and the handler is attached exactly while
there is one. -/
def Counted (n : ℕ) (s : IntDev E) : Prop :=
  Valid n s ∧ s.register_count.toNat = (registered s.gp_signals).length ∧
    (s.gpint.handler (extiLine int0) = some int0 ↔ registered s.gp_signals ≠ [])

theorem registered_replicate (n : ℕ) : registered (List.replicate n (freeSlot : gpio_signal_s E)) = [] := by
  cases n <;> rfl

theorem intBoot_handler (st : DriverState UpperHandler) (n : ℕ) :
    (intBoot st n : IntDev E).gpint.handler (extiLine int0) = none := by
  have hline : extiLine int0 = pinOf GPIO_INT1 := rfl
  simp [intBoot, stm32_gpio_initialize_gpint, hline]

theorem counted_intBoot (st : DriverState UpperHandler) (n : ℕ) :
    Counted n (intBoot st n : IntDev E) := by
  refine ⟨valid_intBoot st n, ?_, ?_⟩
  · rw [intBoot, registered_replicate]
    rfl
  · rw [intBoot_handler, intBoot, registered_replicate]
    simp

section Protocol

variable {n : ℕ} {s : IntDev E}

theorem counted_intStep (hn : n < 256) (hc : Counted n s) {op : IntOp E} (hop : Follows s op) :
    Counted n (intStep gpintDev s op).1 := by
  obtain ⟨hv, hcount, hon⟩ := hc
  cases op with
  | GPIOC_REGISTER pid arg =>
    obtain ⟨hpid, harg, hnew⟩ := hop
    obtain ⟨event, rfl⟩ := Option.ne_none_iff_exists'.mp harg
    rcases registerSignal_spec hv.1 hpid event with ⟨hnone, -⟩ | ⟨sigs, hsome, hp', hlen', hreg⟩
    · have hstore : storeSignal s.gp_signals pid (some event) = none := hnone
      rw [intStep, gpioc_register_of_none s hstore]
      exact ⟨hv, hcount, hon⟩
    have hstore : storeSignal s.gp_signals pid (some event) = some sigs := hsome
    rw [if_neg hnew] at hreg
    rw [intStep, gpioc_register_of_some s hstore]
    have hfit : (registered s.gp_signals).length + 1 ≤ n := by
      have hle := length_registered_le sigs
      rw [hreg, List.length_append, hlen', hv.2.1] at hle
      simpa using hle
    refine ⟨⟨hp', hlen'.trans hv.2.1, ?_⟩, ?_, ?_⟩
    · split_ifs
      · exact wired_attached _
      · exact hv.2.2
    · rw [UInt8.toNat_add, UInt8.toNat_one, hcount, hreg, List.length_append, List.length_singleton]
      omega
    · have hne : registered s.gp_signals ++ [pid] ≠ [] := by simp
      rw [hreg]
      refine iff_of_true ?_ hne
      split_ifs with h0
      · exact attached_handler _
      · -- the count is positive, so a task is registered and the handler attached
        refine hon.mpr fun hnil => h0 ?_
        rw [← UInt8.toNat_inj, hcount, hnil]
        rfl
  | GPIOC_UNREGISTER pid =>
    obtain ⟨hpid, hmem⟩ := hop
    obtain ⟨hp', hlen', hperm⟩ := unregisterSignal_spec hv.1 hpid
    have hleft : (registered (unregisterSignal s.gp_signals pid)).length =
        (registered s.gp_signals).length - 1 := by
      rw [hperm.length_eq, List.length_erase_of_mem hmem]
    have hpos : 1 ≤ s.register_count.toNat := hcount ▸ List.length_pos_of_mem hmem
    have hsub : (s.register_count - 1).toNat = s.register_count.toNat - 1 := by
      rw [UInt8.toNat_sub_of_le _ _ (UInt8.le_iff_toNat_le.mpr (by simpa using hpos)), UInt8.toNat_one]
    rw [intStep, gpioc_unregister_eq]
    refine ⟨⟨hp', hlen'.trans hv.2.1, ?_⟩, ?_, ?_⟩
    · split_ifs
      · exact wired_detached _
      · exact hv.2.2
    · rw [hsub, hcount, hleft]
    · split_ifs with h0
      · -- the last registered task left
        have hnil : registered (unregisterSignal s.gp_signals pid) = [] := by
          rw [← List.length_eq_zero_iff, hleft, ← hcount, ← hsub, h0]
          rfl
        rw [detached_handler, hnil]
        simp
      · have hne : registered (unregisterSignal s.gp_signals pid) ≠ [] := by
          intro hnil
          apply h0
          rw [← UInt8.toNat_inj, hsub, hcount, ← hleft, hnil]
          rfl
        exact iff_of_true (hon.mpr (List.ne_nil_of_mem hmem)) hne
  | edge =>
    rw [intStep_edge s hv.2.2]
    exact ⟨hv, hcount, hon⟩

theorem counted_intRun (st : DriverState UpperHandler) (hn : n < 256) {ops : List (IntOp E)}
    (hops : Machine.Guarded (intStep gpintDev) Follows (intBoot st n) ops) :
    Counted n (Machine.run (intStep gpintDev) (intBoot st n) ops).1 :=
  Machine.run_invariant_guarded (intStep gpintDev) (Counted n)
    (fun _ _ hc hop => counted_intStep hn hc hop) (counted_intBoot st n) hops

theorem Counted.of_nil (hc : Counted n s) (hnil : registered s.gp_signals = []) :
    s.register_count = 0 ∧ s.gpint.callback int0 = none ∧ s.gpint.handler (extiLine int0) = none := by
  obtain ⟨hv, hcount, hon⟩ := hc
  have hoff : s.gpint.handler (extiLine int0) ≠ some int0 := fun h => hon.mp h hnil
  refine ⟨?_, ?_⟩
  · rw [← UInt8.toNat_inj, hcount, hnil]
    rfl
  · rcases hv.2.2 with ⟨-, hh⟩ | hw
    · exact absurd hh hoff
    · exact hw

/-- While tasks follow the protocol, `register_count` is the number of registered tasks, and an
edge signals every registered task, and idles only when none is. -/
theorem intRun_follows (st : DriverState UpperHandler) (hn : n < 256) {ops : List (IntOp E)}
    (hops : Machine.Guarded (intStep gpintDev) Follows (intBoot st n) ops) :
    let s := (Machine.run (intStep gpintDev) (intBoot st n) ops).1
    s.register_count.toNat = (registered s.gp_signals).length ∧
      (intStep gpintDev s .edge).2 =
        if registered s.gp_signals = [] then .idle else .notified (gpio_handler s.gp_signals) := by
  intro s
  obtain ⟨hv, hcount, hon⟩ : Counted n s := counted_intRun st hn hops
  refine ⟨hcount, ?_⟩
  rw [intStep_edge s hv.2.2]
  by_cases h : registered s.gp_signals = []
  · rw [if_pos h, if_neg fun h' => hon.mp h' h]
  · rw [if_neg h, if_pos (hon.mpr h)]

/-- Tasks 1 and 2 register on a two-slot table and task 1 leaves: one registration is counted,
and an edge signals task 2. -/
theorem intRun_follows_two_tasks :
    let ops : List (IntOp Unit) :=
      [.GPIOC_REGISTER 1 (some ()), .GPIOC_REGISTER 2 (some ()), .GPIOC_UNREGISTER 1]
    let s := (Machine.run (intStep gpintDev) (intBoot (⟨GpintState.reset, [], []⟩ : DriverState UpperHandler) 2) ops).1
    Machine.Guarded (intStep gpintDev) Follows
        (intBoot (⟨GpintState.reset, [], []⟩ : DriverState UpperHandler) 2) ops ∧
      registered s.gp_signals = [2] ∧ s.register_count.toNat = 1 ∧
      (intStep gpintDev s .edge).2 = .notified [(2, some ())] := by
  intro ops s
  have hg : Machine.Guarded (intStep gpintDev) Follows
      (intBoot (⟨GpintState.reset, [], []⟩ : DriverState UpperHandler) 2) ops := by
    simp only [ops, Machine.Guarded, Follows]
    decide
  have hreg : registered s.gp_signals = [2] := by decide
  obtain ⟨hcount, hedge⟩ := intRun_follows _ (by decide) hg
  refine ⟨hg, hreg, by rw [hcount, hreg]; rfl, ?_⟩
  rw [hedge, if_neg (by rw [hreg]; simp)]
  exact congrArg IntOut.notified (by decide)

/-- `GPIOC_UNREGISTER` counts the `uint8_t` down from 0 as well. Wherever a protocol run leaves no
task registered, an unregistration from any task wraps the count to 255; the next task to
register gets a slot, but its registration finds the count positive and attaches nothing, so no
edge signals it. -/
theorem gpioc_unregister_wraps (st : DriverState UpperHandler) (hn : n < 256) (hslot : 0 < n)
    {ops : List (IntOp E)} (hops : Machine.Guarded (intStep gpintDev) Follows (intBoot st n) ops)
    (hnil : registered (Machine.run (intStep gpintDev) (intBoot st n) ops).1.gp_signals = [])
    {pid q : ℕ} (hpid : 0 < pid) (hq : 0 < q) (event : E) (k : ℕ) :
    let s := (Machine.run (intStep gpintDev) (intBoot st n) ops).1
    let r := Machine.run (intStep gpintDev) s
      (.GPIOC_UNREGISTER pid :: .GPIOC_REGISTER q (some event) :: List.replicate k .edge)
    (intStep gpintDev s (.GPIOC_UNREGISTER pid)).1.register_count = 255 ∧
      registered r.1.gp_signals = [q] ∧ r.2 = .ret OK :: .ret OK :: List.replicate k .idle := by
  intro s r
  have hnil : registered s.gp_signals = [] := hnil
  have hc : Counted n s := counted_intRun st hn hops
  obtain ⟨hzero, -, hh⟩ := hc.of_nil hnil
  have hp : Packed s.gp_signals := hc.1.1
  have h1 : intStep gpintDev s (.GPIOC_UNREGISTER pid) = (⟨s.gpint, 255, s.gp_signals⟩, .ret OK) := by
    rw [intStep, gpioc_unregister_eq, hzero, unregisterSignal_of_not_mem hp hpid (by simp [hnil])]
    rfl
  obtain ⟨sigs, hsome, hreg⟩ :
      ∃ sigs, storeSignal s.gp_signals q (some event) = some sigs ∧ registered sigs = [q] := by
    rcases registerSignal_spec hp hq event with ⟨-, -, hfull⟩ | ⟨sigs, hsome, -, -, hreg⟩
    · rw [hnil, hc.1.2.1, List.length_nil] at hfull
      omega
    · refine ⟨sigs, hsome, ?_⟩
      rw [hreg, hnil]
      rfl
  have h2 : intStep gpintDev ⟨s.gpint, 255, s.gp_signals⟩ (.GPIOC_REGISTER q (some event)) =
      (⟨s.gpint, 0, sigs⟩, .ret OK) := by
    rw [intStep, gpioc_register_of_some (⟨s.gpint, 255, s.gp_signals⟩ : IntDev E) hsome,
      if_neg (show (255 : UInt8) ≠ 0 by decide)]
    dsimp only
    rw [show (255 : UInt8) + 1 = 0 by decide]
  have hedges := run_edges_of_none (⟨s.gpint, 0, sigs⟩ : IntDev E) hc.1.2.2 hh k
  refine ⟨by rw [h1], ?_, ?_⟩
  · simp only [r, Machine.run_cons, h1, h2, hedges, hreg]
  · simp only [r, Machine.run_cons, h1, h2, hedges]

/-- Task 3 unregisters at boot, then task 1 registers on a one-slot table: the edge after it is
lost. -/
theorem gpioc_unregister_wraps_at_boot :
    Machine.Guarded (intStep gpintDev) Follows
        (intBoot (⟨GpintState.reset, [], []⟩ : DriverState UpperHandler) 1) ([] : List (IntOp Unit)) ∧
      (Machine.run (intStep gpintDev) (intBoot (⟨GpintState.reset, [], []⟩ : DriverState UpperHandler) 1)
        [.GPIOC_UNREGISTER 3, .GPIOC_REGISTER 1 (some ()), .edge]).2 = [.ret OK, .ret OK, .idle] := by
  have hg : Machine.Guarded (intStep gpintDev) Follows
      (intBoot (⟨GpintState.reset, [], []⟩ : DriverState UpperHandler) 1) ([] : List (IntOp Unit)) :=
    trivial
  have hpid : (0 : ℕ) < 3 := by decide
  have hq : (0 : ℕ) < 1 := by decide
  obtain ⟨-, -, hout⟩ := gpioc_unregister_wraps _ (by decide) (by decide) hg (by decide) hpid hq () 1
  exact ⟨hg, hout⟩

end Protocol

end NucleoH753zi.GpioFile
