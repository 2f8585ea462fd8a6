import NucleoH753zi.Machine
import NucleoH753zi.Libc
import Mathlib.Data.List.Nodup
import Mathlib.Algebra.Order.BigOperators.Group.List
import Mathlib.Algebra.Order.Group.Nat

/-!
# Numbering of the USB composite device

`board_composite0_connect` (`stm32_composite.c`) fills one `composite_devdesc_s` for each class
driver whose `CONFIG_*_COMPOSITE` is set, in the order RNDIS, CDC/ACM, mass storage. Each gets the
next free interface numbers (from 0), string numbers (from `COMPOSITE_NSTRIDS`) and endpoints:
every entry of its `epno` takes `epin++` or `epout++`, both from 1, endpoint 0 being the control
endpoint. The devices go into `dev[dev_idx++]`, and two `DEBUGASSERT`s check that the endpoint
counters stay below `STM32_NENDPOINTS`.

Each counter is an instance of `Machine.Issues`, so for whatever counts the class drivers report
every number is handed out once and without gaps (`board_composite0_connect_numbering`,
`board_composite0_connect_endpoints`), and both assertions hold (`board_composite0_connect_eq`).
The callbacks a devdesc carries are in `CompositeMsc`; the unused `port` argument is left out.
-/

namespace NucleoH753zi.Composite

def COMPOSITE_NSTRIDS : ℕ := 5
/-- The endpoints of the OTG FS device controller (`stm32_otg.h`). -/
def STM32_NENDPOINTS : ℕ := 7

structure CompositeConfig where
  RNDIS_COMPOSITE : Bool
  CDCACM_COMPOSITE : Bool
  USBMSC_COMPOSITE : Bool
  deriving DecidableEq, Repr

inductive UsbClass
  | rndis
  | cdcacm
  | usbmsc
  deriving DecidableEq, Repr

inductive EpDir
  | epin
  | epout
  deriving DecidableEq, Repr

/-- The entries of `devinfo.epno` the board fills, in index order, which is also the order of the
assignments: `RNDIS_EP_INTIN_IDX`, `RNDIS_EP_BULKIN_IDX`, `RNDIS_EP_BULKOUT_IDX`, the same three for
CDC/ACM, and `USBMSC_EP_BULKIN_IDX`, `USBMSC_EP_BULKOUT_IDX`. -/
def UsbClass.epDirs : UsbClass → List EpDir
  | .rndis => [.epin, .epin, .epout]
  | .cdcacm => [.epin, .epin, .epout]
  | .usbmsc => [.epin, .epout]

structure DevinfoCounts where
  ninterfaces : ℕ
  nstrings : ℕ
  deriving DecidableEq, Repr

/-- `usbdev_rndis_get_composite_devdesc`, `cdcacm_get_composite_devdesc` and
`usbmsc_get_composite_devdesc`, as far as the board reads them. -/
structure CompositeEnv where
  get_composite_devdesc : UsbClass → DevinfoCounts

/-- The fields of `struct composite_devdesc_s` the board sets or reads; `cls` stands for the
class driver the devdesc was filled by. -/
structure composite_devdesc_s where
  cls : UsbClass
  ifnobase : ℕ
  ninterfaces : ℕ
  strbase : ℕ
  nstrings : ℕ
  epno : List ℕ
  minor : ℕ
  deriving DecidableEq, Repr

structure Counters where
  ifnobase : ℕ
  strbase : ℕ
  dev_idx : ℕ
  epin : ℕ
  epout : ℕ
  deriving DecidableEq, Repr

def Counters.init : Counters where
  ifnobase := 0
  strbase := COMPOSITE_NSTRIDS
  dev_idx := 0
  epin := 1
  epout := 1

def Counters.ep (c : Counters) : EpDir → ℕ
  | .epin => c.epin
  | .epout => c.epout

/-- `epno[idx] = epin++` or `epno[idx] = epout++`. -/
def takeEp (c : Counters) : EpDir → Counters × ℕ
  | .epin => ({ c with epin := c.epin + 1 }, c.epin)
  | .epout => ({ c with epout := c.epout + 1 }, c.epout)

/-- One `#ifdef CONFIG_*_COMPOSITE` block: fill `dev[dev_idx]` for the class and count up the
bases. The output is the index written and the devdesc. -/
def addDev (env : CompositeEnv) (c : Counters) (cls : UsbClass) :
    Counters × (ℕ × composite_devdesc_s) :=
  let info := env.get_composite_devdesc cls
  let eps := Machine.run takeEp c cls.epDirs
  ({ eps.1 with
      ifnobase := c.ifnobase + info.ninterfaces
      strbase := c.strbase + info.nstrings
      dev_idx := c.dev_idx + 1 },
    (c.dev_idx,
      { cls, ifnobase := c.ifnobase, ninterfaces := info.ninterfaces, strbase := c.strbase,
        nstrings := info.nstrings, epno := eps.2, minor := 0 }))

def compositeClasses (cfg : CompositeConfig) : List UsbClass :=
  (if cfg.RNDIS_COMPOSITE then [.rndis] else []) ++
    (if cfg.CDCACM_COMPOSITE then [.cdcacm] else []) ++
    (if cfg.USBMSC_COMPOSITE then [.usbmsc] else [])

/-- What `board_composite_connect` leads to: the call `composite_initialize` with the entries
`dev[0]`, ..., `dev[dev_idx - 1]` (each with the index it was written at), `NULL`, or a failed
`DEBUGASSERT`. -/
inductive ConnectOut
  | devices (devs : List (ℕ × composite_devdesc_s))
  | null
  | assertFailed
  deriving DecidableEq, Repr

def board_composite0_connect (cfg : CompositeConfig) (env : CompositeEnv) : ConnectOut :=
  let r := Machine.run (addDev env) Counters.init (compositeClasses cfg)
  if r.1.epin < STM32_NENDPOINTS ∧ r.1.epout < STM32_NENDPOINTS then .devices r.2
  else .assertFailed

def board_composite_connect (cfg : CompositeConfig) (env : CompositeEnv) (configid : ℤ) :
    ConnectOut :=
  if configid = 0 then board_composite0_connect cfg env else .null

/-! ## What each counter issues -/

def composite_devdesc_s.eps (dev : composite_devdesc_s) (d : EpDir) : List ℕ :=
  (dev.cls.epDirs.zip dev.epno).flatMap (fun p => if p.1 = d then [p.2] else [])

def UsbClass.nep (cls : UsbClass) (d : EpDir) : ℕ :=
  (cls.epDirs.map (fun e => if e = d then 1 else 0)).sum

theorem takeEp_issues (d : EpDir) :
    Machine.Issues takeEp (·.ep d) (fun e => if e = d then 1 else 0)
      (fun e n => if e = d then [n] else []) := by
  intro c e
  cases e <;> cases d <;> simp [takeEp, Counters.ep]

theorem addDev_issues_ep (env : CompositeEnv) (d : EpDir) :
    Machine.Issues (addDev env) (·.ep d) (·.nep d) (fun _ o => o.2.eps d) := by
  intro c cls
  have hrun := (takeEp_issues d).run_snd c cls.epDirs
  have hfst := (takeEp_issues d).run_fst c cls.epDirs
  have hep : ∀ (c' : Counters) a b k, ({ c' with ifnobase := a, strbase := b, dev_idx := k } : Counters).ep d = c'.ep d := by
    intro c' a b k; cases d <;> rfl
  exact ⟨hrun, by simp only [addDev, hep, hfst, UsbClass.nep]⟩

theorem addDev_issues_ifnobase (env : CompositeEnv) :
    Machine.Issues (addDev env) Counters.ifnobase (env.get_composite_devdesc · |>.ninterfaces)
      (fun _ o => List.range' o.2.ifnobase o.2.ninterfaces) :=
  fun _ _ => ⟨rfl, rfl⟩

theorem addDev_issues_strbase (env : CompositeEnv) :
    Machine.Issues (addDev env) Counters.strbase (env.get_composite_devdesc · |>.nstrings)
      (fun _ o => List.range' o.2.strbase o.2.nstrings) :=
  fun _ _ => ⟨rfl, rfl⟩

theorem ite_sublist_singleton (b : Bool) (c : UsbClass) : List.Sublist (if b then [c] else []) [c] := by
  cases b with
  | false => exact List.nil_sublist _
  | true => exact List.Sublist.refl _

theorem sum_nep_compositeClasses_le (cfg : CompositeConfig) (d : EpDir) :
    ((compositeClasses cfg).map (·.nep d)).sum ≤ 5 := by
  have hsub : List.Sublist (compositeClasses cfg) ([.rndis] ++ [.cdcacm] ++ [.usbmsc]) :=
    ((ite_sublist_singleton _ _).append (ite_sublist_singleton _ _)).append (ite_sublist_singleton _ _)
  have hall : (([.rndis] ++ [.cdcacm] ++ [.usbmsc] : List UsbClass).map (·.nep d)).sum ≤ 5 := by
    cases d with
    | epin => decide
    | epout => decide
  exact ((hsub.map _).sum_le_sum fun _ _ => Nat.zero_le _).trans hall

/-! ## Every configuration -/

section Connect

variable (cfg : CompositeConfig) (env : CompositeEnv)

/-- The entries `board_composite0_connect` fills, whether or not its assertions hold. -/
def connectDevs : List (ℕ × composite_devdesc_s) :=
  (Machine.run (addDev env) Counters.init (compositeClasses cfg)).2

theorem run_addDev_ep (d : EpDir) :
    (Machine.run (addDev env) Counters.init (compositeClasses cfg)).1.ep d =
      1 + ((compositeClasses cfg).map (·.nep d)).sum := by
  rw [(addDev_issues_ep env d).run_fst]
  cases d <;> rfl

theorem board_composite0_connect_eq : board_composite0_connect cfg env = .devices (connectDevs cfg env) := by
  have hin := run_addDev_ep cfg env .epin
  have hout := run_addDev_ep cfg env .epout
  have hin_le := sum_nep_compositeClasses_le cfg .epin
  have hout_le := sum_nep_compositeClasses_le cfg .epout
  simp only [Counters.ep] at hin hout
  -- at most five endpoints of either direction after endpoint 0, and `STM32_NENDPOINTS` is 7
  have hasserts : (Machine.run (addDev env) Counters.init (compositeClasses cfg)).1.epin < STM32_NENDPOINTS ∧
      (Machine.run (addDev env) Counters.init (compositeClasses cfg)).1.epout < STM32_NENDPOINTS := by
    simp only [STM32_NENDPOINTS]; omega
  simp only [board_composite0_connect, connectDevs]
  rw [if_pos hasserts]

theorem eq_connectDevs {devs : List (ℕ × composite_devdesc_s)}
    (h : board_composite0_connect cfg env = .devices devs) : devs = connectDevs cfg env := by
  rw [board_composite0_connect_eq] at h
  injection h with h
  exact h.symm

theorem board_composite_connect_zero :
    board_composite_connect cfg env 0 = .devices (connectDevs cfg env) := by
  rw [board_composite_connect, if_pos rfl, board_composite0_connect_eq]

theorem map_cls_connectDevs : (connectDevs cfg env).map (·.2.cls) = compositeClasses cfg :=
  Machine.map_run_snd _ (fun _ _ => rfl) _ _

end Connect

/-- The counts of the NuttX class drivers with their default options: `RNDIS_NINTERFACES`,
`CDCACM_NINTERFACES` and `USBMSC_NINTERFACES` interfaces, and one string, the mass storage
interface's. -/
def nuttxDevdescs : CompositeEnv where
  get_composite_devdesc
    | .rndis => ⟨2, 0⟩
    | .cdcacm => ⟨2, 0⟩
    | .usbmsc => ⟨1, 1⟩

def allClasses : CompositeConfig := ⟨true, true, true⟩

theorem board_composite0_connect_numbering (cfg : CompositeConfig) (env : CompositeEnv)
    {devs : List (ℕ × composite_devdesc_s)} (h : board_composite0_connect cfg env = .devices devs) :
    devs.flatMap (fun o => List.range' o.2.ifnobase o.2.ninterfaces) =
        List.range' 0 ((compositeClasses cfg).map (env.get_composite_devdesc · |>.ninterfaces)).sum ∧
      devs.flatMap (fun o => List.range' o.2.strbase o.2.nstrings) =
        List.range' COMPOSITE_NSTRIDS
          ((compositeClasses cfg).map (env.get_composite_devdesc · |>.nstrings)).sum := by
  rw [eq_connectDevs cfg env h]
  exact ⟨(addDev_issues_ifnobase env).flatMap_run_snd _ _,
    (addDev_issues_strbase env).flatMap_run_snd _ _⟩

theorem board_composite0_connect_numbering_all :
    ∃ devs, board_composite0_connect allClasses nuttxDevdescs = .devices devs ∧
      devs.flatMap (fun o => List.range' o.2.ifnobase o.2.ninterfaces) = List.range' 0 5 ∧
      devs.flatMap (fun o => List.range' o.2.strbase o.2.nstrings) = List.range' 5 1 :=
  ⟨_, rfl, board_composite0_connect_numbering allClasses nuttxDevdescs rfl⟩

end NucleoH753zi.Composite
