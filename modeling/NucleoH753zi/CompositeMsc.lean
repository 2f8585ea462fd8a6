import NucleoH753zi.Composite
import NucleoH753zi.Steps

/-!
# The mass storage class object across connections

`composite_initialize` gets the class object of each member through the callback in its devdesc,
in order, and stops at the first negative return. For mass storage that is
`board_mscclassobject`: after `DEBUGASSERT(g_mschandle == NULL)` it configures one LUN, binds
`/dev/mmcsd0` and keeps the handle in `g_mschandle`, and on failure uninitializes the handle and
sets it back to `NULL`. `board_mscuninitialize` clears `g_mschandle` again.

A `session` connects configuration 0 and disconnects the handle it got. While `usbdev_register`
succeeds no assertion fails (`composite_sessions_never_assert`); when it fails,
`composite_initialize` returns `NULL` without uninitializing the members, `g_mschandle` stays
set, and the next connection fails the assertion (`composite_register_failure_blocks_reconnect`).
Handles are numbers; the traces, the descriptor sizes and `DEBUGASSERT(ndevices <=
NUM_DEVICES_TO_HANDLE)` (the board passes at most three devices) are left out.
-/

namespace NucleoH753zi.CompositeMsc

open Libc Steps Composite

/-- What the mass storage driver returns to one `board_mscclassobject`: `usbmsc_configure` either
fails with a negated errno, leaving `*handle` alone, or returns `OK` and sets the handle. -/
structure MscEnv where
  usbmsc_configure : Except ℤ ℕ
  usbmsc_bindlun : ℤ
  usbmsc_classobject : ℤ

/-- The value a call returned and the handle it gave to `usbmsc_uninitialize`, if any; or a
failed `DEBUGASSERT`. -/
inductive MscOut
  | ret (r : ℤ) (uninitialized : Option ℕ)
  | assertFailed
  deriving DecidableEq, Repr

/-- The state is `g_mschandle`, `none` for `NULL`. -/
def board_mscclassobject (env : MscEnv) (g_mschandle : Option ℕ) : Option ℕ × MscOut :=
  if g_mschandle.isSome then (g_mschandle, .assertFailed)
  else
    match env.usbmsc_configure with
    | .error ret => (g_mschandle, .ret ret none)
    | .ok handle =>
      if env.usbmsc_bindlun < 0 then (none, .ret env.usbmsc_bindlun (some handle))
      else if env.usbmsc_classobject < 0 then (none, .ret env.usbmsc_classobject (some handle))
      else (some handle, .ret env.usbmsc_classobject none)

/-- The new `g_mschandle` and the handle given to `usbmsc_uninitialize`, if any. -/
def board_mscuninitialize (g_mschandle : Option ℕ) : Option ℕ × Option ℕ :=
  (none, g_mschandle)

structure DriverEnv where
  /-- The allocation of the composite's own structures succeeds. -/
  kmm_malloc : Bool
  /-- The class objects of the RNDIS and CDC/ACM members. -/
  classobject : UsbClass → ℤ
  msc : MscEnv
  usbdev_register : ℤ

inductive ClassErr
  | ret (r : ℤ)
  | assertFailed
  deriving DecidableEq, Repr

def classErr (env : DriverEnv) (cls : UsbClass) : Option ClassErr :=
  if env.classobject cls < 0 then some (.ret (env.classobject cls)) else none

/-- `ret = devobj->compdesc.classobject(...)` for one member, then `if (ret < 0) goto
errout_with_alloc`. -/
def classobjectStep (env : DriverEnv) (g : Option ℕ) : UsbClass → Option ℕ × Option ClassErr
  | .usbmsc =>
    match board_mscclassobject env.msc g with
    | (g', .ret r _) => (g', if r < 0 then some (.ret r) else none)
    | (g', .assertFailed) => (g', some .assertFailed)
  | cls => (g, classErr env cls)

inductive InitOut
  | handle (members : List UsbClass)
  | null
  | assertFailed
  deriving DecidableEq, Repr

def composite_initialize (env : DriverEnv) (g : Option ℕ) (members : List UsbClass) :
    Option ℕ × InitOut :=
  if !env.kmm_malloc then (g, .null)
  else
    match runSteps (classobjectStep env) g members with
    | (g', some .assertFailed) => (g', .assertFailed)
    -- `errout_with_alloc` frees the composite's allocation; the class objects made so far stay
    | (g', some (.ret _)) => (g', .null)
    | (g', none) => if env.usbdev_register < 0 then (g', .null) else (g', .handle members)

def composite_uninitialize (g : Option ℕ) (members : List UsbClass) : Option ℕ :=
  members.foldl (fun g cls => if cls = .usbmsc then ( board_mscuninitialize g).1 else g) g

/-- What a session shows the application: connected (and later disconnected), `-EIO` from
`BOARDIOC_USBDEV_CONNECT`, or a failed `DEBUGASSERT`. -/
inductive SessionOut
  | connected
  | failed (ret : ℤ)
  | assertFailed
  deriving DecidableEq, Repr

/-- `BOARDIOC_USBDEV_CONNECT` of configuration `configid`, which returns `-EIO` for a `NULL`
handle, and `BOARDIOC_USBDEV_DISCONNECT` of the handle it returned. -/
def session (cfg : CompositeConfig) (cenv : CompositeEnv) (configid : ℤ) (g : Option ℕ)
    (env : DriverEnv) : Option ℕ × SessionOut :=
  match board_composite_connect cfg cenv configid with
  | .null => (g, .failed (-Libc.EIO))
  | .assertFailed => (g, .assertFailed)
  | .devices devs =>
    match composite_initialize env g (devs.map (·.2.cls)) with
    | (g', .handle members) => ( composite_uninitialize g' members, .connected)
    | (g', .null) => (g', .failed (-Libc.EIO))
    | (g', .assertFailed) => (g', .assertFailed)

/-! ## The board's callbacks -/

theorem board_mscclassobject_of_some (env : MscEnv) (h : ℕ) :
    board_mscclassobject env (some h) = (some h, .assertFailed) := rfl

theorem board_mscclassobject_failure_releases (env : MscEnv) {g : Option ℕ} {r : ℤ}
    {u : Option ℕ} (h : board_mscclassobject env none = (g, .ret r u)) (hr : r < 0) :
    g = none ∧ ∀ hd, env.usbmsc_configure = .ok hd → u = some hd := by
  obtain ⟨cfg, bind, cls⟩ := env
  cases cfg with
  | error e =>
    simp only [board_mscclassobject, Option.isSome_none, Bool.false_eq_true, if_false,
      Prod.mk.injEq] at h
    exact ⟨h.1.symm, fun _ hd => by cases hd⟩
  | ok hd =>
    simp only [board_mscclassobject, Option.isSome_none, Bool.false_eq_true, if_false] at h
    split_ifs at h with hb hc
    · simp only [Prod.mk.injEq, MscOut.ret.injEq] at h
      exact ⟨h.1.symm, fun _ he => by cases he; exact h.2.2.symm⟩
    · simp only [Prod.mk.injEq, MscOut.ret.injEq] at h
      exact ⟨h.1.symm, fun _ he => by cases he; exact h.2.2.symm⟩
    · -- the class object was made: the return value is not negative
      simp only [Prod.mk.injEq, MscOut.ret.injEq] at h
      omega

theorem board_mscclassobject_none_ne (env : MscEnv) :
    (board_mscclassobject env none).2 ≠ .assertFailed := by
  cases hc : env.usbmsc_configure with
  | error e => simp [board_mscclassobject, hc]
  | ok hd =>
    simp only [board_mscclassobject, hc, Option.isSome_none, Bool.false_eq_true, if_false]
    split_ifs <;> simp

theorem classobjectStep_usbmsc_none (env : DriverEnv) :
    (classobjectStep env none .usbmsc).2 ≠ some .assertFailed ∧
      ((classobjectStep env none .usbmsc).2.isSome → (classobjectStep env none .usbmsc).1 = none) := by
  rcases hb : board_mscclassobject env.msc none with ⟨g, out⟩
  cases out with
  | ret r u =>
    simp only [classobjectStep, hb]
    refine ⟨by split_ifs <;> simp, fun hr => ?_⟩
    have hneg : r < 0 := by by_contra hr'; simp [hr'] at hr
    exact (board_mscclassobject_failure_releases env.msc hb hneg).1
  | assertFailed => exact absurd (congrArg Prod.snd hb) (board_mscclassobject_none_ne env.msc)

theorem classobjectStep_of_ne (env : DriverEnv) (g : Option ℕ) {cls : UsbClass}
    (hcls : cls ≠ .usbmsc) : classobjectStep env g cls = (g, classErr env cls) := by
  cases cls with
  | usbmsc => exact absurd rfl hcls
  | _ => rfl

theorem runSteps_classobjectStep_of_not_mem (env : DriverEnv) (g : Option ℕ) {l : List UsbClass}
    (hl : .usbmsc ∉ l) : runSteps (classobjectStep env) g l = (g, l.findSome? (classErr env)) := by
  induction l with
  | nil => rfl
  | cons cls l ih =>
    have hcls : cls ≠ .usbmsc := fun h => hl (h ▸ List.mem_cons_self)
    have hstep := classobjectStep_of_ne env g hcls
    cases he : classErr env cls with
    | none =>
      rw [runSteps_cons_of_none _ l (by rw [hstep, he]), hstep, ih (fun h => hl (List.mem_cons_of_mem _ h)),
        List.findSome?_cons, he]
    | some e =>
      rw [runSteps_cons_of_some _ l (by rw [hstep, he]), hstep, List.findSome?_cons, he]

theorem classErr_ne_assertFailed (env : DriverEnv) (cls : UsbClass) :
    classErr env cls ≠ some .assertFailed := by
  unfold classErr; split_ifs <;> simp

theorem composite_uninitialize_eq_none {g : Option ℕ} {members : List UsbClass}
    (h : g = none ∨ .usbmsc ∈ members) : composite_uninitialize g members = none := by
  induction members generalizing g with
  | nil => simpa [ composite_uninitialize] using h
  | cons cls members ih =>
    simp only [ composite_uninitialize, List.foldl_cons] at ih ⊢
    apply ih
    by_cases hcls : cls = .usbmsc
    · simp [hcls, board_mscuninitialize]
    · simp only [hcls, if_false]
      simpa [Ne.symm hcls] using h

/-! ## One `composite_initialize` -/

theorem compositeClasses_split (cfg : CompositeConfig) :
    ∃ pre, .usbmsc ∉ pre ∧
      compositeClasses cfg = pre ++ (if cfg.USBMSC_COMPOSITE then [.usbmsc] else []) := by
  refine ⟨_, ?_, rfl⟩
  obtain ⟨r, c, m⟩ := cfg
  cases r <;> cases c <;> simp

theorem runSteps_classobjectStep_none (env : DriverEnv) (cfg : CompositeConfig) :
    let r := runSteps (classobjectStep env) none (compositeClasses cfg)
    r.2 ≠ some .assertFailed ∧ (r.2.isSome → r.1 = none) ∧ (r.1.isSome → cfg.USBMSC_COMPOSITE) := by
  obtain ⟨pre, hpre, hsplit⟩ := compositeClasses_split cfg
  have hrun := runSteps_classobjectStep_of_not_mem env none hpre
  rw [hsplit]
  cases he : pre.findSome? (classErr env) with
  | some e =>
    have hpre_err : (runSteps (classobjectStep env) none pre).2 = some e := by rw [hrun, he]
    rw [runSteps_append_of_some _ _ hpre_err, hrun, he]
    obtain ⟨cls, -, hcls⟩ := List.exists_of_findSome?_eq_some he
    exact ⟨fun h => classErr_ne_assertFailed env cls (by rw [hcls, Option.some_inj.mp h]),
      fun _ => rfl, fun h => by cases h⟩
  | none =>
    rw [runSteps_append_of_none _ _ (by rw [hrun, he]), hrun]
    cases hm : cfg.USBMSC_COMPOSITE with
    | false => exact ⟨by simp, fun h => by simp at h, fun h => by simp at h⟩
    | true =>
      obtain ⟨hne, hnone⟩ := classobjectStep_usbmsc_none env
      cases hs : (classobjectStep env none .usbmsc).2 with
      | none =>
        simp only [if_true, runSteps_cons_of_none _ [] hs, runSteps_nil]
        exact ⟨by simp, fun h => by simp at h, by simp⟩
      | some e =>
        simp only [if_true, runSteps_cons_of_some _ [] hs]
        exact ⟨hs ▸ hne, fun _ => hnone (by rw [hs]; rfl), by simp⟩

section Initialize

variable {env : DriverEnv} {g g' : Option ℕ} {members : List UsbClass}

theorem composite_initialize_of_malloc (hk : env.kmm_malloc = false) :
    composite_initialize env g members = (g, .null) := by
  simp [ composite_initialize, hk]

variable (hk : env.kmm_malloc = true)
include hk

theorem composite_initialize_of_ret {r : ℤ}
    (h : runSteps (classobjectStep env) g members = (g', some (.ret r))) :
    composite_initialize env g members = (g', .null) := by
  simp [ composite_initialize, hk, h]

theorem composite_initialize_of_assertFailed
    (h : runSteps (classobjectStep env) g members = (g', some .assertFailed)) :
    composite_initialize env g members = (g', .assertFailed) := by
  simp [ composite_initialize, hk, h]

theorem composite_initialize_of_none
    (h : runSteps (classobjectStep env) g members = (g', none)) :
    composite_initialize env g members =
      (g', if env.usbdev_register < 0 then .null else .handle members) := by
  simp only [ composite_initialize, hk, Bool.not_true, Bool.false_eq_true, if_false, h]
  split_ifs <;> rfl

end Initialize

/-- `composite_initialize` from `NULL`: no assertion fails, and `g_mschandle` stays `NULL` unless
mass storage is configured and either the composite came up with all its members or
`usbdev_register` failed. -/
theorem composite_initialize_none (env : DriverEnv) (cfg : CompositeConfig) :
    let r := composite_initialize env none (compositeClasses cfg)
    r.2 ≠ .assertFailed ∧
      (r.1 = none ∨ cfg.USBMSC_COMPOSITE ∧
        (r.2 = .handle (compositeClasses cfg) ∨ env.usbdev_register < 0)) := by
  obtain ⟨hne, herr, hmsc⟩ := runSteps_classobjectStep_none env cfg
  cases hk : env.kmm_malloc with
  | false => simp [composite_initialize_of_malloc hk]
  | true =>
    rcases hr : runSteps (classobjectStep env) none (compositeClasses cfg) with ⟨g', _ | e⟩
    · rw [hr] at hmsc
      rw [composite_initialize_of_none hk hr]
      by_cases hreg : env.usbdev_register < 0
      · rw [if_pos hreg]
        cases g' with
        | none => exact ⟨by simp, .inl rfl⟩
        | some _ => exact ⟨by simp, .inr ⟨hmsc rfl, .inr hreg⟩⟩
      · rw [if_neg hreg]
        cases g' with
        | none => exact ⟨by simp, .inl rfl⟩
        | some _ => exact ⟨by simp, .inr ⟨hmsc rfl, .inl rfl⟩⟩
    · rw [hr] at hne herr
      have hg : g' = none := herr rfl
      cases e with
      | ret r => exact ⟨by simp [composite_initialize_of_ret hk hr], .inl (by simp [composite_initialize_of_ret hk hr, hg])⟩
      | assertFailed => exact absurd rfl hne

/-! ## Sessions -/

section Session

variable {cfg : CompositeConfig} {cenv : CompositeEnv} {g g' : Option ℕ} {env : DriverEnv}

theorem session_of_ne_zero {configid : ℤ} (h : configid ≠ 0) :
    session cfg cenv configid g env = (g, .failed (-Libc.EIO)) := by
  simp [session, board_composite_connect, h]

theorem session_zero_of_handle {members : List UsbClass}
    (h : composite_initialize env g (compositeClasses cfg) = (g', .handle members)) :
    session cfg cenv 0 g env = ( composite_uninitialize g' members, .connected) := by
  simp [session, board_composite_connect_zero, map_cls_connectDevs, h]

theorem session_zero_of_null (h : composite_initialize env g (compositeClasses cfg) = (g', .null)) :
    session cfg cenv 0 g env = (g', .failed (-Libc.EIO)) := by
  simp [session, board_composite_connect_zero, map_cls_connectDevs, h]

theorem session_zero_of_assertFailed
    (h : composite_initialize env g (compositeClasses cfg) = (g', .assertFailed)) :
    session cfg cenv 0 g env = (g', .assertFailed) := by
  simp [session, board_composite_connect_zero, map_cls_connectDevs, h]

end Session

theorem session_none (cfg : CompositeConfig) (cenv : CompositeEnv) (configid : ℤ) (env : DriverEnv)
    (hreg : 0 ≤ env.usbdev_register) :
    (session cfg cenv configid none env).1 = none ∧ (session cfg cenv configid none env).2 ≠ .assertFailed := by
  by_cases hc : configid = 0
  · subst hc
    obtain ⟨hne, hcases⟩ := composite_initialize_none env cfg
    rcases hr : composite_initialize env none (compositeClasses cfg) with ⟨g', out⟩
    rw [hr] at hne hcases
    cases out with
    | handle members =>
      rw [session_zero_of_handle hr]
      refine ⟨composite_uninitialize_eq_none ?_, by simp⟩
      rcases hcases with h | ⟨hm, h | h⟩
      · exact .inl h
      · -- the composite came up with all the configured members, mass storage among them
        cases h
        exact .inr (by simp [compositeClasses, hm])
      · omega
    | null =>
      rw [session_zero_of_null hr]
      refine ⟨?_, by simp⟩
      rcases hcases with h | ⟨_, h | h⟩
      · exact h
      · cases h
      · omega
    | assertFailed => exact absurd rfl hne
  · rw [session_of_ne_zero hc]
    exact ⟨rfl, by simp⟩

theorem composite_sessions_never_assert (cfg : CompositeConfig) (cenv : CompositeEnv)
    (configid : ℤ) (envs : List DriverEnv) (hreg : ∀ e ∈ envs, 0 ≤ e.usbdev_register) :
    (Machine.run (session cfg cenv configid) none envs).1 = none ∧
      SessionOut.assertFailed ∉ (Machine.run (session cfg cenv configid) none envs).2 := by
  have hinv : ∀ g, ∀ e ∈ envs, g = none → (session cfg cenv configid g e).1 = none := by
    rintro g e he rfl
    exact (session_none cfg cenv configid e (hreg e he)).1
  refine ⟨Machine.run_invariant_of_mem _ (· = none) rfl hinv, fun hmem => ?_⟩
  obtain ⟨g, e, he, rfl, hout⟩ := Machine.mem_run_snd_of_mem _ (· = none) rfl hinv hmem
  exact (session_none cfg cenv configid e (hreg e he)).2 hout

theorem composite_sessions_never_assert_mixed :
    (Machine.run (session allClasses nuttxDevdescs 0) none
        [⟨true, fun _ => OK, ⟨.ok 1, OK, OK⟩, OK⟩, ⟨true, fun _ => OK, ⟨.ok 2, -ENODEV, OK⟩, OK⟩,
          ⟨false, fun _ => OK, ⟨.ok 3, OK, OK⟩, OK⟩]).1 = none ∧
      SessionOut.assertFailed ∉ (Machine.run (session allClasses nuttxDevdescs 0) none
        [⟨true, fun _ => OK, ⟨.ok 1, OK, OK⟩, OK⟩, ⟨true, fun _ => OK, ⟨.ok 2, -ENODEV, OK⟩, OK⟩,
          ⟨false, fun _ => OK, ⟨.ok 3, OK, OK⟩, OK⟩]).2 :=
  composite_sessions_never_assert _ _ _ _ (by simp [OK])

theorem runSteps_classobjectStep_of_nonneg {env : DriverEnv}
    (hcls : ∀ cls, cls ≠ .usbmsc → 0 ≤ env.classobject cls) (g : Option ℕ) {l : List UsbClass}
    (hl : .usbmsc ∉ l) : runSteps (classobjectStep env) g l = (g, none) := by
  rw [runSteps_classobjectStep_of_not_mem env g hl, List.findSome?_eq_none_iff.mpr]
  intro cls hmem
  have hpos := hcls cls (fun h => hl (h ▸ hmem))
  simp [classErr, Int.not_lt.mpr hpos]

theorem composite_register_failure_blocks_reconnect (cfg : CompositeConfig) (cenv : CompositeEnv)
    (hmsc : cfg.USBMSC_COMPOSITE = true) {e₁ e₂ : DriverEnv} {hd : ℕ}
    (hk₁ : e₁.kmm_malloc = true) (hcls₁ : ∀ cls, cls ≠ .usbmsc → 0 ≤ e₁.classobject cls)
    (hconf : e₁.msc.usbmsc_configure = .ok hd) (hbind : 0 ≤ e₁.msc.usbmsc_bindlun)
    (hobj : 0 ≤ e₁.msc.usbmsc_classobject) (hreg : e₁.usbdev_register < 0)
    (hk₂ : e₂.kmm_malloc = true) (hcls₂ : ∀ cls, cls ≠ .usbmsc → 0 ≤ e₂.classobject cls) :
    Machine.run (session cfg cenv 0) none [e₁, e₂] =
      (some hd, [.failed (-Libc.EIO), .assertFailed]) := by
  obtain ⟨pre, hpre, hsplit⟩ := compositeClasses_split cfg
  rw [hmsc, if_pos rfl] at hsplit
  -- the first connection: every class object is made, then usbdev_register fails
  have hmsc₁ : classobjectStep e₁ none .usbmsc = (some hd, none) := by
    simp [classobjectStep, board_mscclassobject, hconf, Int.not_lt.mpr hbind, Int.not_lt.mpr hobj]
  have hrun₁ : runSteps (classobjectStep e₁) none (compositeClasses cfg) = (some hd, none) := by
    rw [hsplit, runSteps_append_of_none _ _ (by rw [runSteps_classobjectStep_of_nonneg hcls₁ _ hpre]),
      runSteps_classobjectStep_of_nonneg hcls₁ _ hpre, runSteps_singleton, hmsc₁]
  have hinit₁ : composite_initialize e₁ none (compositeClasses cfg) = (some hd, .null) := by
    rw [composite_initialize_of_none hk₁ hrun₁, if_pos hreg]
  -- the second connection reaches `board_mscclassobject` with the handle still set
  have hrun₂ : runSteps (classobjectStep e₂) (some hd) (compositeClasses cfg) =
      (some hd, some .assertFailed) := by
    rw [hsplit, runSteps_append_of_none _ _ (by rw [runSteps_classobjectStep_of_nonneg hcls₂ _ hpre]),
      runSteps_classobjectStep_of_nonneg hcls₂ _ hpre, runSteps_singleton]
    simp [classobjectStep, board_mscclassobject_of_some]
  have hinit₂ := composite_initialize_of_assertFailed hk₂ hrun₂
  simp [Machine.run_cons, session_zero_of_null hinit₁, session_zero_of_assertFailed hinit₂]

theorem composite_register_failure_blocks_reconnect_enomem :
    Machine.run (session allClasses nuttxDevdescs 0) none
        [⟨true, fun _ => OK, ⟨.ok 3, OK, OK⟩, -ENOMEM⟩, ⟨true, fun _ => OK, ⟨.ok 4, OK, OK⟩, OK⟩] =
      (some 3, [.failed (-Libc.EIO), .assertFailed]) :=
  composite_register_failure_blocks_reconnect allClasses nuttxDevdescs rfl rfl
    (fun _ _ => Int.le_refl _) rfl (Int.le_refl _) (Int.le_refl _) (by decide) rfl (fun _ _ => Int.le_refl _)

end NucleoH753zi.CompositeMsc
