/-
  ExynosHal/MppAssociation.lean
  =============================
  **Which sources an MPP has, over all displays.**

  An MPP lists its sources and a source names its MPPs.  The displays take turns:
  each asks `isAssignable`, assigns, and releases again, and both sides are reset
  by functions that know one side only.  The sides are two associations, one for
  each type of MPP, and every call is an operation on them; what a one-sided reset
  leaves is on record there.

  Capacity is the answer `hasEnoughCapa` of each check.  The exynos target names the
  M2M MPP that composes it and is no source of it, so that link is not tracked.
-/
import ExynosHal.Association
import ExynosHal.TransitionSystem
import ExynosHal.ValidateFallback

namespace ExynosHal.MppAssociation

open Function (update)
open ExynosHal.Assignment (MppId)
open ExynosHal.TransitionSystem
open ExynosHal.ValidateFallback (Device Display ExynosMPP Layer MPPSource unlink)

/-! ### The calls -/

/-- `mMPPType`. -/
inductive MPPType where
  | otf
  | m2m
deriving DecidableEq, Repr

def mppType (dev : Device) (m : MppId) : Option MPPType :=
  if m ∈ dev.otfMPPs then some .otf else if m ∈ dev.m2mMPPs then some .m2m else none

/-- `ExynosMPP::assignMPP`; an MPP of another type is marked before the error. -/
def assignMPP (m : MppId) (x : MPPSource) (dev : Device) : Device :=
  match mppType dev m with
  | some .otf =>
      { dev with
        mpp := update dev.mpp m ((dev.mpp m).add dev.zOrder x)
        otfMPP := update dev.otfMPP x (some m) }
  | some .m2m =>
      { dev with
        mpp := update dev.mpp m ((dev.mpp m).add dev.zOrder x)
        m2mMPP := update dev.m2mMPP x (some m) }
  | none => { dev with mpp := update dev.mpp m { dev.mpp m with assigned := true } }

/-- `ExynosMPP::resetMPP`: the state is `MPP_ASSIGN_STATE_FREE` again, the sources are
    not told. -/
def resetMPP (m : MppId) (dev : Device) : Device :=
  { dev with
    mpp := update dev.mpp m { dev.mpp m with
      assigned := false
      reserved := none
      assignedDisplay := none
      assignedSources := [] } }

/-- `ExynosMPP::reserveMPP`. -/
def reserveMPP (m : MppId) (k : Nat) (dev : Device) : Device :=
  { dev with mpp := update dev.mpp m { dev.mpp m with reserved := some k } }

/-- `ExynosLayer::resetValidateData`: the MPPs are not told. -/
def resetValidateData (k i : Nat) (dev : Device) : Device :=
  { dev.onDisplay k (·.setLayer i fun l =>
      { l with
        validateCompositionType := .invalid
        resourceAssignFail := false
        sandwitchedBetweenGLES := false }) with
    otfMPP := update dev.otfMPP ⟨k, .layer i⟩ none
    m2mMPP := update dev.m2mMPP ⟨k, .layer i⟩ none }

/-- What the displays do with the MPPs, and what changes beside it. -/
inductive Call where
  /-- Display `k` asks for MPP `m`. -/
  | isAssignable (m : MppId) (k : Nat) (hasEnoughCapa : Bool)
  | assignMPP (m : MppId) (x : MPPSource)
  | resetAssignedState (m : MppId)
  | resetAssignedStateOf (m : MppId) (x : MPPSource)
  | resetAssignedResource (k i : Nat)
  | resetMPP (m : MppId)
  | reserveMPP (m : MppId) (k : Nat)
  | resetValidateData (k i : Nat)
  | initializeClient (k : Nat)
  | initializeExynos (k : Nat)
  | hardwareState (m : MppId) (hwIdle : Bool) (prevAssignedDisplayType : Int)
      (disableByUserScenario : Bool)
  | setZOrder (x : MPPSource) (zOrder : Nat)
deriving DecidableEq, Repr

def Call.exec (dev : Device) : Call → Device
  | .isAssignable _ _ _ => dev
  | .assignMPP m x => MppAssociation.assignMPP m x dev
  | .resetAssignedState m => dev.resetAssignedState m
  | .resetAssignedStateOf m x => dev.resetAssignedStateOf m x
  | .resetAssignedResource k i => dev.resetAssignedResource ⟨k, .layer i⟩
  | .resetMPP m => MppAssociation.resetMPP m dev
  | .reserveMPP m k => MppAssociation.reserveMPP m k dev
  | .resetValidateData k i => MppAssociation.resetValidateData k i dev
  | .initializeClient k => dev.initializeClient k
  | .initializeExynos k => dev.initializeExynos k
  | .hardwareState m hwIdle prevAssignedDisplayType disableByUserScenario =>
      { dev with
        mpp := update dev.mpp m { dev.mpp m with
          hwIdle, prevAssignedDisplayType, disableByUserScenario } }
  | .setZOrder x zOrder => { dev with zOrder := update dev.zOrder x zOrder }

/-- `ExynosMPP::isAssignable`. -/
def isAssignable (dev : Device) (m : MppId) (k : Nat) (hasEnoughCapa : Bool) : Bool :=
  (dev.mpp m).isAssignableState k (dev.display k).type && hasEnoughCapa

/-! ### What is recorded of a run -/

/-- The device, with what the displays have been told and the two associations. -/
structure Session where
  dev : Device
  /-- A display was told that it can take the MPP, which was not assigned since. -/
  granted : List (MppId × Nat)
  otf : Association MPPSource MppId
  m2m : Association MPPSource MppId

def Call.grants (dev : Device) (granted : List (MppId × Nat)) : Call → List (MppId × Nat)
  | .isAssignable m k hasEnoughCapa =>
      if MppAssociation.isAssignable dev m k hasEnoughCapa then (m, k) :: granted else granted
  | .assignMPP m _ => granted.filter (·.1 ≠ m)
  | _ => granted

/-- The call on the association with the OTF MPPs. -/
def Call.onOtf (dev : Device) (a : Association MPPSource MppId) :
    Call → Association MPPSource MppId
  | .assignMPP m x => if mppType dev m = some .otf then a.attach m x else a
  | .resetAssignedState m => a.detachAll m
  | .resetAssignedStateOf m x => a.forget m x
  | .resetAssignedResource k i =>
      let a := match dev.m2mMPP ⟨k, .layer i⟩ with
        | none => a
        | some m => a.forget m ⟨k, .layer i⟩
      match dev.otfMPP ⟨k, .layer i⟩ with
      | none => a
      | some m => (a.detachAll m).clear ⟨k, .layer i⟩
  | .resetMPP m => a.forgetAll m
  | .resetValidateData k i => a.clear ⟨k, .layer i⟩
  | .initializeClient k => a.clear ⟨k, .client⟩
  | .initializeExynos k => a.clear ⟨k, .exynos⟩
  | _ => a

/-- The call on the association with the M2M MPPs. -/
def Call.onM2m (dev : Device) (a : Association MPPSource MppId) :
    Call → Association MPPSource MppId
  | .assignMPP m x => if mppType dev m = some .m2m then a.attach m x else a
  | .resetAssignedState m => a.detachAll m
  | .resetAssignedStateOf m x => a.detach m x
  | .resetAssignedResource k i =>
      let a := match dev.m2mMPP ⟨k, .layer i⟩ with
        | none => a
        | some m => (a.detach m ⟨k, .layer i⟩).clear ⟨k, .layer i⟩
      match dev.otfMPP ⟨k, .layer i⟩ with
      | none => a
      | some m => a.detachAll m
  | .resetMPP m => a.forgetAll m
  | .resetValidateData k i => a.clear ⟨k, .layer i⟩
  | _ => a

def Session.next (s : Session) (c : Call) : Session where
  dev := c.exec s.dev
  granted := c.grants s.dev s.granted
  otf := c.onOtf s.dev s.otf
  m2m := c.onM2m s.dev s.m2m

/-- No MPP has a source and no source an MPP. -/
def Session.start (dev : Device) : Session := ⟨dev, [], .empty, .empty⟩

/-- The device before anything is assigned. -/
structure Unassigned (dev : Device) : Prop where
  room : ∀ m, 0 < (dev.mpp m).maxSrcLayerNum
  free : ∀ m, (dev.mpp m).assigned = false
  sources : ∀ m, (dev.mpp m).assignedSources = []
  otfMPP : ∀ x, dev.otfMPP x = none
  m2mMPP : ∀ x : MPPSource, x.place ≠ .exynos → dev.m2mMPP x = none

/-- The source has no MPP of the type of `m`; only layers go to an M2M MPP. -/
def HasNone (dev : Device) (m : MppId) (x : MPPSource) : Prop :=
  match mppType dev m with
  | some .otf => dev.otfMPP x = none
  | some .m2m => dev.m2mMPP x = none ∧ x.place ≠ .client ∧ x.place ≠ .exynos
  | none => True

instance (dev : Device) (m : MppId) (x : MPPSource) : Decidable (HasNone dev m x) := by
  unfold HasNone
  split <;> infer_instance

/-- How the resource manager uses the MPPs: a display takes an MPP behind a check that
    succeeded, for a source that has no MPP of that type, and MPPs are reserved when
    nothing is assigned. -/
def Session.Meets (s : Session) : Call → Prop
  | .assignMPP m x =>
      (m, x.display) ∈ s.granted ∧ x ∉ (s.dev.mpp m).assignedSources ∧ HasNone s.dev m x
  | .reserveMPP m _ => (s.dev.mpp m).assignedSources = [] ∧ ∀ p ∈ s.granted, p.1 ≠ m
  | _ => True

/-! ### What a call does to the sources -/

section Sources

variable {dev : Device} {m m' : MppId} {x y : MPPSource}

theorem resetSource_sources (p : ExynosMPP) (x : MPPSource) :
    (p.resetSource x).assignedSources.Perm (p.assignedSources.erase x) := by
  have hperm : ((p.assignedSources.reverse.erase x).reverse).Perm (p.assignedSources.erase x) :=
    (List.reverse_perm _).trans ((List.reverse_perm _).erase x)
  unfold ExynosMPP.resetSource
  dsimp only
  split
  · exact hperm
  · exact hperm

end Sources

/-! ### The associations are those of the device -/

/-- The lists and links of the device are those of the two associations, each of
    which has the MPPs of its type. -/
structure Tracks (s : Session) : Prop where
  otf : s.otf.Consistent
  m2m : s.m2m.Consistent
  sources : ∀ m, (s.dev.mpp m).assignedSources.Perm (s.otf.items m ++ s.m2m.items m)
  otfMPP : ∀ x, s.dev.otfMPP x = s.otf.link x
  m2mMPP : ∀ x : MPPSource, x.place ≠ .exynos → s.dev.m2mMPP x = s.m2m.link x
  otfType : ∀ x m, s.otf.link x = some m ∨ x ∈ s.otf.items m → mppType s.dev m = some .otf
  m2mType : ∀ x m, s.m2m.link x = some m ∨ x ∈ s.m2m.items m →
    mppType s.dev m = some .m2m ∧ x.place ≠ .client ∧ x.place ≠ .exynos

namespace Tracks

variable {s : Session} {m : MppId} {x : MPPSource} {k i : Nat}

theorem otf_nil (h : Tracks s) (hm : mppType s.dev m ≠ some .otf) : s.otf.items m = [] :=
  List.eq_nil_iff_forall_not_mem.mpr fun x hx => hm (h.otfType x m (.inr hx))

theorem m2m_nil (h : Tracks s) (hm : mppType s.dev m ≠ some .m2m) : s.m2m.items m = [] :=
  List.eq_nil_iff_forall_not_mem.mpr fun x hx => hm (h.m2mType x m (.inr hx)).1

theorem mem_iff (h : Tracks s) :
    x ∈ (s.dev.mpp m).assignedSources ↔ x ∈ s.otf.items m ∨ x ∈ s.m2m.items m :=
  (h.sources m).mem_iff.trans List.mem_append

/-- A call that leaves the association alone. -/
theorem frame (h : Tracks s) {dev : Device} {granted : List (MppId × Nat)}
    (hmpp : ∀ m, (dev.mpp m).assignedSources = (s.dev.mpp m).assignedSources)
    (hotf : dev.otfMPP = s.dev.otfMPP) (hm2m : dev.m2mMPP = s.dev.m2mMPP)
    (hotfs : dev.otfMPPs = s.dev.otfMPPs) (hm2ms : dev.m2mMPPs = s.dev.m2mMPPs) :
    Tracks ⟨dev, granted, s.otf, s.m2m⟩ := by
  have htype : ∀ m, mppType dev m = mppType s.dev m := by
    intro m
    simp only [mppType, hotfs, hm2ms]
  constructor
  · exact h.otf
  · exact h.m2m
  · intro m
    rw [hmpp]
    exact h.sources m
  · intro x
    rw [hotf]
    exact h.otfMPP x
  · intro x hx
    rw [hm2m]
    exact h.m2mMPP x hx
  · intro x m hx
    rw [htype]
    exact h.otfType x m hx
  · intro x m hx
    rw [htype]
    exact h.m2mType x m hx

/-- A call that takes pairs away. -/
theorem shrink (h : Tracks s) {s' : Session} (hotfs : s'.dev.otfMPPs = s.dev.otfMPPs)
    (hm2ms : s'.dev.m2mMPPs = s.dev.m2mMPPs) (hotf : s'.otf.Consistent) (hm2m : s'.m2m.Consistent)
    (hotf' : s.otf.Shrinks s'.otf) (hm2m' : s.m2m.Shrinks s'.m2m)
    (hsources : ∀ m, (s'.dev.mpp m).assignedSources.Perm (s'.otf.items m ++ s'.m2m.items m))
    (hotfMPP : ∀ x, s'.dev.otfMPP x = s'.otf.link x)
    (hm2mMPP : ∀ x : MPPSource, x.place ≠ .exynos → s'.dev.m2mMPP x = s'.m2m.link x) :
    Tracks s' := by
  have htype : ∀ m, mppType s'.dev m = mppType s.dev m := by
    intro m
    simp only [mppType, hotfs, hm2ms]
  refine ⟨hotf, hm2m, hsources, hotfMPP, hm2mMPP, ?_, ?_⟩
  · intro x m hx
    rw [htype]
    exact h.otfType x m (hx.imp (hotf'.link x m) (hotf'.items x m))
  · intro x m hx
    rw [htype]
    exact h.m2mType x m (hx.imp (hm2m'.link x m) (hm2m'.items x m))

/-- What `resetAssignedState` does to the links of one type. -/
theorem unlink_eq {a : Association MPPSource MppId} {link : MPPSource → Option MppId}
    {sources : List MPPSource} (hlink : link x = a.link x)
    (hx : a.link x = some m → (x ∈ sources ↔ x ∈ a.items m)) :
    unlink m sources link x = (a.detachAll m).link x := by
  unfold unlink
  simp only [Association.detachAll, hlink]
  by_cases h : a.link x = some m
  · simp [h, hx h]
  · simp [h]

theorem mem_otf (h : Tracks s) (hx : s.otf.link x = some m) :
    x ∈ (s.dev.mpp m).assignedSources ↔ x ∈ s.otf.items m := by
  have htype := h.otfType x m (.inl hx)
  have hnil : s.m2m.items m = [] := h.m2m_nil (by rw [htype]; exact nofun)
  rw [h.mem_iff, hnil]
  simp

theorem mem_m2m (h : Tracks s) (hx : s.m2m.link x = some m) :
    x ∈ (s.dev.mpp m).assignedSources ↔ x ∈ s.m2m.items m := by
  have htype := (h.m2mType x m (.inl hx)).1
  have hnil : s.otf.items m = [] := h.otf_nil (by rw [htype]; exact nofun)
  rw [h.mem_iff, hnil]
  simp

theorem resetAssignedState (h : Tracks s) (m : MppId) (granted : List (MppId × Nat)) :
    Tracks ⟨s.dev.resetAssignedState m, granted, s.otf.detachAll m, s.m2m.detachAll m⟩ := by
  apply h.shrink
  · rfl
  · rfl
  · exact h.otf.detachAll m
  · exact h.m2m.detachAll m
  · exact s.otf.detachAll_shrinks m
  · exact s.m2m.detachAll_shrinks m
  · intro m'
    rcases eq_or_ne m' m with rfl | hm
    · simp [Device.resetAssignedState, ExynosMPP.reset, Association.detachAll]
    · simpa [Device.resetAssignedState, Association.detachAll, hm] using h.sources m'
  · intro x
    exact unlink_eq (h.otfMPP x) h.mem_otf
  · intro x hx
    exact unlink_eq (h.m2mMPP x hx) h.mem_m2m

theorem resetMPP (h : Tracks s) (m : MppId) (granted : List (MppId × Nat)) :
    Tracks ⟨MppAssociation.resetMPP m s.dev, granted, s.otf.forgetAll m, s.m2m.forgetAll m⟩ := by
  apply h.shrink
  · rfl
  · rfl
  · exact h.otf.forgetAll m
  · exact h.m2m.forgetAll m
  · exact s.otf.forgetAll_shrinks m
  · exact s.m2m.forgetAll_shrinks m
  · intro m'
    rcases eq_or_ne m' m with rfl | hm
    · simp [MppAssociation.resetMPP, Association.forgetAll]
    · simpa [MppAssociation.resetMPP, Association.forgetAll, hm] using h.sources m'
  · exact h.otfMPP
  · exact h.m2mMPP

theorem erase_sources (h : Tracks s) (m : MppId) (x : MPPSource) :
    ((s.dev.mpp m).resetSource x).assignedSources.Perm
      ((s.otf.items m).erase x ++ (s.m2m.items m).erase x) := by
  refine ((resetSource_sources _ x).trans ((h.sources m).erase x)).trans ?_
  rcases eq_or_ne (mppType s.dev m) (some .otf) with hm | hm
  · have hnil : s.m2m.items m = [] := h.m2m_nil (by rw [hm]; exact nofun)
    simp [hnil]
  · simp [h.otf_nil hm]

theorem resetAssignedStateOf (h : Tracks s) (m : MppId) (x : MPPSource)
    (granted : List (MppId × Nat)) :
    Tracks ⟨s.dev.resetAssignedStateOf m x, granted, s.otf.forget m x, s.m2m.detach m x⟩ := by
  apply h.shrink
  · rfl
  · rfl
  · exact h.otf.forget m x
  · exact h.m2m.detach m x
  · exact s.otf.forget_shrinks m x
  · exact s.m2m.detach_shrinks m x
  · intro m'
    rcases eq_or_ne m' m with rfl | hm
    · simpa [Device.resetAssignedStateOf, Association.forget, Association.detach] using
        h.erase_sources m' x
    · simpa [Device.resetAssignedStateOf, Association.forget, Association.detach, hm] using
        h.sources m'
  · exact h.otfMPP
  · intro y hy
    rw [Association.detach_link]
    simp only [Device.resetAssignedStateOf]
    rcases eq_or_ne y x with rfl | hyx
    · rw [h.m2mMPP y hy]
      by_cases hlink : s.m2m.link y = some m
      · by_cases hmem : y ∈ s.m2m.items m
        · simp [hlink, hmem, (h.mem_m2m hlink).mpr hmem]
        · have hnot : y ∉ (s.dev.mpp m).assignedSources := fun hc => hmem ((h.mem_m2m hlink).mp hc)
          simp [hlink, hmem, hnot, h.m2mMPP y hy]
      · simp [hlink, h.m2mMPP y hy]
    · have hkeep : ∀ b : Prop, [Decidable b] →
          (if b then update s.dev.m2mMPP x none else s.dev.m2mMPP) y = s.dev.m2mMPP y := by
        intro b _
        split
        · exact Function.update_of_ne hyx _ _
        · rfl
      simp [hyx, hkeep, h.m2mMPP y hy]

theorem clearOtf (h : Tracks s) (x : MPPSource) (granted : List (MppId × Nat)) :
    Tracks ⟨{ s.dev with otfMPP := update s.dev.otfMPP x none }, granted, s.otf.clear x, s.m2m⟩ := by
  apply h.shrink
  · rfl
  · rfl
  · exact h.otf.clear x
  · exact h.m2m
  · exact s.otf.clear_shrinks x
  · exact .refl s.m2m
  · intro m
    rw [Association.clear_items]
    exact h.sources m
  · intro y
    simp only [Association.clear_link, Function.update_apply, h.otfMPP]
  · exact h.m2mMPP

theorem clearM2m (h : Tracks s) (x : MPPSource) (granted : List (MppId × Nat)) :
    Tracks ⟨{ s.dev with m2mMPP := update s.dev.m2mMPP x none }, granted, s.otf, s.m2m.clear x⟩ := by
  apply h.shrink
  · rfl
  · rfl
  · exact h.otf
  · exact h.m2m.clear x
  · exact .refl s.otf
  · exact s.m2m.clear_shrinks x
  · intro m
    rw [Association.clear_items]
    exact h.sources m
  · exact h.otfMPP
  · intro y hy
    simp only [Association.clear_link, Function.update_apply, h.m2mMPP y hy]

theorem resetAssignedResource (h : Tracks s) (k i : Nat) :
    Tracks (s.next (.resetAssignedResource k i)) := by
  simp only [Session.next, Call.exec, Call.grants, Call.onOtf, Call.onM2m,
    Device.resetAssignedResource]
  have hotf : ∀ s : Session, Tracks s → Tracks
      ⟨match s.dev.otfMPP ⟨k, .layer i⟩ with
        | none => s.dev
        | some m =>
            let dev := s.dev.resetAssignedState m
            { dev with otfMPP := update dev.otfMPP ⟨k, .layer i⟩ none },
        s.granted,
        match s.dev.otfMPP ⟨k, .layer i⟩ with
        | none => s.otf
        | some m => (s.otf.detachAll m).clear ⟨k, .layer i⟩,
        match s.dev.otfMPP ⟨k, .layer i⟩ with
        | none => s.m2m
        | some m => s.m2m.detachAll m⟩ := by
    intro s h
    cases s.dev.otfMPP ⟨k, .layer i⟩ with
    | none => exact h
    | some m => exact (h.resetAssignedState m s.granted).clearOtf ⟨k, .layer i⟩ s.granted
  cases hm2m : s.dev.m2mMPP ⟨k, .layer i⟩ with
  | none => exact hotf s h
  | some m =>
    exact hotf _ ((h.resetAssignedStateOf m ⟨k, .layer i⟩ s.granted).clearM2m ⟨k, .layer i⟩ s.granted)

theorem resetValidateData (h : Tracks s) (k i : Nat) :
    Tracks (s.next (.resetValidateData k i)) := by
  have hcleared := (h.clearOtf ⟨k, .layer i⟩ s.granted).clearM2m ⟨k, .layer i⟩ s.granted
  exact hcleared.frame (fun _ => rfl) rfl rfl rfl rfl

theorem initializeClient (h : Tracks s) (k : Nat) : Tracks (s.next (.initializeClient k)) :=
  (h.clearOtf ⟨k, .client⟩ s.granted).frame (fun _ => rfl) rfl rfl rfl rfl

theorem initializeExynos (h : Tracks s) (k : Nat) : Tracks (s.next (.initializeExynos k)) := by
  have hcleared := h.clearOtf ⟨k, .exynos⟩ s.granted
  refine ⟨hcleared.otf, hcleared.m2m, hcleared.sources, hcleared.otfMPP, ?_, hcleared.otfType,
    hcleared.m2mType⟩
  intro x hx
  have hne : x ≠ ⟨k, .exynos⟩ := by
    rintro rfl
    exact hx rfl
  exact (Function.update_of_ne hne _ _).trans (h.m2mMPP x hx)

theorem attach_items {a : Association MPPSource MppId} {sources l : List MPPSource}
    (hl : l.Perm (sources ++ [x])) (hsources : sources.Perm (a.items m)) :
    l.Perm ((a.attach m x).items m) := by
  refine hl.trans ?_
  simpa [Association.attach] using List.perm_append_comm.trans (hsources.cons x)

theorem assignMPP (h : Tracks s) (hmeets : s.Meets (.assignMPP m x)) :
    Tracks (s.next (.assignMPP m x)) := by
  obtain ⟨-, hx, hlink⟩ := hmeets
  have hmem := not_or.mp (mt h.mem_iff.mpr hx)
  have hadd : ((s.dev.mpp m).add s.dev.zOrder x).assignedSources.Perm
      ((s.dev.mpp m).assignedSources ++ [x]) := ExynosMPP.add_perm _ _ _
  simp only [Session.next, Call.exec, Call.grants, Call.onOtf, Call.onM2m, MppAssociation.assignMPP]
  unfold HasNone at hlink
  cases htype : mppType s.dev m with
  | none =>
    refine h.frame (fun m' => ?_) rfl rfl rfl rfl
    rcases eq_or_ne m' m with rfl | hm
    · simp
    · simp [hm]
  | some t =>
    rw [htype] at hlink
    cases t with
    | otf =>
      have hnone : s.otf.link x = none := (h.otfMPP x).symm.trans hlink
      have hnil : s.m2m.items m = [] := h.m2m_nil (by rw [htype]; exact nofun)
      refine ⟨h.otf.attach hnone hmem.1, h.m2m, ?_, ?_, h.m2mMPP, ?_, h.m2mType⟩
      · intro m'
        rcases eq_or_ne m' m with rfl | hm
        · have hsources := h.sources m'
          rw [hnil, List.append_nil] at hsources
          simp only [reduceIte, Function.update_self]
          refine (?_ : List.Perm _ ((s.otf.attach m' x).items m' ++ s.m2m.items m'))
          rw [hnil, List.append_nil]
          exact attach_items hadd hsources
        · simpa [Association.attach, hm] using h.sources m'
      · intro y
        simp only [reduceIte, Association.attach_link, Function.update_apply, h.otfMPP]
      · intro y m' hy
        simp only [reduceIte, Association.attach_link, Association.mem_attach] at hy
        refine (?_ : mppType s.dev m' = some .otf)
        have hold := h.otfType y m'
        grind
    | m2m =>
      obtain ⟨hlink, hclient, hexynos⟩ := hlink
      have hnone : s.m2m.link x = none := (h.m2mMPP x hexynos).symm.trans hlink
      have hnil : s.otf.items m = [] := h.otf_nil (by rw [htype]; exact nofun)
      refine ⟨h.otf, h.m2m.attach hnone hmem.2, ?_, h.otfMPP, ?_, h.otfType, ?_⟩
      · intro m'
        rcases eq_or_ne m' m with rfl | hm
        · have hsources := h.sources m'
          rw [hnil, List.nil_append] at hsources
          simp only [reduceIte, Function.update_self]
          refine (?_ : List.Perm _ (s.otf.items m' ++ (s.m2m.attach m' x).items m'))
          rw [hnil, List.nil_append]
          exact attach_items hadd hsources
        · simpa [Association.attach, hm] using h.sources m'
      · intro y hy
        simp only [reduceIte, Association.attach_link, Function.update_apply, h.m2mMPP y hy]
      · intro y m' hy
        simp only [reduceIte, Association.attach_link, Association.mem_attach] at hy
        refine (?_ : mppType s.dev m' = some .m2m ∧ y.place ≠ .client ∧ y.place ≠ .exynos)
        have hold := h.m2mType y m'
        grind

/-- **Every call keeps the associations those of the device.** -/
theorem next (h : Tracks s) (c : Call) (hmeets : s.Meets c) : Tracks (s.next c) := by
  cases c with
  | isAssignable m k hasEnoughCapa => exact h.frame (fun _ => rfl) rfl rfl rfl rfl
  | assignMPP m x => exact h.assignMPP hmeets
  | resetAssignedState m => exact h.resetAssignedState m s.granted
  | resetAssignedStateOf m x => exact h.resetAssignedStateOf m x s.granted
  | resetAssignedResource k i => exact h.resetAssignedResource k i
  | resetMPP m => exact h.resetMPP m s.granted
  | resetValidateData k i => exact h.resetValidateData k i
  | initializeClient k => exact h.initializeClient k
  | initializeExynos k => exact h.initializeExynos k
  | setZOrder x zOrder => exact h.frame (fun _ => rfl) rfl rfl rfl rfl
  | reserveMPP m k =>
    refine h.frame (fun m' => ?_) rfl rfl rfl rfl
    rcases eq_or_ne m' m with rfl | hm
    · simp [Call.exec, MppAssociation.reserveMPP]
    · simp [Call.exec, MppAssociation.reserveMPP, hm]
  | hardwareState m hwIdle prevAssignedDisplayType disableByUserScenario =>
    refine h.frame (fun m' => ?_) rfl rfl rfl rfl
    rcases eq_or_ne m' m with rfl | hm
    · simp [Call.exec]
    · simp [Call.exec, hm]

theorem start {dev : Device} (h : Unassigned dev) : Tracks (.start dev) where
  otf := .empty
  m2m := .empty
  sources m := by
    rw [Session.start, h.sources m]
    exact List.Perm.refl []
  otfMPP := h.otfMPP
  m2mMPP := h.m2mMPP
  otfType x m hx := by simp [Session.start, Association.empty] at hx
  m2mType x m hx := by simp [Session.start, Association.empty] at hx

end Tracks

/-! ### How many sources, and of which display -/

/-- An MPP has room for its sources, also for one more where a display was granted
    that, and a reserved one has the sources of its display. -/
structure Fits (granted : List (MppId × Nat)) (m : MppId) (p : ExynosMPP) : Prop where
  room : 0 < p.maxSrcLayerNum
  free : p.assigned = false → p.assignedSources = []
  length_le : p.assignedSources.length ≤ p.maxSrcLayerNum
  reserved : ∀ k, p.reserved = some k → ∀ x ∈ p.assignedSources, x.display = k
  granted : ∀ k, (m, k) ∈ granted →
    p.assignedSources.length < p.maxSrcLayerNum ∧ ∀ k', p.reserved = some k' → k = k'

namespace Fits

variable {granted : List (MppId × Nat)} {m : MppId} {p q : ExynosMPP}

/-- An MPP that loses sources. -/
theorem fewer (h : Fits granted m p) (hmax : q.maxSrcLayerNum = p.maxSrcLayerNum)
    (hfree : q.assigned = false → q.assignedSources = [])
    (hlength : q.assignedSources.length ≤ p.assignedSources.length)
    (hmem : ∀ x ∈ q.assignedSources, x ∈ p.assignedSources)
    (hreserved : ∀ k, q.reserved = some k → p.reserved = some k) : Fits granted m q where
  room := hmax ▸ h.room
  free := hfree
  length_le := hmax ▸ hlength.trans h.length_le
  reserved k hk x hx := h.reserved k (hreserved k hk) x (hmem x hx)
  granted k hk := by
    obtain ⟨hlt, hdisplay⟩ := h.granted k hk
    exact ⟨hmax ▸ hlength.trans_lt hlt, fun k' hk' => hdisplay k' (hreserved k' hk')⟩

/-- An MPP with no source left. -/
theorem emptied (h : Fits granted m p) (hmax : q.maxSrcLayerNum = p.maxSrcLayerNum)
    (hnil : q.assignedSources = []) (hreserved : ∀ k, q.reserved = some k → p.reserved = some k) :
    Fits granted m q := by
  refine h.fewer hmax (fun _ => hnil) ?_ ?_ hreserved
  · simp [hnil]
  · simp [hnil]

theorem resetSource (h : Fits granted m p) (x : MPPSource) : Fits granted m (p.resetSource x) := by
  have hperm := resetSource_sources p x
  apply h.fewer
  · unfold ExynosMPP.resetSource
    dsimp only
    split <;> rfl
  · unfold ExynosMPP.resetSource
    dsimp only
    split
    · next hnil =>
      intro
      exact hnil.2
    · intro hfree
      simp [h.free hfree]
  · rw [hperm.length_eq]
    exact List.length_erase_le
  · intro y hy
    exact List.mem_of_mem_erase (hperm.mem_iff.mp hy)
  · intro k hk
    unfold ExynosMPP.resetSource at hk
    dsimp only at hk
    split at hk <;> exact hk

/-- A granted display takes the MPP. -/
theorem add (h : Fits granted m p) (zOrder : MPPSource → Nat) {x : MPPSource}
    (hx : (m, x.display) ∈ granted) : Fits (granted.filter (·.1 ≠ m)) m (p.add zOrder x) := by
  obtain ⟨hlt, hdisplay⟩ := h.granted x.display hx
  have hperm := ExynosMPP.add_perm p zOrder x
  constructor
  · exact h.room
  · intro hfree
    cases hfree
  · rw [hperm.length_eq, List.length_append]
    exact hlt
  · intro k hk y hy
    rcases List.mem_append.mp (hperm.mem_iff.mp hy) with hy | hy
    · exact h.reserved k hk y hy
    · rw [List.mem_singleton.mp hy]
      exact hdisplay k hk
  · intro k hk
    simp at hk

theorem restrict (h : Fits granted m p) {granted' : List (MppId × Nat)}
    (hsub : ∀ k, (m, k) ∈ granted' → (m, k) ∈ granted) : Fits granted' m p :=
  ⟨h.room, h.free, h.length_le, h.reserved, fun k hk => h.granted k (hsub k hk)⟩

/-- What a successful check promises. -/
theorem of_assignable (h : Fits granted m p) {k type : Nat}
    (hstate : p.isAssignableState k type = true) :
    p.assignedSources.length < p.maxSrcLayerNum ∧ ∀ k', p.reserved = some k' → k = k' := by
  have hfree : p.assigned = false → p.assignedSources.length < p.maxSrcLayerNum := by
    intro hfree
    rw [h.free hfree]
    exact h.room
  unfold ExynosMPP.isAssignableState at hstate
  split at hstate
  · cases hstate
  · split at hstate
    · next hassigned hreserved => exact ⟨hfree hassigned, by simp [hreserved]⟩
    · next k' _ hreserved =>
      simp only [Bool.and_eq_true, beq_iff_eq, decide_eq_true_eq] at hstate
      simp [hreserved, hstate]
    · next _ hreserved => exact ⟨by simpa using hstate, by simp [hreserved]⟩
    · next k' hassigned hreserved =>
      simp only [beq_iff_eq] at hstate
      exact ⟨hfree hassigned, by simp [hreserved, hstate]⟩

end Fits

/-- Every MPP fits. -/
def Session.Fits (s : Session) : Prop := ∀ m, MppAssociation.Fits s.granted m (s.dev.mpp m)

namespace Session.Fits

variable {s : Session} {m : MppId}

/-- A call that writes MPP `m` only. -/
theorem write (h : s.Fits) {s' : Session} {p : ExynosMPP} (hmpp : s'.dev.mpp = update s.dev.mpp m p)
    (hsub : ∀ m' k, m' ≠ m → (m', k) ∈ s'.granted → (m', k) ∈ s.granted)
    (hp : MppAssociation.Fits s'.granted m p) : s'.Fits := by
  intro m'
  rw [hmpp]
  rcases eq_or_ne m' m with rfl | hm
  · rwa [Function.update_self]
  · rw [Function.update_of_ne hm]
    exact (h m').restrict fun k => hsub m' k hm

theorem isAssignable (h : s.Fits) (m : MppId) (k : Nat) (hasEnoughCapa : Bool) :
    (s.next (.isAssignable m k hasEnoughCapa)).Fits := by
  intro m'
  refine ⟨(h m').room, (h m').free, (h m').length_le, (h m').reserved, fun k' hk => ?_⟩
  simp only [Session.next, Call.grants] at hk
  split at hk
  · next hgrant =>
    rcases List.mem_cons.mp hk with heq | hk
    · obtain ⟨rfl, rfl⟩ := Prod.mk.inj heq
      exact (h m').of_assignable (Bool.and_eq_true_iff.mp hgrant).1
    · exact (h m').granted k' hk
  · exact (h m').granted k' hk

theorem assignMPP (h : s.Fits) {x : MPPSource} (hmeets : s.Meets (.assignMPP m x)) :
    (s.next (.assignMPP m x)).Fits := by
  have hsub : ∀ m' k, m' ≠ m → (m', k) ∈ s.granted.filter (·.1 ≠ m) → (m', k) ∈ s.granted :=
    fun _ _ _ hk => List.mem_of_mem_filter hk
  have hadd := (h m).add s.dev.zOrder hmeets.1
  cases htype : mppType s.dev m with
  | none =>
    refine h.write (m := m) (p := { s.dev.mpp m with assigned := true }) ?_ hsub ?_
    · simp [Session.next, Call.exec, MppAssociation.assignMPP, htype]
    · refine ⟨(h m).room, nofun, (h m).length_le, (h m).reserved, fun k hk => ?_⟩
      simp [Session.next, Call.grants] at hk
  | some t =>
    refine h.write (m := m) (p := (s.dev.mpp m).add s.dev.zOrder x) ?_ hsub hadd
    cases t <;> simp [Session.next, Call.exec, MppAssociation.assignMPP, htype]

theorem resetAssignedState (h : s.Fits) (m : MppId) {s' : Session}
    (hmpp : s'.dev.mpp = update s.dev.mpp m (s.dev.mpp m).reset) (hgranted : s'.granted = s.granted) :
    s'.Fits := by
  apply h.write hmpp
  · rw [hgranted]
    exact fun _ _ _ => id
  · rw [hgranted]
    exact (h m).emptied rfl rfl fun _ => id

theorem resetAssignedStateOf (h : s.Fits) (m : MppId) (x : MPPSource) {s' : Session}
    (hmpp : s'.dev.mpp = update s.dev.mpp m ((s.dev.mpp m).resetSource x))
    (hgranted : s'.granted = s.granted) : s'.Fits := by
  apply h.write hmpp
  · rw [hgranted]
    exact fun _ _ _ => id
  · rw [hgranted]
    exact (h m).resetSource x

theorem resetAssignedResource (h : s.Fits) (k i : Nat) :
    (s.next (.resetAssignedResource k i)).Fits := by
  have hotf : ∀ dev : Device, (Session.mk dev s.granted s.otf s.m2m).Fits → ∀ o : Option MppId,
      (Session.mk (match o with
        | none => dev
        | some m =>
            let dev := dev.resetAssignedState m
            { dev with otfMPP := update dev.otfMPP ⟨k, .layer i⟩ none }) s.granted s.otf s.m2m).Fits := by
    intro dev h o
    cases o with
    | none => exact h
    | some m => exact h.resetAssignedState m rfl rfl
  have hm2m : (Session.mk (match s.dev.m2mMPP ⟨k, .layer i⟩ with
      | none => s.dev
      | some m =>
          let dev := s.dev.resetAssignedStateOf m ⟨k, .layer i⟩
          { dev with m2mMPP := update dev.m2mMPP ⟨k, .layer i⟩ none })
      s.granted s.otf s.m2m).Fits := by
    cases s.dev.m2mMPP ⟨k, .layer i⟩ with
    | none => exact h
    | some m => exact h.resetAssignedStateOf m ⟨k, .layer i⟩ rfl rfl
  exact hotf _ hm2m _

/-- **Every call leaves the MPPs room.** -/
theorem next (h : s.Fits) (c : Call) (hmeets : s.Meets c) : (s.next c).Fits := by
  cases c with
  | isAssignable m k hasEnoughCapa => exact h.isAssignable m k hasEnoughCapa
  | assignMPP m x => exact h.assignMPP hmeets
  | resetAssignedState m => exact h.resetAssignedState m rfl rfl
  | resetAssignedStateOf m x => exact h.resetAssignedStateOf m x rfl rfl
  | resetAssignedResource k i => exact h.resetAssignedResource k i
  | resetMPP m =>
    refine h.write (m := m) rfl (fun _ _ _ => id) ?_
    exact (h m).emptied rfl rfl nofun
  | resetValidateData k i => exact h
  | initializeClient k => exact h
  | initializeExynos k => exact h
  | setZOrder x zOrder => exact h
  | reserveMPP m k =>
    obtain ⟨hnil, hgranted⟩ := hmeets
    refine h.write (m := m) rfl (fun _ _ _ => id) ?_
    refine ⟨(h m).room, (h m).free, (h m).length_le, fun k' _ x hx => ?_, fun k' hk => ?_⟩
    · have hx : x ∈ (s.dev.mpp m).assignedSources := hx
      rw [hnil] at hx
      cases hx
    · exact absurd rfl (hgranted (m, k') hk)
  | hardwareState m hwIdle prevAssignedDisplayType disableByUserScenario =>
    refine h.write (m := m) rfl (fun _ _ _ => id) ?_
    exact (h m).fewer rfl (h m).free (Nat.le_refl _) (fun _ => id) fun _ => id

theorem start {dev : Device} (h : Unassigned dev) : (Session.start dev).Fits := by
  intro m
  have hnil := h.sources m
  refine ⟨h.room m, fun _ => hnil, ?_, ?_, nofun⟩
  · simp [Session.start, hnil]
  · intro k _ x hx
    simp [Session.start, hnil] at hx

end Session.Fits

/-! ### Runs -/

instance (s : Session) : (c : Call) → Decidable (s.Meets c)
  | .assignMPP _ _ => inferInstanceAs (Decidable (_ ∧ _ ∧ _))
  | .reserveMPP _ _ => inferInstanceAs (Decidable (_ ∧ ∀ _ ∈ _, _))
  | .isAssignable .. | .resetAssignedState _ | .resetAssignedStateOf .. => .isTrue trivial
  | .resetAssignedResource .. | .resetMPP _ | .resetValidateData .. => .isTrue trivial
  | .initializeClient _ | .initializeExynos _ => .isTrue trivial
  | .hardwareState .. | .setZOrder .. => .isTrue trivial

end ExynosHal.MppAssociation
