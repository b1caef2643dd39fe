/-
  ExynosHal/FrameCommit.lean
  ==========================
  **What an atomic commit of a frame has in it.**

  `ExynosDisplayDrmInterface::deliverWinConfigData` with `setupCommitFromDisplayConfig`,
  `disablePlanes` and the cleanup by `flipFBs`
  (`libhwc2.1/display/ExynosDisplayDrmInterface.cpp`).  Every call of the driver is answered by
  an input, one answer for each place of the frame that makes the call, so that a frame ranges
  over all failures.

  A request is the list of the properties in it, each with the call that has added it.  The
  properties of the CRTC and of the connectors that the frame sets besides (writeback, partial
  region, colour, HDR metadata) are not those of a plane and are left out; the functions that
  set them may fail.
-/
import ExynosHal.DrmModes
import ExynosHal.Virtual8K
import Mathlib.Data.List.Nodup

namespace ExynosHal.FrameCommit

open WindowConfig (WinConfig WinState)

def EINVAL : Int := 22

/-! ### Planes -/

inductive PlaneProperty where
  | crtc | fb | crtc_x | crtc_y | crtc_w | crtc_h | src_x | src_y | src_w | src_h
  | rotation | blend | zpos | alpha | in_fence_fd | colormap | standard | transfer | range
  | hdr_fd | virtual8k_split
deriving DecidableEq, Repr

/-- `DrmProperty`; the id of a property that a plane does not have is 0. -/
structure DrmProperty where
  id : Nat
  is_immutable : Bool
  range_min : Nat
  range_max : Nat
deriving DecidableEq, Repr

structure DrmPlane where
  id : Nat
  property : PlaneProperty → DrmProperty
  /-- The plane's MPP is reserved to another display, and this one may not take it. -/
  reservedToOther : Bool

/-- The place of a frame that adds a property: window `slot`, or the disabling of a plane. -/
inductive Call where
  | window (slot : Nat) (property : PlaneProperty)
  | disable (plane : Nat) (property : PlaneProperty)
deriving DecidableEq, Repr

structure Item where
  call : Call
  object : Nat
  property : Nat
  value : Int
deriving DecidableEq, Repr

/-- A frame: the windows, the planes and the answers to the calls. -/
structure Frame where
  configs : List WinConfig
  assignedMPP : WinConfig → Virtual8K.ExynosMPP
  planes : List DrmPlane
  /-- A constant of the board. -/
  MAX_DECON_WIN : Nat
  mDrmCrtcId : Nat
  mBlendEnums : Int → Option Nat
  mStandardEnums : Nat → Option Nat
  mTransferEnums : Nat → Option Nat
  mRangeEnums : Nat → Option Nat
  drmModeAtomicAddProperty : Call → Int
  /-- `getBufferId` for each window. -/
  getBufferId : Nat → Int × Nat
  needs_modeset : Bool
  setDisplayMode : Int
  commitModeSet : Int
  /-- The setup of a writeback, where one is enabled. -/
  setupConcurrentWritebackCommit : Option Int
  setupStandaloneWritebackCommit : Option Int
  /-- Its errors are those of an ioctl. -/
  setupPartialRegion : Int
  partial_le : setupPartialRegion ≤ 0
  addOutFence : Int
  commit : Int

/-! ### Adding properties -/

/-- A property that the setup of a window adds: `none` for a value that is not in the table of
    its property, and whether the comparison with 0 has got into the parentheses. -/
structure PropertyAdd where
  property : PlaneProperty
  value : Option Int
  isOptional : Bool
  misplaced : Bool
deriving DecidableEq, Repr

def halTransformToDrmRot : Nat → Int
  | 1 => 33
  | 2 => 17
  | 3 => 4
  | 4 => 2
  | 5 => 18
  | 6 => 34
  | 7 => 8
  | _ => 1

def HAL_DATASPACE_STANDARD_MASK : Nat := 0x3f0000
def HAL_DATASPACE_TRANSFER_MASK : Nat := 0x7c00000
def HAL_DATASPACE_RANGE_MASK : Nat := 0x38000000

/-- `planeAlpha`, with the product in exact arithmetic. -/
def scaledAlpha (p : DrmProperty) (plane_alpha : Rat) : Nat :=
  let planeAlpha := ((((p.range_max - p.range_min : Nat) : Rat) * plane_alpha + 1 / 2).floor).toNat + p.range_min
  if p.range_min ≤ planeAlpha ∧ planeAlpha ≤ p.range_max then planeAlpha
  else if p.range_max < planeAlpha then p.range_max else p.range_min

namespace Frame

variable (f : Frame)

def plain (property : PlaneProperty) (value : Int) : PropertyAdd := ⟨property, some value, false, false⟩

/-- `setEnumProperty`, as its calls compare it. -/
def enumAdd (property : PlaneProperty) (drmEnum : Option Nat) : PropertyAdd :=
  ⟨property, drmEnum.map Int.ofNat, true, true⟩

/-- The properties in the order of `setupCommitFromDisplayConfig`. -/
def adds (configIndex : Nat) (plane : DrmPlane) (config : WinConfig) : List PropertyAdd :=
  let has (property : PlaneProperty) : Bool := (plane.property property).id ≠ 0
  [plain .crtc f.mDrmCrtcId, plain .fb (f.getBufferId configIndex).2,
    plain .crtc_x config.dst.x, plain .crtc_y config.dst.y,
    plain .crtc_w config.dst.w, plain .crtc_h config.dst.h,
    plain .src_x (config.src.x * 2 ^ 16), plain .src_y (config.src.y * 2 ^ 16),
    plain .src_w (config.src.w * 2 ^ 16), plain .src_h (config.src.h * 2 ^ 16),
    ⟨.rotation, some (halTransformToDrmRot config.transform), true, false⟩,
    enumAdd .blend (f.mBlendEnums config.blending)] ++
  (if has .zpos ∧ !(plane.property .zpos).is_immutable then
    [plain .zpos (configIndex + (plane.property .zpos).range_min : Nat)] else []) ++
  (if has .alpha then
    [⟨.alpha, some (scaledAlpha (plane.property .alpha) config.planeAlpha), true, false⟩] else []) ++
  (if 0 ≤ config.acq_fence then [plain .in_fence_fd config.acq_fence] else []) ++
  (if config.state = .color ∧ has .colormap then [plain .colormap config.color] else []) ++
  [enumAdd .standard (f.mStandardEnums (config.dataspace &&& HAL_DATASPACE_STANDARD_MASK)),
    enumAdd .transfer (f.mTransferEnums (config.dataspace &&& HAL_DATASPACE_TRANSFER_MASK)),
    enumAdd .range (f.mRangeEnums (config.dataspace &&& HAL_DATASPACE_RANGE_MASK))] ++
  (if has .hdr_fd then [plain .hdr_fd config.fd_lut] else []) ++
  (if has .virtual8k_split then [⟨.virtual8k_split, some config.split, true, false⟩] else [])

def itemOf (slot : Nat) (plane : DrmPlane) (property : PlaneProperty) (value : Int) : Item :=
  ⟨.window slot property, plane.id, (plane.property property).id, value⟩

/-- `atomicAddProperty`, with what it adds. -/
def atomicAddProperty (slot : Nat) (plane : DrmPlane) (a : PropertyAdd) : List Item × Int :=
  match a.value with
  | none => ([], -EINVAL)
  | some value =>
      if (plane.property a.property).id = 0 then ([], if a.isOptional then 0 else -EINVAL)
      else
        let ret := f.drmModeAtomicAddProperty (.window slot a.property)
        if ret < 0 then ([], ret) else ([itemOf slot plane a.property value], 0)

/-- The chain of the setup: what it adds and what it returns. -/
def runAdds (slot : Nat) (plane : DrmPlane) : List PropertyAdd → List Item × Int
  | [] => ([], 0)
  | a :: rest =>
      let (items, ret) := f.atomicAddProperty slot plane a
      -- `(ret = setEnumProperty(..) < 0)` stores 1
      if ret < 0 then (items, if a.misplaced then 1 else ret)
      else (items ++ (runAdds slot plane rest).1, (runAdds slot plane rest).2)

def setupCommitFromDisplayConfig (configIndex : Nat) (plane : DrmPlane) (config : WinConfig) :
    List Item × Int :=
  if (f.getBufferId configIndex).1 < 0 then ([], (f.getBufferId configIndex).1)
  else f.runAdds configIndex plane (f.adds configIndex plane config)

/-! ### The windows -/

structure Slot where
  chId : Int
  conf : WinConfig
deriving DecidableEq, Repr

def isActive (config : WinConfig) : Bool :=
  config.state = .buffer ∨ config.state = .color ∨ config.state = .cursor

/-- The setups of a window. -/
def slotsOf (config : WinConfig) : List Slot :=
  match Virtual8K.getVirtual8KOtfInfo (f.assignedMPP config) config with
  | some (firstHalf, lastHalf) =>
      [⟨firstHalf.channelId, firstHalf.config⟩, ⟨lastHalf.channelId, lastHalf.config⟩]
  | none =>
      -- src size should be set even in dim layer
      let conf :=
        if config.state = .color then
          { config with src := { config.src with w := config.dst.w, h := config.dst.h } }
        else config
      [⟨(f.assignedMPP config).mChId, conf⟩]

def slots : List Slot := (f.configs.filter isActive).flatMap f.slotsOf

/-- `planes().at(chId)`; the check before it does not return. -/
def planeAt (chId : Int) : Option DrmPlane := if chId < 0 then none else f.planes[chId.toNat]?

inductive Ending where
  | done
  | returned (ret : Int)
  /-- `at` has thrown. -/
  | aborted
deriving DecidableEq, Repr

structure Windows where
  items : List Item
  /-- The channels whose `planeEnableInfo` is set. -/
  enabled : List Nat
  ending : Ending

def windows : Nat → List Slot → Windows
  | _, [] => ⟨[], [], .done⟩
  | virtualPlaneIndex, slot :: rest =>
      match f.planeAt slot.chId with
      | none => ⟨[], [], .aborted⟩
      | some plane =>
          let (items, ret) := f.setupCommitFromDisplayConfig virtualPlaneIndex plane slot.conf
          if ret < 0 then ⟨items, [], .returned ret⟩
          else
            let w := windows (virtualPlaneIndex + 1) rest
            ⟨items ++ w.items, slot.chId.toNat :: w.enabled, w.ending⟩

@[simp] theorem windows_nil (i : Nat) : f.windows i [] = ⟨[], [], .done⟩ := rfl

/-! ### The other planes -/

/-- A property of a plane that is set to 0, if it can be added. -/
def clearProperty (chId : Nat) (plane : DrmPlane) (property : PlaneProperty) : Option Item :=
  if (plane.property property).id = 0 ∨ f.drmModeAtomicAddProperty (.disable chId property) < 0 then none
  else some ⟨.disable chId property, plane.id, (plane.property property).id, 0⟩

def disablePlane (chId : Nat) (plane : DrmPlane) : List Item :=
  match f.clearProperty chId plane .crtc with
  | none => []
  | some crtc =>
      match f.clearProperty chId plane .fb with
      | none => [crtc]
      | some fb => [crtc, fb]

def disablePlanes (planeEnableInfo : List Nat) : List Item :=
  f.planes.zipIdx.flatMap fun (plane, chId) =>
    if plane.reservedToOther ∨ chId ∈ planeEnableInfo then [] else f.disablePlane chId plane

/-! ### The frame -/

/-- What is left of a frame: the request that was committed, whether all accesses of tables were
    in bounds, the value returned, and what `flipFBs` is told. -/
structure Outcome where
  committed : Option (List Item)
  inBounds : Bool
  ret : Int
  isActiveCommit : Bool

/-- A return before the commit; `ret` is the variable that the callback looks at. -/
def exit (ret value : Int) : Outcome := ⟨none, true, value, ret = 0⟩

/-- `planeEnableInfo` is written for the windows and read for the planes of this display. -/
def boundsKept (w : Windows) : Bool := w.enabled.all (· < f.MAX_DECON_WIN)

def readsKept : Bool :=
  f.planes.zipIdx.all fun (plane, chId) => plane.reservedToOther || chId < f.MAX_DECON_WIN

def setupWindows : Outcome :=
  let w := f.windows 0 f.slots
  match w.ending with
  | .aborted => ⟨none, false, 0, false⟩
  | .returned ret => ⟨none, f.boundsKept w, ret, false⟩
  | .done =>
      ⟨some (w.items ++ f.disablePlanes w.enabled), f.boundsKept w && f.readsKept,
        if f.commit < 0 then f.commit else 0, f.commit = 0⟩

def deliverWinConfigData : Outcome :=
  if f.needs_modeset ∧ f.setDisplayMode < 0 ∧ f.setDisplayMode ≠ DrmModes.BAD_TYPE then
    -- returns `_ret`
    exit 0 f.setDisplayMode
  else if f.needs_modeset ∧ f.commitModeSet < 0 then exit f.commitModeSet f.commitModeSet
  else if f.setupConcurrentWritebackCommit.getD 0 < 0 then
    exit (f.setupConcurrentWritebackCommit.getD 0) (f.setupConcurrentWritebackCommit.getD 0)
  else if f.setupStandaloneWritebackCommit.getD 0 < 0 then
    exit (f.setupStandaloneWritebackCommit.getD 0) (f.setupStandaloneWritebackCommit.getD 0)
  else if f.setupPartialRegion ≠ 0 then exit f.setupPartialRegion f.setupPartialRegion
  else if f.addOutFence < 0 then exit f.addOutFence f.addOutFence
  else f.setupWindows

/-! ### Complete requests -/

/-- The properties that a frame cannot do without, where the plane has them. -/
def nonOptional : List PlaneProperty :=
  [.crtc, .fb, .crtc_x, .crtc_y, .crtc_w, .crtc_h, .src_x, .src_y, .src_w, .src_h, .blend, .zpos,
    .in_fence_fd, .colormap, .standard, .transfer, .range]

def Required (plane : DrmPlane) (a : PropertyAdd) : Prop :=
  a.property ∈ nonOptional ∧ (plane.property a.property).id ≠ 0

/-- The property of a plane that is set to 0. -/
def cleared (chId : Nat) (plane : DrmPlane) (property : PlaneProperty) : Item :=
  ⟨.disable chId property, plane.id, (plane.property property).id, 0⟩

structure IsComplete (req : List Item) : Prop where
  windows : ∀ (i : Nat) s plane, f.slots[i]? = some s → f.planeAt s.chId = some plane →
    ∀ a ∈ f.adds i plane s.conf, Required plane a →
      ∃ value, a.value = some value ∧ itemOf i plane a.property value ∈ req
  zpos : ∀ i j, i < j → ∀ x ∈ req, ∀ y ∈ req, x.call = .window i .zpos → y.call = .window j .zpos →
    x.value < y.value
  unused : ∀ (chId : Nat) plane, f.planes[chId]? = some plane → plane.reservedToOther = false →
    (∀ s ∈ f.slots, s.chId ≠ chId) →
    cleared chId plane .crtc ∈ req ∧ cleared chId plane .fb ∈ req

/-- The commit is issued for a complete request only, else an error is returned. -/
structure Meets : Prop where
  complete : ∀ req, f.deliverWinConfigData.committed = some req → f.IsComplete req
  inBounds : f.deliverWinConfigData.inBounds = true
  fails : f.deliverWinConfigData.committed = none → f.deliverWinConfigData.ret < 0
  flips : f.deliverWinConfigData.isActiveCommit = true →
    f.deliverWinConfigData.committed.isSome = true ∧ 0 ≤ f.commit

/-! ### Which calls fail -/

def Succeeds (slot : Nat) (plane : DrmPlane) (a : PropertyAdd) : Prop :=
  a.value.isSome = true ∧
    if (plane.property a.property).id = 0 then a.isOptional = true
    else 0 ≤ f.drmModeAtomicAddProperty (.window slot a.property)

/-- The first failure is one that the chain returns. -/
def Stops (slot : Nat) (plane : DrmPlane) : List PropertyAdd → Prop
  | [] => False
  | a :: rest =>
      f.Succeeds slot plane a ∧ Stops slot plane rest ∨
        ¬f.Succeeds slot plane a ∧ a.misplaced = false

/-- The first failure is taken for a success, and a required property is not added. -/
def Loses (slot : Nat) (plane : DrmPlane) : List PropertyAdd → Prop
  | [] => False
  | a :: rest =>
      f.Succeeds slot plane a ∧ Loses slot plane rest ∨
        ¬f.Succeeds slot plane a ∧ a.misplaced = true ∧ ∃ b ∈ a :: rest, Required plane b

/-- The frame goes on after a window. -/
def Passes (i : Nat) (s : Slot) : Prop :=
  ∃ plane, f.planeAt s.chId = some plane ∧ 0 ≤ (f.getBufferId i).1 ∧
    ¬f.Stops i plane (f.adds i plane s.conf)

/-- Nothing stops the frame before its windows. -/
structure Starts : Prop where
  modeset : f.needs_modeset = true →
    (0 ≤ f.setDisplayMode ∨ f.setDisplayMode = DrmModes.BAD_TYPE) ∧ 0 ≤ f.commitModeSet
  concurrent : 0 ≤ f.setupConcurrentWritebackCommit.getD 0
  standalone : 0 ≤ f.setupStandaloneWritebackCommit.getD 0
  partialRegion : f.setupPartialRegion = 0
  outFence : 0 ≤ f.addOutFence

def HasZpos (plane : DrmPlane) : Prop :=
  (plane.property .zpos).id ≠ 0 ∧ (plane.property .zpos).is_immutable = false

/-- A frame that gets to its commit loses nothing. -/
structure Whole : Prop where
  windows : ∀ (i : Nat) s plane, f.slots[i]? = some s → f.planeAt s.chId = some plane →
    ¬f.Loses i plane (f.adds i plane s.conf)
  zpos : ∀ (i j : Nat) s t p q, i < j → f.slots[i]? = some s → f.slots[j]? = some t →
    f.planeAt s.chId = some p → f.planeAt t.chId = some q → HasZpos p → HasZpos q →
    i + (p.property .zpos).range_min < j + (q.property .zpos).range_min
  unused : ∀ (chId : Nat) plane, f.planes[chId]? = some plane → plane.reservedToOther = false →
    (∀ s ∈ f.slots, s.chId ≠ chId) → ∀ property, property = .crtc ∨ property = .fb →
    (plane.property property).id ≠ 0 ∧ 0 ≤ f.drmModeAtomicAddProperty (.disable chId property)
  reads : ∀ (chId : Nat) plane, f.planes[chId]? = some plane → plane.reservedToOther = false →
    chId < f.MAX_DECON_WIN

structure Regular : Prop where
  modeset : f.needs_modeset = true → f.setDisplayMode < 0 → f.setDisplayMode = DrmModes.BAD_TYPE
  channels : f.Starts → ∀ (i : Nat) s, f.slots[i]? = some s →
    (∀ j < i, ∀ t, f.slots[j]? = some t → f.Passes j t) →
    (f.planeAt s.chId).isSome = true ∧ (f.Passes i s → s.chId.toNat < f.MAX_DECON_WIN)
  whole : f.Starts → (∀ (i : Nat) s, f.slots[i]? = some s → f.Passes i s) → f.Whole

/-! ### The chain -/

variable {f}

section Chain

variable {slot : Nat} {plane : DrmPlane} {a : PropertyAdd} {l : List PropertyAdd}

theorem atomicAddProperty_neg :
    (f.atomicAddProperty slot plane a).2 < 0 ↔ ¬f.Succeeds slot plane a := by
  unfold atomicAddProperty Succeeds
  cases a.value with
  | none => simp [EINVAL]
  | some value =>
    by_cases hid : (plane.property a.property).id = 0
    · cases ho : a.isOptional <;> simp [hid, EINVAL]
    · by_cases hret : f.drmModeAtomicAddProperty (.window slot a.property) < 0
      · simp [hid, hret]
      · simp [hid, hret]

/-- What an addition that succeeds has added. -/
theorem mem_atomicAddProperty (h : f.Succeeds slot plane a) {x : Item} :
    x ∈ (f.atomicAddProperty slot plane a).1 ↔
      (plane.property a.property).id ≠ 0 ∧ ∃ value, a.value = some value ∧
        x = itemOf slot plane a.property value := by
  obtain ⟨hvalue, hadd⟩ := h
  obtain ⟨value, hv⟩ := Option.isSome_iff_exists.mp hvalue
  unfold atomicAddProperty
  simp only [hv]
  by_cases hid : (plane.property a.property).id = 0
  · simp [hid]
  · rw [if_neg hid] at hadd
    simp [hid, Int.not_lt.mpr hadd]

theorem not_mem_atomicAddProperty (h : ¬f.Succeeds slot plane a) :
    (f.atomicAddProperty slot plane a).1 = [] := by
  rw [← atomicAddProperty_neg] at h
  unfold atomicAddProperty at h ⊢
  split
  · rfl
  · simp only at h ⊢
    split
    · rfl
    · rename_i hv hid
      simp only [hv, if_neg hid] at h ⊢
      split
      · rfl
      · rename_i hret
        rw [if_neg hret] at h
        exact absurd h (by simp)

theorem runAdds_neg : (f.runAdds slot plane l).2 < 0 ↔ f.Stops slot plane l := by
  induction l with
  | nil => simp [runAdds, Stops]
  | cons a rest ih =>
    unfold runAdds Stops
    by_cases h : f.Succeeds slot plane a
    · have hok : ¬(f.atomicAddProperty slot plane a).2 < 0 := by
        rw [atomicAddProperty_neg]
        exact not_not.mpr h
      simp [hok, h, ih]
    · have hneg := atomicAddProperty_neg.mpr h
      simp only [hneg, if_true, h, false_and, not_false_eq_true, true_and, false_or]
      cases ha : a.misplaced with
      | false => simp [hneg]
      | true => simp

/-- Every item of a chain is that of one of its properties. -/
theorem mem_runAdds {x : Item} (hx : x ∈ (f.runAdds slot plane l).1) :
    ∃ a ∈ l, ∃ value, a.value = some value ∧ x = itemOf slot plane a.property value := by
  induction l with
  | nil => simp [runAdds] at hx
  | cons a rest ih =>
    unfold runAdds at hx
    by_cases h : f.Succeeds slot plane a
    · have hok : ¬(f.atomicAddProperty slot plane a).2 < 0 := by
        rw [atomicAddProperty_neg]
        exact not_not.mpr h
      simp only [hok, if_false, List.mem_append] at hx
      rcases hx with hx | hx
      · obtain ⟨-, value, hv, rfl⟩ := (mem_atomicAddProperty h).mp hx
        exact ⟨a, List.mem_cons_self, value, hv, rfl⟩
      · obtain ⟨b, hb, hrest⟩ := ih hx
        exact ⟨b, List.mem_cons_of_mem a hb, hrest⟩
    · have hneg := atomicAddProperty_neg.mpr h
      simp [hneg, not_mem_atomicAddProperty h] at hx

/-- **A chain that is not stopped adds what it has to** exactly when it loses nothing. -/
theorem runAdds_complete (hnodup : (l.map PropertyAdd.property).Nodup) (hgo : ¬f.Stops slot plane l) :
    (∀ a ∈ l, Required plane a → ∃ value, a.value = some value ∧
      itemOf slot plane a.property value ∈ (f.runAdds slot plane l).1) ↔ ¬f.Loses slot plane l := by
  induction l with
  | nil => simp [Loses]
  | cons a rest ih =>
    rw [List.map_cons, List.nodup_cons] at hnodup
    obtain ⟨hnew, hnodup⟩ := hnodup
    unfold Stops at hgo
    by_cases h : f.Succeeds slot plane a
    · have hok : ¬(f.atomicAddProperty slot plane a).2 < 0 := by
        rw [atomicAddProperty_neg]
        exact not_not.mpr h
      have hgo' : ¬f.Stops slot plane rest := by
        intro hs
        exact hgo (.inl ⟨h, hs⟩)
      have hitems : (f.runAdds slot plane (a :: rest)).1 =
          (f.atomicAddProperty slot plane a).1 ++ (f.runAdds slot plane rest).1 := by
        simp [runAdds, hok]
      have hloses : f.Loses slot plane (a :: rest) ↔ f.Loses slot plane rest := by
        simp [Loses, h]
      rw [hloses, ← ih hnodup hgo', hitems]
      constructor
      · intro hall b hb hreq
        obtain ⟨value, hv, hmem⟩ := hall b (List.mem_cons_of_mem a hb) hreq
        refine ⟨value, hv, ?_⟩
        rcases List.mem_append.mp hmem with hmem | hmem
        · exfalso
          obtain ⟨-, value', -, heq⟩ := (mem_atomicAddProperty h).mp hmem
          have hcall := congrArg Item.call heq
          have hprop : b.property = a.property := by simpa [itemOf] using hcall
          exact hnew (hprop ▸ List.mem_map_of_mem hb)
        · exact hmem
      · intro hall b hb hreq
        rcases List.mem_cons.mp hb with rfl | hb
        · obtain ⟨value, hv⟩ := Option.isSome_iff_exists.mp h.1
          exact ⟨value, hv, List.mem_append_left _ ((mem_atomicAddProperty h).mpr ⟨hreq.2, value, hv, rfl⟩)⟩
        · obtain ⟨value, hv, hmem⟩ := hall b hb hreq
          exact ⟨value, hv, List.mem_append_right _ hmem⟩
    · have hneg := atomicAddProperty_neg.mpr h
      have hitems : (f.runAdds slot plane (a :: rest)).1 = [] := by
        simp [runAdds, hneg, not_mem_atomicAddProperty h]
      have hmis : a.misplaced = true := by
        by_contra hm
        exact hgo (.inr ⟨h, by simpa using hm⟩)
      rw [hitems]
      simp only [Loses, h, hmis, false_and, not_false_eq_true, true_and, false_or]
      constructor
      · rintro hall ⟨b, hb, hreq⟩
        obtain ⟨value, -, hmem⟩ := hall b hb hreq
        simp at hmem
      · intro hnone b hb hreq
        exact (hnone ⟨b, hb, hreq⟩).elim

/-- Every property has one place in the chain. -/
theorem adds_nodup (i : Nat) (plane : DrmPlane) (config : WinConfig) :
    ((f.adds i plane config).map PropertyAdd.property).Nodup := by
  have hif {c : Prop} [Decidable c] (q : PlaneProperty) : (if c then [q] else []).Sublist [q] := by
    split
    · exact .refl _
    · exact List.nil_sublist _
  let first : List PlaneProperty := [.crtc, .fb, .crtc_x, .crtc_y, .crtc_w, .crtc_h, .src_x, .src_y,
    .src_w, .src_h, .rotation, .blend]
  let colour : List PlaneProperty := [.standard, .transfer, .range]
  have hsub : ((f.adds i plane config).map PropertyAdd.property).Sublist
      (first ++ [PlaneProperty.zpos] ++ [PlaneProperty.alpha] ++ [PlaneProperty.in_fence_fd] ++
        [PlaneProperty.colormap] ++ colour ++ [PlaneProperty.hdr_fd] ++ [PlaneProperty.virtual8k_split]) := by
    unfold adds
    simp only [List.map_append, apply_ite (List.map PropertyAdd.property), List.map_cons, List.map_nil,
      plain, enumAdd]
    refine .append (.append (.append (.append (.append (.append (.append ?_ ?_) ?_) ?_) ?_) ?_) ?_) ?_
    · exact .refl _
    · exact hif .zpos
    · exact hif .alpha
    · exact hif .in_fence_fd
    · exact hif .colormap
    · exact .refl _
    · exact hif .hdr_fd
    · exact hif .virtual8k_split
  exact hsub.nodup (by decide)

/-- The zpos in the chain of window `i`. -/
theorem mem_adds_zpos {i : Nat} {config : WinConfig} :
    (∃ b ∈ f.adds i plane config, b.property = .zpos) → HasZpos plane := by
  rintro ⟨b, hb, hprop⟩
  unfold adds at hb
  simp only [List.mem_append] at hb
  rcases hb with ((((((hb | hb) | hb) | hb) | hb) | hb) | hb) | hb
  · simp [plain, enumAdd] at hb
    rcases hb with rfl | rfl | rfl | rfl | rfl | rfl | rfl | rfl | rfl | rfl | rfl | rfl <;> cases hprop
  · split at hb
    · rename_i h
      simpa [HasZpos] using h
    · cases hb
  · split at hb
    · rw [List.mem_singleton.mp hb] at hprop
      cases hprop
    · cases hb
  · split at hb
    · rw [List.mem_singleton.mp hb] at hprop
      cases hprop
    · cases hb
  · split at hb
    · rw [List.mem_singleton.mp hb] at hprop
      cases hprop
    · cases hb
  · simp [enumAdd] at hb
    rcases hb with rfl | rfl | rfl <;> cases hprop
  · split at hb
    · rw [List.mem_singleton.mp hb] at hprop
      cases hprop
    · cases hb
  · split at hb
    · rw [List.mem_singleton.mp hb] at hprop
      cases hprop
    · cases hb

theorem zpos_mem_adds {i : Nat} {config : WinConfig} (h : HasZpos plane) :
    plain .zpos (i + (plane.property .zpos).range_min : Nat) ∈ f.adds i plane config := by
  unfold adds
  simp [h.1, h.2]

/-- The value of the zpos of window `i`. -/
theorem zpos_value {i : Nat} {config : WinConfig} {b : PropertyAdd} (hb : b ∈ f.adds i plane config)
    (hprop : b.property = .zpos) :
    HasZpos plane ∧ b.value = some ((i + (plane.property .zpos).range_min : Nat) : Int) := by
  have hz : HasZpos plane := mem_adds_zpos ⟨b, hb, hprop⟩
  refine ⟨hz, ?_⟩
  have hmem : plain .zpos (i + (plane.property .zpos).range_min : Nat) ∈ f.adds i plane config :=
    zpos_mem_adds hz
  have heq := List.inj_on_of_nodup_map (adds_nodup i plane config) hb hmem hprop
  rw [heq]
  rfl

end Chain

/-! ### The windows of a frame -/

section Windows

theorem setup_neg {i : Nat} {plane : DrmPlane} {config : WinConfig} :
    (f.setupCommitFromDisplayConfig i plane config).2 < 0 ↔
      (f.getBufferId i).1 < 0 ∨ f.Stops i plane (f.adds i plane config) := by
  unfold setupCommitFromDisplayConfig
  by_cases h : (f.getBufferId i).1 < 0
  · simp [h]
  · simp [h, runAdds_neg]

theorem passes_iff {i : Nat} {s : Slot} {plane : DrmPlane} (h : f.planeAt s.chId = some plane) :
    f.Passes i s ↔ ¬(f.setupCommitFromDisplayConfig i plane s.conf).2 < 0 := by
  rw [setup_neg, not_or, Int.not_lt]
  constructor
  · rintro ⟨plane', hplane, hrest⟩
    rw [h] at hplane
    cases hplane
    exact hrest
  · exact fun hrest => ⟨plane, h, hrest⟩

theorem windows_cons_pass {i : Nat} {s : Slot} {rest : List Slot} {plane : DrmPlane}
    (h : f.planeAt s.chId = some plane) (hp : f.Passes i s) :
    f.windows i (s :: rest) =
      ⟨(f.setupCommitFromDisplayConfig i plane s.conf).1 ++ (f.windows (i + 1) rest).items,
        s.chId.toNat :: (f.windows (i + 1) rest).enabled, (f.windows (i + 1) rest).ending⟩ := by
  rw [passes_iff h] at hp
  simp [windows, h, hp]

theorem windows_cons_stop {i : Nat} {s : Slot} {rest : List Slot} {plane : DrmPlane}
    (h : f.planeAt s.chId = some plane) (hp : ¬f.Passes i s) :
    f.windows i (s :: rest) =
      ⟨(f.setupCommitFromDisplayConfig i plane s.conf).1, [],
        .returned (f.setupCommitFromDisplayConfig i plane s.conf).2⟩ := by
  rw [passes_iff h, not_not] at hp
  simp [windows, h, hp]

theorem windows_cons_abort {i : Nat} {s : Slot} {rest : List Slot} (h : f.planeAt s.chId = none) :
    f.windows i (s :: rest) = ⟨[], [], .aborted⟩ := by
  simp [windows, h]

theorem Passes.plane {i : Nat} {s : Slot} (h : f.Passes i s) : ∃ plane, f.planeAt s.chId = some plane :=
  h.imp fun _ h => h.1

/-- What holds of the first slot and of the others. -/
theorem forall_slot_cons {s : Slot} {rest : List Slot} {i : Nat} {P : Nat → Slot → Prop} :
    (∀ (k : Nat) t, (s :: rest)[k]? = some t → P (i + k) t) ↔
      P i s ∧ ∀ (k : Nat) t, rest[k]? = some t → P (i + 1 + k) t := by
  constructor
  · intro h
    refine ⟨h 0 s rfl, ?_⟩
    intro k t hk
    have := h (k + 1) t hk
    rwa [Nat.add_comm k 1, ← Nat.add_assoc] at this
  · rintro ⟨hs, hrest⟩ k t hk
    cases k with
    | zero =>
      cases hk
      exact hs
    | succ k =>
      have := hrest k t hk
      rwa [Nat.add_assoc, Nat.add_comm 1 k] at this

theorem windows_done (l : List Slot) : ∀ i, (f.windows i l).ending = .done ↔
    ∀ (k : Nat) t, l[k]? = some t → f.Passes (i + k) t := by
  induction l with
  | nil => intro i; simp
  | cons s rest ih =>
    intro i
    rw [forall_slot_cons (P := f.Passes)]
    cases hplane : f.planeAt s.chId with
    | none =>
      rw [windows_cons_abort hplane]
      simp only [reduceCtorEq, false_iff]
      rintro ⟨⟨plane, hsome, -⟩, -⟩
      rw [hplane] at hsome
      cases hsome
    | some plane =>
      by_cases hp : f.Passes i s
      · rw [windows_cons_pass hplane hp]
        simp [hp, ih (i + 1)]
      · rw [windows_cons_stop hplane hp]
        simp [hp]

theorem windows_returned (l : List Slot) : ∀ i ret, (f.windows i l).ending = .returned ret → ret < 0 := by
  induction l with
  | nil => intro i ret h; simp at h
  | cons s rest ih =>
    intro i ret h
    cases hplane : f.planeAt s.chId with
    | none =>
      rw [windows_cons_abort hplane] at h
      cases h
    | some plane =>
      by_cases hp : f.Passes i s
      · rw [windows_cons_pass hplane hp] at h
        exact ih (i + 1) ret h
      · rw [windows_cons_stop hplane hp] at h
        cases h
        rw [passes_iff hplane, not_not] at hp
        exact hp

/-- The loop is aborted at a channel without a plane. -/
theorem windows_aborted (l : List Slot) : ∀ i, (f.windows i l).ending = .aborted ↔
    ∃ (k : Nat) (s : Slot), l[k]? = some s ∧ f.planeAt s.chId = none ∧
      ∀ j < k, ∀ t, l[j]? = some t → f.Passes (i + j) t := by
  induction l with
  | nil => intro i; simp
  | cons s rest ih =>
    intro i
    cases hplane : f.planeAt s.chId with
    | none =>
      rw [windows_cons_abort hplane]
      simp only [true_iff]
      exact ⟨0, s, rfl, hplane, fun j hj => absurd hj (Nat.not_lt_zero j)⟩
    | some plane =>
      by_cases hp : f.Passes i s
      · rw [windows_cons_pass hplane hp]
        dsimp only
        rw [ih (i + 1)]
        constructor
        · rintro ⟨k, t, hk, hnone, hbefore⟩
          refine ⟨k + 1, t, hk, hnone, ?_⟩
          intro j hj u hu
          cases j with
          | zero =>
            cases hu
            exact hp
          | succ j =>
            have := hbefore j (by omega) u hu
            rwa [Nat.add_assoc, Nat.add_comm 1 j] at this
        · rintro ⟨k, t, hk, hnone, hbefore⟩
          cases k with
          | zero =>
            cases hk
            rw [hplane] at hnone
            cases hnone
          | succ k =>
            refine ⟨k, t, hk, hnone, ?_⟩
            intro j hj u hu
            have := hbefore (j + 1) (by omega) u hu
            rwa [Nat.add_comm j 1, ← Nat.add_assoc] at this
      · rw [windows_cons_stop hplane hp]
        simp only [reduceCtorEq, false_iff]
        rintro ⟨k, t, hk, hnone, hbefore⟩
        cases k with
        | zero =>
          cases hk
          rw [hplane] at hnone
          cases hnone
        | succ k => exact hp (hbefore 0 (by omega) s rfl)

/-- The channels that are enabled are those of the windows that the loop goes on after. -/
theorem mem_enabled (l : List Slot) : ∀ i chId, chId ∈ (f.windows i l).enabled ↔
    ∃ (k : Nat) (s : Slot), l[k]? = some s ∧ s.chId.toNat = chId ∧
      ∀ j ≤ k, ∀ t, l[j]? = some t → f.Passes (i + j) t := by
  induction l with
  | nil => intro i chId; simp
  | cons s rest ih =>
    intro i chId
    by_cases hp : f.Passes i s
    · obtain ⟨plane, hplane⟩ := hp.plane
      rw [windows_cons_pass hplane hp, List.mem_cons]
      constructor
      · rintro (rfl | hmem)
        · refine ⟨0, s, rfl, rfl, ?_⟩
          intro j hj t ht
          have : j = 0 := by omega
          subst this
          cases ht
          exact hp
        · obtain ⟨k, t, hk, hch, hbefore⟩ := (ih (i + 1) chId).mp hmem
          refine ⟨k + 1, t, hk, hch, ?_⟩
          intro j hj u hu
          cases j with
          | zero =>
            cases hu
            exact hp
          | succ j =>
            have := hbefore j (by omega) u hu
            rwa [Nat.add_assoc, Nat.add_comm 1 j] at this
      · rintro ⟨k, t, hk, hch, hbefore⟩
        cases k with
        | zero =>
          cases hk
          exact .inl hch.symm
        | succ k =>
          refine .inr ((ih (i + 1) chId).mpr ⟨k, t, hk, hch, ?_⟩)
          intro j hj u hu
          have := hbefore (j + 1) (by omega) u hu
          rwa [Nat.add_comm j 1, ← Nat.add_assoc] at this
    · have hnone : (f.windows i (s :: rest)).enabled = [] := by
        cases hplane : f.planeAt s.chId with
        | none => rw [windows_cons_abort hplane]
        | some plane => rw [windows_cons_stop hplane hp]
      rw [hnone]
      simp only [List.not_mem_nil, false_iff]
      rintro ⟨k, t, hk, hch, hbefore⟩
      exact hp (hbefore 0 (Nat.zero_le k) s rfl)

/-- A loop that gets to its end has the items of every window. -/
theorem mem_items (l : List Slot) : ∀ i x, (f.windows i l).ending = .done →
    (x ∈ (f.windows i l).items ↔ ∃ (k : Nat) (s : Slot) (plane : DrmPlane), l[k]? = some s ∧
      f.planeAt s.chId = some plane ∧ x ∈ (f.setupCommitFromDisplayConfig (i + k) plane s.conf).1) := by
  induction l with
  | nil => intro i x _; simp
  | cons s rest ih =>
    intro i x hdone
    have hall := (windows_done (s :: rest) i).mp hdone
    have hp : f.Passes i s := hall 0 s rfl
    obtain ⟨plane, hplane⟩ := hp.plane
    rw [windows_cons_pass hplane hp] at hdone ⊢
    rw [List.mem_append, ih (i + 1) x hdone]
    constructor
    · rintro (hx | ⟨k, t, q, hk, hq, hx⟩)
      · exact ⟨0, s, plane, rfl, hplane, hx⟩
      · refine ⟨k + 1, t, q, hk, hq, ?_⟩
        rwa [Nat.add_comm k 1, ← Nat.add_assoc]
    · rintro ⟨k, t, q, hk, hq, hx⟩
      cases k with
      | zero =>
        cases hk
        rw [hplane] at hq
        cases hq
        exact .inl hx
      | succ k =>
        refine .inr ⟨k, t, q, hk, hq, ?_⟩
        rwa [Nat.add_assoc, Nat.add_comm 1 k]

end Windows

/-! ### The planes of a frame -/

section Planes

variable {chId : Nat} {plane : DrmPlane}

theorem clearProperty_eq_some {property : PlaneProperty} {x : Item} :
    f.clearProperty chId plane property = some x ↔
      ((plane.property property).id ≠ 0 ∧ 0 ≤ f.drmModeAtomicAddProperty (.disable chId property)) ∧
        x = cleared chId plane property := by
  unfold clearProperty cleared
  by_cases h : (plane.property property).id = 0 ∨ f.drmModeAtomicAddProperty (.disable chId property) < 0
  · rw [if_pos h]
    simp only [reduceCtorEq, false_iff, not_and]
    rintro ⟨hid, hret⟩
    rcases h with h | h
    · exact (hid h).elim
    · omega
  · rw [if_neg h]
    rw [not_or, Int.not_lt] at h
    simp only [Option.some.injEq, h, ne_eq, not_false_eq_true, true_and]
    exact eq_comm

/-- A plane is disabled when both of its properties can be added. -/
theorem mem_disablePlane :
    cleared chId plane .crtc ∈ f.disablePlane chId plane ∧
        cleared chId plane .fb ∈ f.disablePlane chId plane ↔
      ∀ property, property = .crtc ∨ property = .fb → (plane.property property).id ≠ 0 ∧
        0 ≤ f.drmModeAtomicAddProperty (.disable chId property) := by
  unfold disablePlane
  have hne : cleared chId plane .fb ≠ cleared chId plane .crtc := by
    intro h
    have := congrArg Item.call h
    simp [cleared] at this
  constructor
  · rintro ⟨hcrtc, hfb⟩
    cases hc : f.clearProperty chId plane .crtc with
    | none => simp [hc] at hcrtc
    | some x =>
      obtain ⟨hc', rfl⟩ := clearProperty_eq_some.mp hc
      cases hf : f.clearProperty chId plane .fb with
      | none => simp [hc, hf, hne] at hfb
      | some y =>
        obtain ⟨hf', -⟩ := clearProperty_eq_some.mp hf
        rintro property (rfl | rfl)
        · exact hc'
        · exact hf'
  · intro h
    have hc := clearProperty_eq_some.mpr ⟨h .crtc (.inl rfl), rfl⟩
    have hf := clearProperty_eq_some.mpr ⟨h .fb (.inr rfl), rfl⟩
    simp [hc, hf]

/-- The items of a plane that is disabled. -/
theorem call_of_mem_disablePlane {x : Item} (h : x ∈ f.disablePlane chId plane) :
    ∃ property, x = cleared chId plane property := by
  unfold disablePlane at h
  cases hc : f.clearProperty chId plane .crtc with
  | none => simp [hc] at h
  | some c =>
    obtain ⟨-, rfl⟩ := clearProperty_eq_some.mp hc
    cases hf : f.clearProperty chId plane .fb with
    | none =>
      simp only [hc, hf, List.mem_singleton] at h
      exact ⟨_, h⟩
    | some b =>
      obtain ⟨-, rfl⟩ := clearProperty_eq_some.mp hf
      simp only [hc, hf, List.mem_cons, List.not_mem_nil, or_false] at h
      rcases h with h | h
      · exact ⟨_, h⟩
      · exact ⟨_, h⟩

theorem mem_disablePlanes {enabled : List Nat} {x : Item} :
    x ∈ f.disablePlanes enabled ↔ ∃ (chId : Nat) (plane : DrmPlane), f.planes[chId]? = some plane ∧
      plane.reservedToOther = false ∧ chId ∉ enabled ∧ x ∈ f.disablePlane chId plane := by
  unfold disablePlanes
  simp only [List.mem_flatMap, List.mem_zipIdx_iff_getElem?, Prod.exists]
  constructor
  · rintro ⟨plane, chId, hplane, hx⟩
    split at hx
    · cases hx
    · rename_i h
      rw [not_or] at h
      exact ⟨chId, plane, hplane, by simpa using h.1, h.2, hx⟩
  · rintro ⟨chId, plane, hplane, hfree, hoff, hx⟩
    refine ⟨plane, chId, hplane, ?_⟩
    rw [if_neg (by simp [hfree, hoff])]
    exact hx

/-- Where an item that disables a plane comes from. -/
theorem cleared_mem_disablePlanes {enabled : List Nat} {property : PlaneProperty}
    (hplane : f.planes[chId]? = some plane) (hfree : plane.reservedToOther = false)
    (hoff : chId ∉ enabled) :
    cleared chId plane property ∈ f.disablePlanes enabled ↔
      cleared chId plane property ∈ f.disablePlane chId plane := by
  rw [mem_disablePlanes]
  constructor
  · rintro ⟨c, q, hq, -, -, hx⟩
    obtain ⟨property', heq⟩ := call_of_mem_disablePlane hx
    have hcall := congrArg Item.call heq
    simp only [cleared, Call.disable.injEq] at hcall
    obtain ⟨rfl, -⟩ := hcall
    rw [hplane] at hq
    cases hq
    exact hx
  · intro hx
    exact ⟨chId, plane, hplane, hfree, hoff, hx⟩

end Planes

/-! ### The request of a frame that gets to its commit -/

section Request

theorem mem_setup {i : Nat} {plane : DrmPlane} {config : WinConfig} {x : Item}
    (h : x ∈ (f.setupCommitFromDisplayConfig i plane config).1) :
    ∃ a ∈ f.adds i plane config, ∃ value, a.value = some value ∧
      x = itemOf i plane a.property value := by
  unfold setupCommitFromDisplayConfig at h
  split at h
  · cases h
  · exact mem_runAdds h

theorem planeAt_eq_some {chId : Int} {plane : DrmPlane} (h : f.planeAt chId = some plane) :
    0 ≤ chId ∧ f.planes[chId.toNat]? = some plane := by
  unfold planeAt at h
  split at h
  · cases h
  · exact ⟨by omega, h⟩

variable (f) in
/-- Every window passes. -/
def AllPass : Prop := ∀ (i : Nat) s, f.slots[i]? = some s → f.Passes i s

variable (f) in
def request : List Item := (f.windows 0 f.slots).items ++ f.disablePlanes (f.windows 0 f.slots).enabled

theorem AllPass.done (h : f.AllPass) : (f.windows 0 f.slots).ending = .done := by
  rw [windows_done]
  intro k t ht
  rw [Nat.zero_add]
  exact h k t ht

/-- The items of a window, in the request and in its setup. -/
theorem AllPass.mem_request (h : f.AllPass) {x : Item} {i : Nat} {property : PlaneProperty}
    (hx : x.call = .window i property) :
    x ∈ f.request ↔ ∃ s plane, f.slots[i]? = some s ∧ f.planeAt s.chId = some plane ∧
      x ∈ (f.setupCommitFromDisplayConfig i plane s.conf).1 := by
  have hitems := mem_items f.slots 0 x h.done
  simp only [Nat.zero_add] at hitems
  unfold request
  rw [List.mem_append, hitems]
  constructor
  · rintro (⟨k, s, plane, hs, hplane, hmem⟩ | hmem)
    · obtain ⟨a, -, value, -, rfl⟩ := mem_setup hmem
      simp only [itemOf, Call.window.injEq] at hx
      obtain ⟨rfl, -⟩ := hx
      exact ⟨s, plane, hs, hplane, hmem⟩
    · obtain ⟨chId, plane, -, -, -, hmem⟩ := mem_disablePlanes.mp hmem
      obtain ⟨property', rfl⟩ := call_of_mem_disablePlane hmem
      cases hx
  · rintro ⟨s, plane, hs, hplane, hmem⟩
    exact .inl ⟨i, s, plane, hs, hplane, hmem⟩

/-- The items that disable planes. -/
theorem AllPass.cleared_mem_request {chId : Nat} {plane : DrmPlane}
    {property : PlaneProperty} (h : f.AllPass) :
    cleared chId plane property ∈ f.request ↔
      cleared chId plane property ∈ f.disablePlanes (f.windows 0 f.slots).enabled := by
  unfold request
  rw [List.mem_append]
  constructor
  · rintro (hmem | hmem)
    · obtain ⟨k, s, q, -, -, hmem⟩ := (mem_items f.slots 0 _ h.done).mp hmem
      obtain ⟨a, -, value, -, heq⟩ := mem_setup hmem
      have := congrArg Item.call heq
      simp [cleared, itemOf] at this
    · exact hmem
  · exact .inr

/-- The channels of the windows are those that are enabled. -/
theorem AllPass.mem_enabled_iff (h : f.AllPass) {chId : Nat} :
    chId ∈ (f.windows 0 f.slots).enabled ↔ ∃ s ∈ f.slots, s.chId = chId := by
  rw [mem_enabled]
  constructor
  · rintro ⟨k, s, hs, hch, -⟩
    refine ⟨s, List.mem_of_getElem? hs, ?_⟩
    obtain ⟨plane, hplane⟩ := (h k s hs).plane
    have := (planeAt_eq_some hplane).1
    omega
  · rintro ⟨s, hs, hch⟩
    obtain ⟨k, hk⟩ := List.mem_iff_getElem?.mp hs
    refine ⟨k, s, hk, by omega, ?_⟩
    intro j _ t ht
    rw [Nat.zero_add]
    exact h j t ht

/-- What the setup of a window that passes has added. -/
theorem Passes.complete_iff {i : Nat} {s : Slot} (h : f.Passes i s) {plane : DrmPlane}
    (hplane : f.planeAt s.chId = some plane) :
    (∀ a ∈ f.adds i plane s.conf, Required plane a → ∃ value, a.value = some value ∧
      itemOf i plane a.property value ∈ (f.setupCommitFromDisplayConfig i plane s.conf).1) ↔
      ¬f.Loses i plane (f.adds i plane s.conf) := by
  obtain ⟨q, hq, hbuffer, hgo⟩ := h
  rw [hplane] at hq
  cases hq
  have hsetup : f.setupCommitFromDisplayConfig i plane s.conf =
      f.runAdds i plane (f.adds i plane s.conf) := if_neg (Int.not_lt.mpr hbuffer)
  rw [hsetup]
  exact runAdds_complete (adds_nodup i plane s.conf) hgo

/-- **The request is complete** exactly when nothing is lost. -/
theorem AllPass.windows_iff (h : f.AllPass) :
    (∀ (i : Nat) s plane, f.slots[i]? = some s → f.planeAt s.chId = some plane →
      ∀ a ∈ f.adds i plane s.conf, Required plane a →
        ∃ value, a.value = some value ∧ itemOf i plane a.property value ∈ f.request) ↔
      ∀ (i : Nat) s plane, f.slots[i]? = some s → f.planeAt s.chId = some plane →
        ¬f.Loses i plane (f.adds i plane s.conf) := by
  have hmem {i : Nat} {s : Slot} {plane : DrmPlane} (hs : f.slots[i]? = some s)
      (hplane : f.planeAt s.chId = some plane) (property : PlaneProperty) (value : Int) :
      itemOf i plane property value ∈ f.request ↔
        itemOf i plane property value ∈ (f.setupCommitFromDisplayConfig i plane s.conf).1 := by
    have hcall : (itemOf i plane property value).call = .window i property := rfl
    rw [h.mem_request hcall]
    constructor
    · rintro ⟨t, q, ht, hq, hx⟩
      rw [hs] at ht
      cases ht
      rw [hplane] at hq
      cases hq
      exact hx
    · exact fun hx => ⟨s, plane, hs, hplane, hx⟩
  constructor
  · intro hall i s plane hs hplane
    rw [← (h i s hs).complete_iff hplane]
    intro a ha hreq
    obtain ⟨value, hv, hx⟩ := hall i s plane hs hplane a ha hreq
    exact ⟨value, hv, (hmem hs hplane _ _).mp hx⟩
  · intro hall i s plane hs hplane a ha hreq
    obtain ⟨value, hv, hx⟩ := ((h i s hs).complete_iff hplane).mpr (hall i s plane hs hplane) a ha hreq
    exact ⟨value, hv, (hmem hs hplane _ _).mpr hx⟩

/-- Where the zpos of a request comes from. -/
theorem AllPass.zpos_item (h : f.AllPass) {i : Nat} {x : Item} (hx : x ∈ f.request)
    (hcall : x.call = .window i .zpos) :
    ∃ s plane, f.slots[i]? = some s ∧ f.planeAt s.chId = some plane ∧ HasZpos plane ∧
      x.value = (i + (plane.property .zpos).range_min : Nat) := by
  obtain ⟨s, plane, hs, hplane, hmem⟩ := (h.mem_request hcall).mp hx
  obtain ⟨a, ha, value, hv, rfl⟩ := mem_setup hmem
  have hprop : a.property = .zpos := by
    simp only [itemOf, Call.window.injEq, true_and] at hcall
    exact hcall
  obtain ⟨hz, hval⟩ := zpos_value ha hprop
  rw [hv, Option.some.injEq] at hval
  exact ⟨s, plane, hs, hplane, hz, hval⟩

theorem AllPass.unused_iff (h : f.AllPass) {chId : Nat} {plane : DrmPlane}
    (hplane : f.planes[chId]? = some plane) (hfree : plane.reservedToOther = false)
    (hunused : ∀ s ∈ f.slots, s.chId ≠ chId) :
    (cleared chId plane .crtc ∈ f.request ∧ cleared chId plane .fb ∈ f.request) ↔
      ∀ property, property = .crtc ∨ property = .fb → (plane.property property).id ≠ 0 ∧
        0 ≤ f.drmModeAtomicAddProperty (.disable chId property) := by
  have hoff : chId ∉ (f.windows 0 f.slots).enabled := by
    rw [h.mem_enabled_iff]
    rintro ⟨s, hs, hch⟩
    exact hunused s hs hch
  rw [h.cleared_mem_request, h.cleared_mem_request, cleared_mem_disablePlanes hplane hfree hoff,
    cleared_mem_disablePlanes hplane hfree hoff, mem_disablePlane]

theorem AllPass.isComplete_iff (h : f.AllPass) (hreads : ∀ (chId : Nat) plane,
    f.planes[chId]? = some plane → plane.reservedToOther = false → chId < f.MAX_DECON_WIN) :
    f.IsComplete f.request ↔ f.Whole := by
  constructor
  · intro hc
    have hzpos {i : Nat} {s : Slot} {p : DrmPlane} (hs : f.slots[i]? = some s)
        (hp : f.planeAt s.chId = some p) (hz : HasZpos p) :
        itemOf i p .zpos (i + (p.property .zpos).range_min : Nat) ∈ f.request := by
      have hreq : Required p (plain .zpos (i + (p.property .zpos).range_min : Nat)) :=
        ⟨by simp [nonOptional, plain], hz.1⟩
      obtain ⟨value, hv, hmem⟩ := hc.windows i s p hs hp _ (zpos_mem_adds hz) hreq
      cases hv
      exact hmem
    refine ⟨h.windows_iff.mp hc.windows, ?_, ?_, hreads⟩
    · intro i j s t p q hij hs ht hp hq hzp hzq
      have hlt := hc.zpos i j hij _ (hzpos hs hp hzp) _ (hzpos ht hq hzq) rfl rfl
      exact Int.ofNat_lt.mp hlt
    · intro chId plane hplane hfree hunused
      exact (h.unused_iff hplane hfree hunused).mp (hc.unused chId plane hplane hfree hunused)
  · intro hw
    refine ⟨h.windows_iff.mpr hw.windows, ?_, ?_⟩
    · intro i j hij x hx y hy hxi hyj
      obtain ⟨s, p, hs, hp, hzp, hxv⟩ := h.zpos_item hx hxi
      obtain ⟨t, q, ht, hq, hzq, hyv⟩ := h.zpos_item hy hyj
      rw [hxv, hyv]
      exact Int.ofNat_lt.mpr (hw.zpos i j s t p q hij hs ht hp hq hzp hzq)
    · intro chId plane hplane hfree hunused
      exact (h.unused_iff hplane hfree hunused).mpr (hw.unused chId plane hplane hfree hunused)

end Request

/-! ### The whole frame -/

section Deliver

theorem deliver_of_starts (h : f.Starts) : f.deliverWinConfigData = f.setupWindows := by
  have hmode : ¬(f.needs_modeset = true ∧ f.setDisplayMode < 0 ∧
      f.setDisplayMode ≠ DrmModes.BAD_TYPE) := by
    rintro ⟨hneeds, hneg, hbad⟩
    rcases (h.modeset hneeds).1 with hok | hok
    · omega
    · exact hbad hok
  have hcommit : ¬(f.needs_modeset = true ∧ f.commitModeSet < 0) := by
    rintro ⟨hneeds, hneg⟩
    have := (h.modeset hneeds).2
    omega
  unfold deliverWinConfigData
  rw [if_neg hmode, if_neg hcommit, if_neg (Int.not_lt.mpr h.concurrent),
    if_neg (Int.not_lt.mpr h.standalone), if_neg (not_not.mpr h.partialRegion),
    if_neg (Int.not_lt.mpr h.outFence)]

/-- A frame that does not start is not committed. -/
theorem deliver_of_not_starts (h : ¬f.Starts)
    (hmode : f.needs_modeset = true → f.setDisplayMode < 0 → f.setDisplayMode = DrmModes.BAD_TYPE) :
    ∃ ret < 0, f.deliverWinConfigData = exit ret ret := by
  have hmode' : ¬(f.needs_modeset = true ∧ f.setDisplayMode < 0 ∧
      f.setDisplayMode ≠ DrmModes.BAD_TYPE) := by
    rintro ⟨hneeds, hneg, hbad⟩
    exact hbad (hmode hneeds hneg)
  unfold deliverWinConfigData
  rw [if_neg hmode']
  by_cases h1 : f.needs_modeset = true ∧ f.commitModeSet < 0
  · exact ⟨_, h1.2, if_pos h1⟩
  rw [if_neg h1]
  by_cases h2 : f.setupConcurrentWritebackCommit.getD 0 < 0
  · exact ⟨_, h2, if_pos h2⟩
  rw [if_neg h2]
  by_cases h3 : f.setupStandaloneWritebackCommit.getD 0 < 0
  · exact ⟨_, h3, if_pos h3⟩
  rw [if_neg h3]
  by_cases h4 : f.setupPartialRegion ≠ 0
  · have := f.partial_le
    exact ⟨_, by omega, if_pos h4⟩
  rw [if_neg h4]
  by_cases h5 : f.addOutFence < 0
  · exact ⟨_, h5, if_pos h5⟩
  · exfalso
    apply h
    refine ⟨?_, Int.not_lt.mp h2, Int.not_lt.mp h3, not_not.mp h4, Int.not_lt.mp h5⟩
    intro hneeds
    have hset := hmode hneeds
    constructor
    · by_cases hneg : f.setDisplayMode < 0
      · exact .inr (hset hneg)
      · exact .inl (Int.not_lt.mp hneg)
    · by_contra hneg
      exact h1 ⟨hneeds, Int.not_le.mp hneg⟩

theorem setupWindows_done (h : (f.windows 0 f.slots).ending = .done) :
    f.setupWindows = ⟨some f.request, f.boundsKept (f.windows 0 f.slots) && f.readsKept,
      if f.commit < 0 then f.commit else 0, f.commit = 0⟩ := by
  unfold setupWindows
  simp only [h]
  rfl

theorem setupWindows_returned {ret : Int} (h : (f.windows 0 f.slots).ending = .returned ret) :
    f.setupWindows = ⟨none, f.boundsKept (f.windows 0 f.slots), ret, false⟩ := by
  unfold setupWindows
  simp only [h]

theorem setupWindows_aborted (h : (f.windows 0 f.slots).ending = .aborted) :
    f.setupWindows = ⟨none, false, 0, false⟩ := by
  unfold setupWindows
  simp only [h]

theorem boundsKept_iff {w : Windows} :
    f.boundsKept w = true ↔ ∀ chId ∈ w.enabled, chId < f.MAX_DECON_WIN := by
  simp [boundsKept]

theorem readsKept_iff : f.readsKept = true ↔ ∀ (chId : Nat) plane, f.planes[chId]? = some plane →
    plane.reservedToOther = false → chId < f.MAX_DECON_WIN := by
  unfold readsKept
  simp only [List.all_eq_true, Prod.forall, List.mem_zipIdx_iff_getElem?, Bool.or_eq_true,
    decide_eq_true_eq]
  constructor
  · intro h chId plane hplane hfree
    rcases h plane chId hplane with hres | hlt
    · rw [hfree] at hres
      cases hres
    · exact hlt
  · intro h plane chId hplane
    cases hres : plane.reservedToOther with
    | true => exact .inl rfl
    | false => exact .inr (h chId plane hplane hres)

/-- All accesses to `planeEnableInfo` by the windows are in bounds. -/
theorem Meets.boundsKept (h : f.Meets) (hs : f.Starts) : f.boundsKept (f.windows 0 f.slots) = true := by
  have hin := h.inBounds
  rw [deliver_of_starts hs] at hin
  cases hend : (f.windows 0 f.slots).ending with
  | done =>
    rw [setupWindows_done hend] at hin
    exact (Bool.and_eq_true_iff.mp hin).1
  | returned ret =>
    rw [setupWindows_returned hend] at hin
    exact hin
  | aborted =>
    rw [setupWindows_aborted hend] at hin
    cases hin

theorem Meets.regular (h : f.Meets) : f.Regular := by
  constructor
  · intro hneeds hneg
    by_contra hbad
    have hexit : f.deliverWinConfigData = exit 0 f.setDisplayMode := if_pos ⟨hneeds, hneg, hbad⟩
    have hflips := h.flips
    rw [hexit] at hflips
    have := (hflips rfl).1
    cases this
  · intro hs i s hslot hbefore
    have hzero : ∀ j < i, ∀ t, f.slots[j]? = some t → f.Passes (0 + j) t := by
      intro j hj t ht
      rw [Nat.zero_add]
      exact hbefore j hj t ht
    constructor
    · by_contra hnone
      have habort : (f.windows 0 f.slots).ending = .aborted :=
        (windows_aborted f.slots 0).mpr ⟨i, s, hslot, by simpa using hnone, hzero⟩
      have hin := h.inBounds
      rw [deliver_of_starts hs, setupWindows_aborted habort] at hin
      cases hin
    · intro hpass
      apply boundsKept_iff.mp (h.boundsKept hs)
      rw [mem_enabled]
      refine ⟨i, s, hslot, rfl, ?_⟩
      intro j hj t ht
      rcases Nat.eq_or_lt_of_le hj with rfl | hlt
      · rw [hslot] at ht
        cases ht
        rwa [Nat.zero_add]
      · exact hzero j hlt t ht
  · intro hs hall
    have hpass : f.AllPass := hall
    have hdeliver := setupWindows_done hpass.done
    have hin := h.inBounds
    have hcomplete := h.complete f.request
    rw [deliver_of_starts hs, hdeliver] at hin hcomplete
    have hreads := readsKept_iff.mp (Bool.and_eq_true_iff.mp hin).2
    exact (hpass.isComplete_iff hreads).mp (hcomplete rfl)

theorem Regular.meets (h : f.Regular) : f.Meets := by
  by_cases hs : f.Starts
  · have hbounds : f.boundsKept (f.windows 0 f.slots) = true := by
      rw [boundsKept_iff]
      intro chId hmem
      obtain ⟨k, s, hslot, rfl, hbefore⟩ := (mem_enabled f.slots 0 chId).mp hmem
      have hpass := hbefore k (Nat.le_refl k) s hslot
      rw [Nat.zero_add] at hpass
      apply (h.channels hs k s hslot ?_).2 hpass
      intro j hj t ht
      have := hbefore j (Nat.le_of_lt hj) t ht
      rwa [Nat.zero_add] at this
    cases hend : (f.windows 0 f.slots).ending with
    | done =>
      have hpass : f.AllPass := by
        intro i s hslot
        have := (windows_done f.slots 0).mp hend i s hslot
        rwa [Nat.zero_add] at this
      have hwhole := h.whole hs hpass
      have hdeliver := setupWindows_done hend
      constructor <;> rw [deliver_of_starts hs, hdeliver]
      · intro req hreq
        cases hreq
        exact (hpass.isComplete_iff hwhole.reads).mpr hwhole
      · exact Bool.and_eq_true_iff.mpr ⟨hbounds, readsKept_iff.mpr hwhole.reads⟩
      · intro hnone
        cases hnone
      · intro hactive
        have hzero : f.commit = 0 := by simpa using hactive
        exact ⟨rfl, by omega⟩
    | returned ret =>
      have hneg := windows_returned f.slots 0 ret hend
      have hdeliver := setupWindows_returned hend
      constructor <;> rw [deliver_of_starts hs, hdeliver]
      · intro req hreq
        cases hreq
      · exact hbounds
      · exact fun _ => hneg
      · intro hactive
        cases hactive
    | aborted =>
      exfalso
      obtain ⟨k, s, hslot, hnone, hbefore⟩ := (windows_aborted f.slots 0).mp hend
      have hsome := (h.channels hs k s hslot (by
        intro j hj t ht
        have := hbefore j hj t ht
        rwa [Nat.zero_add] at this)).1
      rw [hnone] at hsome
      cases hsome
  · obtain ⟨ret, hneg, hdeliver⟩ := deliver_of_not_starts hs h.modeset
    constructor <;> rw [hdeliver]
    · intro req hreq
      cases hreq
    · rfl
    · exact fun _ => hneg
    · intro hactive
      have hzero : ret = 0 := by simpa [exit] using hactive
      omega

/-- **The commit is whole or not issued** exactly for the regular frames. -/
theorem request_meets_iff (f : Frame) : f.Meets ↔ f.Regular := ⟨Meets.regular, Regular.meets⟩

end Deliver

end Frame

/-! ### A window with an unknown blending -/

/-- One window on the only plane; the table of the blending modes has no entry for it. -/
def unknownBlending : Frame where
  configs := [Virtual8K.windowOf 0 ⟨0, 0, 64, 64, 64, 64⟩ ⟨0, 0, 64, 64, 64, 64⟩]
  assignedMPP := fun _ => ⟨0, false, none⟩
  planes := [⟨31, fun _ => ⟨7, false, 0, 255⟩, false⟩]
  MAX_DECON_WIN := 16
  mDrmCrtcId := 40
  mBlendEnums := fun _ => none
  mStandardEnums := fun _ => some 0
  mTransferEnums := fun _ => some 0
  mRangeEnums := fun _ => some 0
  drmModeAtomicAddProperty := fun _ => 1
  getBufferId := fun _ => (0, 1)
  needs_modeset := false
  setDisplayMode := 0
  commitModeSet := 0
  setupConcurrentWritebackCommit := none
  setupStandaloneWritebackCommit := none
  setupPartialRegion := 0
  partial_le := by decide
  addOutFence := 0
  commit := 0

/-- The frame is committed, with a window that has neither a blending nor a zpos. -/
theorem unknownBlending_committed : ¬unknownBlending.Meets := by
  intro h
  have hsome : unknownBlending.deliverWinConfigData.committed.isSome = true := by decide
  obtain ⟨req, hreq⟩ := Option.isSome_iff_exists.mp hsome
  have hwindow := (h.complete req hreq).windows 0 _ _ rfl rfl (Frame.enumAdd .blend none)
  obtain ⟨value, hvalue, -⟩ := hwindow (by simp [Frame.adds, unknownBlending])
    ⟨by decide, by decide⟩
  cases hvalue

end ExynosHal.FrameCommit
