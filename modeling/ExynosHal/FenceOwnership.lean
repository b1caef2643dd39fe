/-
  ExynosHal/FenceOwnership.lean
  =============================
  **Who closes a fence that is passed in.**

  `ExynosLayer::setLayerBuffer` (`libhwc2.1/display/ExynosLayer.cpp`) and
  `ExynosDisplay::setReadbackBuffer` (`libhwc2.1/display/ExynosDisplay.cpp`) take a fence
  from their caller, with the helpers of `ExynosFenceTracer.cpp` that duplicate and close.
  The ledger has the descriptors that are open: after a call they should be those that the
  layer or the display has stored.
-/
import ExynosHal.Ledger
import Mathlib.Data.Nat.Bitwise

namespace ExynosHal.FenceOwnership

/-! ### Descriptors -/

inductive FenceType where
  | SRC_ACQUIRE
  | SRC_DUP_ACQUIRE
deriving DecidableEq, Repr

/-- The flags of `hwcFenceDebug` for `FENCE_IP_LAYER`, and the answers of `dup`. -/
structure Platform where
  hwcFenceDebug : FenceType → Bool
  dup : Int → Int
  /-- `get_format` of no buffer. -/
  nullFormat : Nat

section Tracer

variable (p : Platform) (fds : Ledger Int)

/-- `hwcFdClose` returns -1. -/
def hwcFdClose (fd : Int) : Ledger Int := if 3 ≤ fd then fds.release fd else fds

def hwc_dup (fd : Int) : Ledger Int × Int :=
  let dup_fd := if 3 ≤ fd then p.dup fd else -1
  (if 0 ≤ dup_fd then fds.obtain dup_fd else fds, dup_fd)

def fence_close (fence : Int) : Ledger Int × Int := (hwcFdClose fds fence, -1)

def checkFenceDebug (fence_type : FenceType) (fence : Int) : Ledger Int × Int :=
  if p.hwcFenceDebug fence_type = true ∧ fence ≠ -1 then fence_close fds fence else (fds, fence)

end Tracer

/-! ### The layer -/

def HWC2_ERROR_NONE : Int := 0
def HWC2_ERROR_BAD_LAYER : Int := 3
def HWC2_ERROR_BAD_PARAMETER : Int := 4
def HWC2_ERROR_UNSUPPORTED : Int := 8

def GEOMETRY_LAYER_DATASPACE_CHANGED : Nat := 2 ^ 1
def GEOMETRY_LAYER_COMPRESSED_CHANGED : Nat := 2 ^ 9
def GEOMETRY_LAYER_FORMAT_CHANGED : Nat := 2 ^ 11
def GEOMETRY_LAYER_DRM_CHANGED : Nat := 2 ^ 12
def GEOMETRY_LAYER_UNKNOWN_CHANGED : Nat := 2 ^ 14

inductive DrmMode where
  | NO_DRM
  | NORMAL_DRM
  | SECURE_DRM
deriving DecidableEq, Repr

inductive CompressionType where
  | COMP_TYPE_NONE
  | COMP_TYPE_AFBC
  | COMP_TYPE_SAJC
deriving DecidableEq, Repr

/-- `jfif` is the comparison of the format with `YCrCb_420_SP_M_FULL`. -/
structure Buffer where
  fd : Int
  format : Nat
  jfif : Bool
  drmMode : DrmMode
  compression : CompressionType
deriving DecidableEq, Repr

/-- The dataspaces that the setter tells apart. -/
inductive Dataspace where
  | UNKNOWN
  | V0_JFIF
  | other (dataspace : Nat)
deriving DecidableEq, Repr

structure Layer where
  mAcquireFence : Int
  mPrevAcquireFence : Int
  mReleaseFence : Int
  mLayerBuffer : Option Buffer
  mCompressionInfo : CompressionType
  mDataSpace : Dataspace
  /-- The HAL format and the compression of `mLayerFormat`. -/
  mLayerFormat : Nat × CompressionType
  mGeometryChanged : Nat
deriving DecidableEq, Repr

/-- What a call leaves: the layer, the flags of its caller and the open descriptors. -/
structure LayerOutcome where
  ret : Int
  layer : Layer
  geometryFlag : Nat
  fds : Ledger Int
deriving DecidableEq, Repr

namespace Layer

variable (p : Platform) (l : Layer)

/-- `setGeometryChanged`, with the flags of the caller. -/
def setGeometryChanged (changedBit : Nat) (geometryFlag : Nat) : Layer × Nat :=
  ({ l with mGeometryChanged := l.mGeometryChanged ||| changedBit }, geometryFlag ||| changedBit)

/-- `setLayerDataspace`; the two dataspaces of `setLayerBuffer` are no legacy ones. -/
def setLayerDataspace (dataspace : Dataspace) (geometryFlag : Nat) : Layer × Nat :=
  let currentDataSpace :=
    if (l.mLayerBuffer.map Buffer.jfif).getD false then .V0_JFIF else dataspace
  let (l, geometryFlag) :=
    if currentDataSpace ≠ l.mDataSpace then
      l.setGeometryChanged GEOMETRY_LAYER_DATASPACE_CHANGED geometryFlag
    else (l, geometryFlag)
  ({ l with mDataSpace := currentDataSpace }, geometryFlag)

/-- What a change of the buffer is reported as. -/
def bufferChange : Option Buffer → Option Buffer → Nat
  | some old, some buffer =>
      (if old.drmMode ≠ buffer.drmMode then GEOMETRY_LAYER_DRM_CHANGED else 0) |||
        if old.format ≠ buffer.format then GEOMETRY_LAYER_FORMAT_CHANGED else 0
  | _, _ => GEOMETRY_LAYER_UNKNOWN_CHANGED

/-- The part of `setLayerBuffer` that has the fences. -/
def takeFence (fds : Ledger Int) (acquireFence : Int) : Ledger Int × Layer :=
  let (fds, _) := fence_close fds l.mPrevAcquireFence
  let (fds, _) := fence_close fds l.mAcquireFence
  let (fds, mAcquireFence) := checkFenceDebug p fds .SRC_ACQUIRE acquireFence
  let (fds, dup_fd) := hwc_dup p fds mAcquireFence
  let (fds, mPrevAcquireFence) := checkFenceDebug p fds .SRC_DUP_ACQUIRE dup_fd
  (fds, { l with
    mAcquireFence := mAcquireFence
    mPrevAcquireFence := mPrevAcquireFence
    mReleaseFence := -1 })

/-- The part after the fences. -/
def takeBuffer (buffer : Option Buffer) (geometryFlag : Nat) : Layer × Nat :=
  let compression := (buffer.map Buffer.compression).getD .COMP_TYPE_NONE
  let changed := if compression ≠ l.mCompressionInfo then GEOMETRY_LAYER_COMPRESSED_CHANGED else 0
  let (l, geometryFlag) :=
    { l with mCompressionInfo := compression }.setGeometryChanged changed geometryFlag
  let (l, geometryFlag) :=
    match buffer with
    | some b => if b.jfif then l.setLayerDataspace .V0_JFIF geometryFlag else (l, geometryFlag)
    | none => l.setLayerDataspace .UNKNOWN geometryFlag
  ({ l with
    mLayerBuffer := buffer
    mLayerFormat := ((buffer.map Buffer.format).getD p.nullFormat, compression) }, geometryFlag)

def setLayerBuffer (fds : Ledger Int) (buffer : Option Buffer) (acquireFence : Int)
    (geometryFlag : Nat) : LayerOutcome :=
  if ∃ b ∈ buffer, b.fd < 0 then ⟨HWC2_ERROR_BAD_LAYER, l, geometryFlag, fds⟩
  else
    let (l, geometryFlag) := l.setGeometryChanged (bufferChange l.mLayerBuffer buffer) geometryFlag
    let (fds, l) := l.takeFence p fds acquireFence
    let (l, geometryFlag) := l.takeBuffer p buffer geometryFlag
    ⟨HWC2_ERROR_NONE, l, geometryFlag, fds⟩

def fences : List Int := [l.mAcquireFence, l.mPrevAcquireFence, l.mReleaseFence]

end Layer

/-! ### The display -/

structure WritebackInfo where
  handle : Option Buffer
  rel_fence : Int
  acq_fence : Int
deriving DecidableEq, Repr

structure DpuData where
  enable_readback : Bool
  readback_info : WritebackInfo
deriving DecidableEq, Repr

structure Display where
  mDpuData : DpuData
  /-- `mDisplayControl.readbackSupport`. -/
  readbackSupport : Bool
deriving DecidableEq, Repr

structure DisplayOutcome where
  ret : Int
  display : Display
  fds : Ledger Int
deriving DecidableEq, Repr

/-- `if (fence >= 0) fence = fence_close(fence)`, as the display has it. -/
def closeIfSet (fds : Ledger Int) (fence : Int) : Ledger Int × Int :=
  if fence ≥ 0 then fence_close fds fence else (fds, fence)

namespace Display

variable (d : Display)

def setReadbackBufferInternal (fds : Ledger Int) (buffer : Option Buffer) (releaseFence : Int) :
    Display × Ledger Int :=
  let (fds, _) := closeIfSet fds d.mDpuData.readback_info.rel_fence
  ({ d with mDpuData := { d.mDpuData with readback_info :=
      { d.mDpuData.readback_info with
        rel_fence := releaseFence
        handle := if buffer.isSome then buffer else d.mDpuData.readback_info.handle } } }, fds)

/-- The state after the first lines of `setReadbackBuffer`. -/
def resetReadback (fds : Ledger Int) : Display × Ledger Int :=
  let (fds, acq_fence) := closeIfSet fds d.mDpuData.readback_info.acq_fence
  ({ d with mDpuData :=
    ⟨false, { d.mDpuData.readback_info with acq_fence := acq_fence }⟩ }, fds)

def setReadbackBuffer (fds : Ledger Int) (buffer : Option Buffer) (releaseFence : Int) :
    DisplayOutcome :=
  let (d, fds) := d.resetReadback fds
  if buffer = none then ⟨HWC2_ERROR_BAD_PARAMETER, d, fds⟩
  else if d.readbackSupport then
    let (d, fds) :=
      { d with mDpuData := { d.mDpuData with enable_readback := true } }.setReadbackBufferInternal
        fds buffer releaseFence
    ⟨HWC2_ERROR_NONE, d, fds⟩
  else
    let (fds, releaseFence) := closeIfSet fds releaseFence
    let (d, fds) := d.setReadbackBufferInternal fds buffer releaseFence
    ⟨HWC2_ERROR_UNSUPPORTED, d, fds⟩

def fences : List Int := [d.mDpuData.readback_info.acq_fence, d.mDpuData.readback_info.rel_fence]

end Display

/-! ### What should hold -/

/-- The fields that have a descriptor. -/
def descriptors (fences : List Int) : List Int := fences.filter fun fd => decide (0 ≤ fd)

/-- The descriptors that are open when a fence comes in. -/
def opened (fence : Int) (stored : List Int) : Ledger Int := ⟨descriptors (fence :: stored), []⟩

/-- After the call just what the layer has stored is open, and nothing was closed twice. -/
def Layer.Settles (p : Platform) (l : Layer) (buffer : Option Buffer) (acquireFence : Int)
    (geometryFlag : Nat) : Prop :=
  let o := l.setLayerBuffer p (opened acquireFence l.fences) buffer acquireFence geometryFlag
  o.fds.Holds (descriptors o.layer.fences)

def Display.Settles (d : Display) (buffer : Option Buffer) (releaseFence : Int) : Prop :=
  let o := d.setReadbackBuffer (opened releaseFence d.fences) buffer releaseFence
  o.fds.Holds (descriptors o.display.fences)

/-- A descriptor that `hwcFdClose` refuses. -/
def Standard (fd : Int) : Prop := 0 ≤ fd ∧ fd < 3

instance (fd : Int) : Decidable (Standard fd) := inferInstanceAs (Decidable (_ ∧ _))

/-- A call that loses no fence. -/
def Layer.Orderly (p : Platform) (l : Layer) (buffer : Option Buffer) (acquireFence : Int) : Prop :=
  if ∃ b ∈ buffer, b.fd < 0 then acquireFence < 0
  else
    l.mReleaseFence < 0 ∧ ¬ Standard l.mPrevAcquireFence ∧ ¬ Standard l.mAcquireFence ∧
      (p.hwcFenceDebug .SRC_ACQUIRE = true → ¬ Standard acquireFence) ∧
      (p.hwcFenceDebug .SRC_ACQUIRE = false → p.hwcFenceDebug .SRC_DUP_ACQUIRE = true →
        3 ≤ acquireFence → ¬ Standard (p.dup acquireFence))

def Display.Orderly (d : Display) (buffer : Option Buffer) (releaseFence : Int) : Prop :=
  ¬ Standard d.mDpuData.readback_info.acq_fence ∧
    if buffer = none then releaseFence < 0
    else
      ¬ Standard d.mDpuData.readback_info.rel_fence ∧
        (d.readbackSupport = false → ¬ Standard releaseFence)

/-! ### One step of a call -/

theorem descriptors_cons (fence : Int) (fences : List Int) :
    descriptors (fence :: fences) = descriptors [fence] ++ descriptors fences := by
  unfold descriptors
  rw [← List.filter_append]
  rfl

theorem descriptors_of_nonneg {fence : Int} (h : 0 ≤ fence) : descriptors [fence] = [fence] := by
  simp [descriptors, h]

theorem descriptors_of_neg {fence : Int} (h : fence < 0) : descriptors [fence] = [] := by
  simp [descriptors, h]

theorem descriptors_eq_nil_iff {fence : Int} : descriptors [fence] = [] ↔ fence < 0 := by
  simp [descriptors]

/-- What stays open where `fence` should have been closed. -/
def refused (fence : Int) : List Int := if Standard fence then [fence] else []

theorem refused_eq_nil_iff {fence : Int} : refused fence = [] ↔ ¬ Standard fence := by
  unfold refused
  split
  · rename_i h
    simp [h]
  · rename_i h
    simp [h]

theorem refused_of_standard {fence : Int} (h : Standard fence) : refused fence = [fence] := if_pos h

/-- The descriptor that `hwc_dup` returns. -/
def dupOf (p : Platform) (fd : Int) : Int := if 3 ≤ fd then p.dup fd else -1

/-- The descriptor that the debugging leaves. -/
def debugged (p : Platform) (fence_type : FenceType) (fence : Int) : Int :=
  if p.hwcFenceDebug fence_type then -1 else fence

theorem opened_holds (fence : Int) (stored : List Int) :
    (opened fence stored).Holds (descriptors (fence :: stored)) :=
  ⟨List.Perm.refl _, rfl⟩

section Steps

variable {p : Platform} {fds : Ledger Int} {fence : Int} {rest : List Int}

theorem hwcFdClose_holds (h : fds.Holds (descriptors [fence] ++ rest)) :
    (hwcFdClose fds fence).Holds (refused fence ++ rest) := by
  unfold hwcFdClose
  rcases Int.lt_or_le fence 0 with hneg | hnonneg
  · have hnone : refused fence = [] :=
      refused_eq_nil_iff.mpr fun hstd => absurd hstd.left (by omega)
    rw [descriptors_of_neg hneg] at h
    rw [if_neg (by omega), hnone]
    exact h
  · rw [descriptors_of_nonneg hnonneg] at h
    rcases Int.lt_or_le fence 3 with hlt | hge
    · rw [if_neg (by omega), refused_of_standard ⟨hnonneg, hlt⟩]
      exact h
    · have hnone : refused fence = [] :=
        refused_eq_nil_iff.mpr fun hstd => absurd hstd.right (by omega)
      rw [if_pos hge, hnone]
      exact h.release

theorem hwc_dup_holds (p : Platform) (fence : Int) (h : fds.Holds rest) :
    (hwc_dup p fds fence).1.Holds (descriptors [dupOf p fence] ++ rest) := by
  have hfst : (hwc_dup p fds fence).1 =
      if 0 ≤ dupOf p fence then fds.obtain (dupOf p fence) else fds := rfl
  rw [hfst]
  rcases Int.lt_or_le (dupOf p fence) 0 with hneg | hnonneg
  · rw [if_neg (by omega), descriptors_of_neg hneg]
    exact h
  · rw [if_pos hnonneg, descriptors_of_nonneg hnonneg]
    exact h.obtain _

theorem checkFenceDebug_snd {fence_type : FenceType} :
    (checkFenceDebug p fds fence_type fence).2 = debugged p fence_type fence := by
  unfold checkFenceDebug debugged
  split
  · rename_i hdebug
    rw [if_pos hdebug.left]
    rfl
  · rename_i hnot
    split
    · rename_i hdebug
      exact Decidable.byContradiction fun hne => hnot ⟨hdebug, hne⟩
    · rfl

theorem checkFenceDebug_holds (p : Platform) (fence_type : FenceType)
    (h : fds.Holds (descriptors [fence] ++ rest)) :
    (checkFenceDebug p fds fence_type fence).1.Holds
      (descriptors [debugged p fence_type fence] ++
        ((if p.hwcFenceDebug fence_type then refused fence else []) ++ rest)) := by
  unfold checkFenceDebug debugged
  split
  · rename_i hdebug
    rw [if_pos hdebug.left, if_pos hdebug.left]
    exact hwcFdClose_holds h
  · rename_i hnot
    split
    · rename_i hdebug
      have hnone : fence = -1 := Decidable.byContradiction fun hne => hnot ⟨hdebug, hne⟩
      subst hnone
      exact h
    · exact h

theorem closeIfSet_holds (h : fds.Holds (descriptors [fence] ++ rest)) :
    (closeIfSet fds fence).1.Holds (refused fence ++ rest) ∧ (closeIfSet fds fence).2 < 0 := by
  unfold closeIfSet
  split
  · exact ⟨hwcFdClose_holds h, show (-1 : Int) < 0 by decide⟩
  · rename_i hneg
    have hlt : fence < 0 := by omega
    rw [descriptors_of_neg hlt] at h
    have hnone : refused fence = [] :=
      refused_eq_nil_iff.mpr fun hstd => absurd hstd.left (by omega)
    rw [hnone]
    exact ⟨h, hlt⟩

/-- Where more is open than is stored, something is lost. -/
theorem holds_iff_of_holds {lost stored : List Int} (h : fds.Holds (lost ++ stored)) :
    fds.Holds stored ↔ lost = [] := by
  constructor
  · intro hstored
    have hlength := (h.held.symm.trans hstored.held).length_eq
    rw [List.length_append] at hlength
    exact List.length_eq_zero_iff.mp (by omega)
  · rintro rfl
    exact h

end Steps

/-! ### The layer -/

namespace Layer

variable {p : Platform} {l : Layer} {fds : Ledger Int} {buffer : Option Buffer}
  {acquireFence : Int} {geometryFlag : Nat}

@[simp] theorem setGeometryChanged_fences (changedBit : Nat) :
    (l.setGeometryChanged changedBit geometryFlag).1.fences = l.fences := rfl

theorem setLayerDataspace_fences (dataspace : Dataspace) :
    (l.setLayerDataspace dataspace geometryFlag).1.fences = l.fences := by
  unfold setLayerDataspace
  dsimp only
  generalize (if (l.mLayerBuffer.map Buffer.jfif).getD false then Dataspace.V0_JFIF
    else dataspace) = current
  by_cases hchanged : current ≠ l.mDataSpace
  · rw [if_pos hchanged]
    rfl
  · rw [if_neg hchanged]
    rfl

theorem takeBuffer_fences : (l.takeBuffer p buffer geometryFlag).1.fences = l.fences := by
  unfold takeBuffer
  cases buffer with
  | none => exact setLayerDataspace_fences _
  | some b =>
      dsimp only
      cases b.jfif with
      | false => rfl
      | true => exact setLayerDataspace_fences _

/-- What is lost where the buffer is taken. -/
def lostFences (p : Platform) (l : Layer) (acquireFence : Int) : List Int :=
  (if p.hwcFenceDebug .SRC_DUP_ACQUIRE then
      refused (dupOf p (debugged p .SRC_ACQUIRE acquireFence)) else []) ++
    ((if p.hwcFenceDebug .SRC_ACQUIRE then refused acquireFence else []) ++
      (refused l.mAcquireFence ++ (refused l.mPrevAcquireFence ++ descriptors [l.mReleaseFence])))

theorem takeFence_fences :
    (l.takeFence p fds acquireFence).2.fences =
      [debugged p .SRC_ACQUIRE acquireFence,
        debugged p .SRC_DUP_ACQUIRE (dupOf p (debugged p .SRC_ACQUIRE acquireFence)), -1] := by
  unfold takeFence fences
  dsimp only
  rw [checkFenceDebug_snd, checkFenceDebug_snd]
  rfl

theorem takeFence_fst :
    (l.takeFence p fds acquireFence).1 =
      (checkFenceDebug p (hwc_dup p
        (checkFenceDebug p (hwcFdClose (hwcFdClose fds l.mPrevAcquireFence) l.mAcquireFence)
          .SRC_ACQUIRE acquireFence).1 (debugged p .SRC_ACQUIRE acquireFence)).1
        .SRC_DUP_ACQUIRE (dupOf p (debugged p .SRC_ACQUIRE acquireFence))).1 := by
  unfold takeFence
  dsimp only
  rw [checkFenceDebug_snd]
  rfl

theorem takeFence_holds (h : fds.Holds (descriptors (acquireFence :: l.fences))) :
    (l.takeFence p fds acquireFence).1.Holds
      (lostFences p l acquireFence ++ descriptors (l.takeFence p fds acquireFence).2.fences) := by
  have hstart : fds.Holds (descriptors [l.mPrevAcquireFence] ++ (descriptors [l.mAcquireFence] ++
      (descriptors [acquireFence] ++ descriptors [l.mReleaseFence]))) := by
    apply h.perm
    unfold fences
    rw [descriptors_cons, descriptors_cons l.mAcquireFence, descriptors_cons l.mPrevAcquireFence]
    grind
  have hprev := hwcFdClose_holds hstart
  have hacquire := hwcFdClose_holds (hprev.perm (List.perm_append_comm_assoc _ _ _))
  have hcaller : Ledger.Holds _ (descriptors [acquireFence] ++ (refused l.mAcquireFence ++
      (refused l.mPrevAcquireFence ++ descriptors [l.mReleaseFence]))) :=
    hacquire.perm (by grind)
  have hstored := checkFenceDebug_holds p .SRC_ACQUIRE hcaller
  have hdup := hwc_dup_holds p (debugged p .SRC_ACQUIRE acquireFence) hstored
  have hkept := checkFenceDebug_holds p .SRC_DUP_ACQUIRE hdup
  have hfields : descriptors (l.takeFence p fds acquireFence).2.fences =
      descriptors [debugged p .SRC_ACQUIRE acquireFence] ++
        descriptors [debugged p .SRC_DUP_ACQUIRE (dupOf p (debugged p .SRC_ACQUIRE acquireFence))]
      := by
    rw [takeFence_fences, descriptors_cons, descriptors_cons (debugged p .SRC_DUP_ACQUIRE _),
      descriptors_of_neg (show (-1 : Int) < 0 by decide), List.append_nil]
  rw [takeFence_fst, hfields]
  refine Ledger.Holds.perm hkept ?_
  unfold lostFences
  grind

theorem lostFences_eq_nil_iff :
    lostFences p l acquireFence = [] ↔
      l.mReleaseFence < 0 ∧ ¬ Standard l.mPrevAcquireFence ∧ ¬ Standard l.mAcquireFence ∧
        (p.hwcFenceDebug .SRC_ACQUIRE = true → ¬ Standard acquireFence) ∧
        (p.hwcFenceDebug .SRC_ACQUIRE = false → p.hwcFenceDebug .SRC_DUP_ACQUIRE = true →
          3 ≤ acquireFence → ¬ Standard (p.dup acquireFence)) := by
  have hdup : (if p.hwcFenceDebug .SRC_DUP_ACQUIRE then
        refused (dupOf p (debugged p .SRC_ACQUIRE acquireFence)) else []) = [] ↔
      (p.hwcFenceDebug .SRC_ACQUIRE = false → p.hwcFenceDebug .SRC_DUP_ACQUIRE = true →
        3 ≤ acquireFence → ¬ Standard (p.dup acquireFence)) := by
    have hnone : refused (-1) = [] := rfl
    cases p.hwcFenceDebug .SRC_DUP_ACQUIRE with
    | false => simp
    | true =>
        unfold dupOf debugged
        cases p.hwcFenceDebug .SRC_ACQUIRE with
        | true => simp [hnone]
        | false =>
            by_cases hfd : 3 ≤ acquireFence
            · simp [hfd, refused_eq_nil_iff]
            · simp [hfd, hnone]
  have hdebug : (if p.hwcFenceDebug .SRC_ACQUIRE then refused acquireFence else []) = [] ↔
      (p.hwcFenceDebug .SRC_ACQUIRE = true → ¬ Standard acquireFence) := by
    cases p.hwcFenceDebug .SRC_ACQUIRE with
    | false => simp
    | true => simp [refused_eq_nil_iff]
  unfold lostFences
  rw [List.append_eq_nil_iff, List.append_eq_nil_iff, List.append_eq_nil_iff,
    List.append_eq_nil_iff, hdup, hdebug, refused_eq_nil_iff, refused_eq_nil_iff,
    descriptors_eq_nil_iff]
  constructor
  · rintro ⟨h1, h2, h3, h4, h5⟩
    exact ⟨h5, h4, h3, h2, h1⟩
  · rintro ⟨h5, h4, h3, h2, h1⟩
    exact ⟨h1, h2, h3, h4, h5⟩

/-- **`setLayerBuffer` loses no fence just when it is called in order.** -/
theorem settles_iff (p : Platform) (l : Layer) (buffer : Option Buffer) (acquireFence : Int)
    (geometryFlag : Nat) :
    l.Settles p buffer acquireFence geometryFlag ↔ l.Orderly p buffer acquireFence := by
  have hopened := opened_holds acquireFence l.fences
  unfold Settles Orderly setLayerBuffer
  dsimp only
  by_cases hbad : ∃ b ∈ buffer, b.fd < 0
  · rw [if_pos hbad, if_pos hbad]
    rw [descriptors_cons] at hopened
    rw [holds_iff_of_holds hopened]
    exact descriptors_eq_nil_iff
  · rw [if_neg hbad, if_neg hbad, ← lostFences_eq_nil_iff]
    dsimp only
    rw [takeBuffer_fences]
    exact holds_iff_of_holds (takeFence_holds hopened)

end Layer

/-! ### The display -/

namespace Display

variable {d : Display} {fds : Ledger Int} {buffer : Option Buffer} {releaseFence : Int}

theorem resetReadback_holds {rest : List Int}
    (h : fds.Holds (descriptors [d.mDpuData.readback_info.acq_fence] ++ rest)) :
    (d.resetReadback fds).2.Holds (refused d.mDpuData.readback_info.acq_fence ++ rest) :=
  (closeIfSet_holds h).left

theorem resetReadback_acq_fence :
    descriptors [(d.resetReadback fds).1.mDpuData.readback_info.acq_fence] = [] := by
  apply descriptors_of_neg
  unfold resetReadback closeIfSet
  dsimp only
  split
  · exact show (-1 : Int) < 0 by decide
  · omega

theorem setReadbackBufferInternal_holds (buffer : Option Buffer) (releaseFence : Int)
    {rest : List Int}
    (h : fds.Holds (descriptors [d.mDpuData.readback_info.rel_fence] ++ rest)) :
    (d.setReadbackBufferInternal fds buffer releaseFence).2.Holds
      (refused d.mDpuData.readback_info.rel_fence ++ rest) :=
  (closeIfSet_holds h).left

theorem setReadbackBufferInternal_fences :
    (d.setReadbackBufferInternal fds buffer releaseFence).1.fences =
      [d.mDpuData.readback_info.acq_fence, releaseFence] := rfl

theorem resetReadback_fences (d : Display) (fds : Ledger Int) :
    descriptors (d.resetReadback fds).1.fences =
      descriptors [d.mDpuData.readback_info.rel_fence] := by
  unfold fences
  rw [descriptors_cons, resetReadback_acq_fence]
  rfl

theorem internal_settles_iff {lost : List Int}
    (hacq : descriptors [d.mDpuData.readback_info.acq_fence] = [])
    (h : fds.Holds (descriptors [d.mDpuData.readback_info.rel_fence] ++
      (lost ++ descriptors [releaseFence]))) :
    (d.setReadbackBufferInternal fds buffer releaseFence).2.Holds
        (descriptors (d.setReadbackBufferInternal fds buffer releaseFence).1.fences) ↔
      ¬ Standard d.mDpuData.readback_info.rel_fence ∧ lost = [] := by
  have hinternal := setReadbackBufferInternal_holds buffer releaseFence h
  have hfields : descriptors (d.setReadbackBufferInternal fds buffer releaseFence).1.fences =
      descriptors [releaseFence] := by
    rw [setReadbackBufferInternal_fences, descriptors_cons, hacq]
    rfl
  rw [← List.append_assoc] at hinternal
  rw [hfields, holds_iff_of_holds hinternal, List.append_eq_nil_iff, refused_eq_nil_iff]

/-- **`setReadbackBuffer` loses no fence just when it is called in order.** -/
theorem settles_iff (d : Display) (buffer : Option Buffer) (releaseFence : Int) :
    d.Settles buffer releaseFence ↔ d.Orderly buffer releaseFence := by
  have hopened := opened_holds releaseFence d.fences
  have hreset : (d.resetReadback (opened releaseFence d.fences)).2.Holds
      (refused d.mDpuData.readback_info.acq_fence ++ (descriptors [releaseFence] ++
        descriptors [d.mDpuData.readback_info.rel_fence])) := by
    apply resetReadback_holds
    apply hopened.perm
    unfold fences
    rw [descriptors_cons, descriptors_cons d.mDpuData.readback_info.acq_fence]
    exact List.perm_append_comm_assoc _ _ _
  unfold Settles Orderly setReadbackBuffer
  dsimp only
  by_cases hnull : buffer = none
  · rw [if_pos hnull, if_pos hnull]
    rw [← List.append_assoc, ← resetReadback_fences d
      (opened releaseFence d.fences)] at hreset
    rw [holds_iff_of_holds hreset, List.append_eq_nil_iff, refused_eq_nil_iff,
      descriptors_eq_nil_iff]
  · rw [if_neg hnull, if_neg hnull]
    have hsupport : (d.resetReadback (opened releaseFence d.fences)).1.readbackSupport =
        d.readbackSupport := rfl
    rw [hsupport]
    cases d.readbackSupport with
    | true =>
        have hboth : (d.resetReadback (opened releaseFence d.fences)).2.Holds
            (descriptors [d.mDpuData.readback_info.rel_fence] ++
              (refused d.mDpuData.readback_info.acq_fence ++ descriptors [releaseFence])) :=
          hreset.perm (by grind)
        rw [if_pos rfl]
        refine Iff.trans (internal_settles_iff resetReadback_acq_fence hboth) ?_
        rw [refused_eq_nil_iff]
        constructor
        · rintro ⟨hrel, hacq⟩
          exact ⟨hacq, hrel, fun hfalse => nomatch hfalse⟩
        · rintro ⟨hacq, hrel, -⟩
          exact ⟨hrel, hacq⟩
    | false =>
        -- the fence is closed at once, and the call goes on without one
        obtain ⟨hclosed, hneg⟩ := closeIfSet_holds (hreset.perm (List.perm_append_comm_assoc _ _ _))
        have hboth : (closeIfSet (d.resetReadback (opened releaseFence d.fences)).2
            releaseFence).1.Holds (descriptors [d.mDpuData.readback_info.rel_fence] ++
              ((refused releaseFence ++ refused d.mDpuData.readback_info.acq_fence) ++
                descriptors [(closeIfSet (d.resetReadback (opened releaseFence d.fences)).2
                  releaseFence).2])) := by
          rw [descriptors_of_neg hneg]
          exact hclosed.perm (by grind)
        rw [if_neg (by decide)]
        refine Iff.trans (internal_settles_iff resetReadback_acq_fence hboth) ?_
        rw [List.append_eq_nil_iff, refused_eq_nil_iff, refused_eq_nil_iff]
        constructor
        · rintro ⟨hrel, hrelease, hacq⟩
          exact ⟨hacq, hrel, fun _ => hrelease⟩
        · rintro ⟨hacq, hrel, hrelease⟩
          exact ⟨hrel, hrelease rfl, hacq⟩

end Display

/-- A call that a fence is passed to, with the state it meets. -/
inductive Call where
  | setLayerBuffer (p : Platform) (l : Layer) (buffer : Option Buffer) (acquireFence : Int)
      (geometryFlag : Nat)
  | setReadbackBuffer (d : Display) (buffer : Option Buffer) (releaseFence : Int)

def Call.Settles : Call → Prop
  | .setLayerBuffer p l buffer acquireFence geometryFlag =>
      l.Settles p buffer acquireFence geometryFlag
  | .setReadbackBuffer d buffer releaseFence => d.Settles buffer releaseFence

def Call.Orderly : Call → Prop
  | .setLayerBuffer p l buffer acquireFence _ => l.Orderly p buffer acquireFence
  | .setReadbackBuffer d buffer releaseFence => d.Orderly buffer releaseFence

/-- **Which calls own their fence.**  Exactly the calls in order end with every descriptor
    stored or closed once. -/
theorem fences_settle_iff (c : Call) : c.Settles ↔ c.Orderly := by
  cases c with
  | setLayerBuffer p l buffer acquireFence geometryFlag =>
      exact Layer.settles_iff p l buffer acquireFence geometryFlag
  | setReadbackBuffer d buffer releaseFence => exact Display.settles_iff d buffer releaseFence

/-! ### Calls that lose a fence -/

def quiet : Platform := ⟨fun _ => false, fun fd => fd + 10, 0⟩

def layerWith (mReleaseFence : Int) : Layer :=
  { mAcquireFence := -1
    mPrevAcquireFence := -1
    mReleaseFence := mReleaseFence
    mLayerBuffer := none
    mCompressionInfo := .COMP_TYPE_NONE
    mDataSpace := .UNKNOWN
    mLayerFormat := (1, .COMP_TYPE_NONE)
    mGeometryChanged := 0 }

def bufferWith (fd : Int) : Buffer := ⟨fd, 1, false, .NO_DRM, .COMP_TYPE_NONE⟩

def displayWith (readbackSupport : Bool) : Display :=
  ⟨⟨false, ⟨none, -1, -1⟩⟩, readbackSupport⟩

/-- A handle without a descriptor and a readback without a buffer: the fence 7 stays open, and
    nobody has it.  So does a release fence that was stored before. -/
theorem early_returns_lose_the_fence :
    ¬ (layerWith (-1)).Settles quiet (some (bufferWith (-1))) 7 0 ∧
      ¬ (layerWith 9).Settles quiet (some (bufferWith 5)) 7 0 ∧
      ¬ (displayWith true).Settles none 7 := by
  refine ⟨?_, ?_, ?_⟩
  · intro h
    exact absurd ((List.Perm.mem_iff h.held (a := 7)).mp (by decide)) (by decide)
  · intro h
    exact absurd ((List.Perm.mem_iff h.held (a := 9)).mp (by decide)) (by decide)
  · intro h
    exact absurd ((List.Perm.mem_iff h.held (a := 7)).mp (by decide)) (by decide)

end ExynosHal.FenceOwnership
