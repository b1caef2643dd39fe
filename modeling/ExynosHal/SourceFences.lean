/-
  ExynosHal/SourceFences.lean
  ===========================
  **From the sources of an M2M MPP to the layers' release fences.**

  `ExynosMPP::assignMPP` keeps the sources of an MPP sorted by z-order and
  `doPostProcessingInternal` stores the fence of source `k` in `mSrcImgs[k]`
  (`libhwc2.1/resources/ExynosMPP.cpp`).  `ExynosDisplay::setReleaseFences` and
  `ExynosVirtualDisplay::setReleaseFences` fetch the fences again, by the position of a
  layer in the composition range and by the number of sources.  The display of a writeback
  frame has no window for the client target, which is then a source as well.

  The DPU's own fences (acquire, readback and writeback) are closed in between; no
  release fence depends on them.
-/
import Mathlib.Algebra.Group.Nat.Defs
import ExynosHal.Fallible
import ExynosHal.Ledger
import Mathlib.Data.List.Nodup
import Mathlib.Data.List.Pairwise
import Mathlib.Logic.Function.Basic

namespace ExynosHal.SourceFences

open Fallible

def NUM_MPP_SRC_BUFS : Nat := 15
def EINVAL : Int := 22
def ePriorityHigh : Nat := 3

/-! ### The MPP -/

/-- What an MPP composes: `mLayers[i]`, or the client's target. -/
inductive MPPSource where
  | layer (i : Nat)
  | clientTarget
deriving DecidableEq, Repr

structure ExynosMPP where
  mMaxSrcLayerNum : Nat
  mUseM2MSrcFence : Bool
  mAssignedSources : List MPPSource
  /-- `acrylicReleaseFenceFd` of each slot. -/
  mSrcImgs : Nat → Int

/-- `std::sort` with `exynosMPPSourceComp`: sources of one z-order come in any order. -/
structure StdSort (zOrder : MPPSource → Nat) where
  sort : List MPPSource → List MPPSource
  perm : ∀ l, (sort l).Perm l
  sorted : ∀ l, (sort l).Pairwise fun l r => zOrder l ≤ zOrder r

namespace ExynosMPP

variable (m : ExynosMPP)

def assignMPP {z : MPPSource → Nat} (s : StdSort z) (mppSource : MPPSource) : ExynosMPP :=
  let sources := m.mAssignedSources ++ [mppSource]
  { m with mAssignedSources := if 1 < m.mMaxSrcLayerNum then s.sort sources else sources }

/-- The end of `doPostProcessingInternal`: the fences of `execute`. -/
def storeFences (outFences : Nat → Int) : ExynosMPP :=
  { m with
    mSrcImgs := fun i =>
      if i < m.mAssignedSources.length then if m.mUseM2MSrcFence then outFences i else -1
      else m.mSrcImgs i }

def getAssignedSourceNum : Nat := m.mAssignedSources.length

def getSrcReleaseFence (srcIndex : Nat) : Int :=
  if NUM_MPP_SRC_BUFS ≤ srcIndex then -EINVAL else m.mSrcImgs srcIndex

def resetSrcReleaseFence : ExynosMPP :=
  { m with mSrcImgs := fun i => if i < m.mAssignedSources.length then -1 else m.mSrcImgs i }

end ExynosMPP

/-! ### The display -/

inductive CompositionType where
  | CLIENT
  | DEVICE
  | EXYNOS
deriving DecidableEq, Repr

structure ExynosLayer where
  mZOrder : Nat
  mExynosCompositionType : CompositionType
  mOverlayPriority : Nat
  mWindowIndex : Int
  /-- The MPP that a layer of its own window goes through. -/
  mM2mMPP : Option ExynosMPP
  mReleaseFence : Int

structure CompositionInfo where
  mHasCompositionLayer : Bool
  mFirstIndex : Int
  mLastIndex : Int
  mWindowIndex : Int
deriving DecidableEq, Repr

structure ExynosDisplay where
  isVirtual : Bool
  mUseDpu : Bool
  size : Nat
  mLayers : Nat → ExynosLayer
  mClientCompositionInfo : CompositionInfo
  mExynosCompositionInfo : CompositionInfo
  /-- `mExynosCompositionInfo.mM2mMPP`. -/
  mM2mMPP : Option ExynosMPP
  /-- `rel_fence` of each of `mDpuData.configs`. -/
  configs : List Int

/-- `dup`, and whether the fence tracer closes the release fences of the DPU. -/
structure Tracer where
  dup : Int → Int
  hwcFenceDebug : Bool

namespace ExynosDisplay

variable (p : Tracer) (d : ExynosDisplay)

/-- `mSrcImg.zOrder`, which `setCompositionTargetExynosImage` chooses for the target. -/
def zOrder : MPPSource → Nat
  | .layer i => (d.mLayers i).mZOrder
  | .clientTarget =>
      if d.mClientCompositionInfo.mLastIndex < d.mExynosCompositionInfo.mLastIndex then 0 else 1000

def setReleaseFence (i : Nat) (fence : Int) : ExynosDisplay :=
  { d with mLayers := Function.update d.mLayers i { d.mLayers i with mReleaseFence := fence } }

def HasWindow (mWindowIndex : Int) : Prop :=
  0 ≤ mWindowIndex ∧ mWindowIndex < d.configs.length

instance (w : Int) : Decidable (d.HasWindow w) :=
  inferInstanceAs (Decidable (0 ≤ w ∧ w < d.configs.length))

def rel_fence (mWindowIndex : Int) : Int := d.configs.getD mWindowIndex.toNat (-1)

end ExynosDisplay

namespace Tracer

variable (p : Tracer)

def hwc_dup (fd : Int) : Int := if 3 ≤ fd then p.dup fd else -1

def checkFenceDebug (fence : Int) : Int := if p.hwcFenceDebug ∧ fence ≠ -1 then -1 else fence

end Tracer

namespace ExynosDisplay

variable (p : Tracer)

/-! ### `ExynosDisplay::setReleaseFences` -/

/-- The layers of the client composition, from `i` on. -/
def clientLoop : Nat → Int → ExynosDisplay → ExynosDisplay × Bool
  | 0, _, d => (d, true)
  | n + 1, i, d =>
      let layer := d.mLayers i.toNat
      if layer.mExynosCompositionType ≠ .CLIENT then
        if layer.mOverlayPriority < ePriorityHigh then (d, false) else clientLoop n (i + 1) d
      else
        clientLoop n (i + 1) (d.setReleaseFence i.toNat
          (if d.mUseDpu then
            p.checkFenceDebug (p.hwc_dup (d.rel_fence d.mClientCompositionInfo.mWindowIndex))
          else -1))

/-- The number of runs of a loop from `mFirstIndex` to `mLastIndex`. -/
def CompositionInfo.count (info : CompositionInfo) : Nat :=
  (info.mLastIndex + 1 - info.mFirstIndex).toNat

def clientStep (d : ExynosDisplay) : ExynosDisplay × Bool :=
  let info := d.mClientCompositionInfo
  if info.mHasCompositionLayer ∧ d.HasWindow info.mWindowIndex then
    clientLoop p (CompositionInfo.count info) info.mFirstIndex d
  else (d, true)

/-- The release fence of a layer that has a window of its own. -/
def deviceFence (d : ExynosDisplay) (layer : ExynosLayer) : Int :=
  let rel_fence := d.rel_fence layer.mWindowIndex
  match layer.mM2mMPP with
  | some m =>
      if m.mUseM2MSrcFence then m.getSrcReleaseFence 0 else p.checkFenceDebug (p.hwc_dup rel_fence)
  | none =>
      if 0 ≤ rel_fence then if 0 ≤ p.checkFenceDebug rel_fence then p.checkFenceDebug rel_fence else -1
      else -1

/-- The layers that are composed neither by the client nor by the MPP, from `i` on. -/
def deviceLoop : Nat → Nat → ExynosDisplay → ExynosDisplay × Bool
  | 0, _, d => (d, true)
  | n + 1, i, d =>
      let layer := d.mLayers i
      if layer.mExynosCompositionType = .DEVICE then
        if d.HasWindow layer.mWindowIndex then
          deviceLoop n (i + 1)
            { d with
              mLayers := Function.update d.mLayers i
                { layer with
                  mReleaseFence := deviceFence p d layer
                  mM2mMPP := layer.mM2mMPP.map ExynosMPP.resetSrcReleaseFence } }
        else (d, false)
      else deviceLoop n (i + 1) d

/-- The layers of the MPP's composition, from `i` on. -/
def exynosLoop (m : ExynosMPP) : Nat → Int → ExynosDisplay → ExynosDisplay × Bool
  | 0, _, d => (d, true)
  | n + 1, i, d =>
      -- only the client target is assigned
      if i = -1 then (d, true)
      else if (d.mLayers i.toNat).mExynosCompositionType ≠ .EXYNOS then (d, false)
      else
        exynosLoop m n (i + 1) (d.setReleaseFence i.toNat
          (if m.mUseM2MSrcFence then
            m.getSrcReleaseFence (i - d.mExynosCompositionInfo.mFirstIndex).toNat
          else p.hwc_dup (d.rel_fence d.mExynosCompositionInfo.mWindowIndex)))

def exynosStep (d : ExynosDisplay) : ExynosDisplay × Bool :=
  let info := d.mExynosCompositionInfo
  if info.mHasCompositionLayer then
    match d.mM2mMPP with
    | none => (d, false)
    | some m =>
        if d.mUseDpu ∧ ¬d.HasWindow info.mWindowIndex then (d, false)
        else
          andThen (exynosLoop p m (CompositionInfo.count info) info.mFirstIndex d) fun d =>
            ({ d with mM2mMPP := some m.resetSrcReleaseFence }, true)
  else (d, true)

/-- The display after the call, and whether the call got to its end. -/
def setReleaseFences (d : ExynosDisplay) : ExynosDisplay × Bool :=
  andThen (andThen (clientStep p d) fun d => deviceLoop p d.size 0 d) (exynosStep p)

end ExynosDisplay

/-! ### `ExynosVirtualDisplay::setReleaseFences` -/

/-- `fence_close`; `hwcFdClose` leaves the standard descriptors open. -/
def fence_close (fds : Ledger Int) (fence : Int) : Ledger Int :=
  if 3 ≤ fence then fds.release fence else fds

/-- The source that the variant takes for the client target. -/
def framebufferTargetIndex (m : ExynosMPP) : Nat :=
  (m.getAssignedSourceNum + (2 ^ 32 - 1)) % 2 ^ 32

def closeTargetFence (d : ExynosDisplay) (m : ExynosMPP) (fds : Ledger Int) : Ledger Int :=
  if d.mUseDpu = false ∧ d.mClientCompositionInfo.mHasCompositionLayer = true then
    let fence := m.getSrcReleaseFence (framebufferTargetIndex m)
    if 0 < fence then fence_close fds fence else fds
  else fds

/-- A call on either kind of display, with the source fences that are open. -/
def setReleaseFences (p : Tracer) (d : ExynosDisplay) (m : ExynosMPP) (fds : Ledger Int) :
    ExynosDisplay × Ledger Int :=
  ((d.setReleaseFences p).1, if d.isVirtual then closeTargetFence d m fds else fds)

/-! ### Frames -/

/-- The range of the MPP's composition holds layer `i`. -/
def InRange (info : CompositionInfo) (i : Nat) : Prop := info.mFirstIndex ≤ i ∧ (i : Int) ≤ info.mLastIndex

/-- A frame whose MPP gives fences for its sources, between `doPostProcessing` and
    `setReleaseFences`. -/
structure Frame where
  d : ExynosDisplay
  m : ExynosMPP
  assigned : d.mM2mMPP = some m
  gives : m.mUseM2MSrcFence = true
  nodup : m.mAssignedSources.Nodup
  fits : m.mAssignedSources.length ≤ NUM_MPP_SRC_BUFS
  /-- The MPP composes the layers of the exynos composition. -/
  layer_mem : ∀ i, InRange d.mExynosCompositionInfo i →
    (d.mLayers i).mExynosCompositionType = .EXYNOS → .layer i ∈ m.mAssignedSources
  layer_type : ∀ i, .layer i ∈ m.mAssignedSources → (d.mLayers i).mExynosCompositionType = .EXYNOS
  /-- `setClientTargetBufferToExynosCompositor`. -/
  target_mem : .clientTarget ∈ m.mAssignedSources ↔
    d.mUseDpu = false ∧ d.mClientCompositionInfo.mHasCompositionLayer = true
  dpu : d.mUseDpu = false → d.isVirtual = true
  /-- The descriptors of the fences differ, and -1 stands for no fence. -/
  valid : ∀ k < m.mAssignedSources.length, -1 ≤ m.mSrcImgs k
  distinct : ∀ j < m.mAssignedSources.length, ∀ k < m.mAssignedSources.length,
    0 ≤ m.mSrcImgs j → m.mSrcImgs j = m.mSrcImgs k → j = k
  client_first : d.mClientCompositionInfo.mHasCompositionLayer = true →
    0 ≤ d.mClientCompositionInfo.mFirstIndex
  /-- The range is that of no layer, with the client target alone, or of some layers. -/
  exynos_first : d.mExynosCompositionInfo.mHasCompositionLayer = true →
    0 ≤ d.mExynosCompositionInfo.mFirstIndex ∨
      d.mExynosCompositionInfo.mFirstIndex = -1 ∧ d.mExynosCompositionInfo.mLastIndex = -1
  /-- The client has taken the fences of the frame before. -/
  taken : ∀ i, .layer i ∈ m.mAssignedSources → (d.mLayers i).mReleaseFence = -1

namespace Frame

variable (p : Tracer) (f : Frame)

/-- The source fences that `execute` has opened. -/
def opened : Ledger Int :=
  ⟨((List.range f.m.mAssignedSources.length).filter (0 ≤ f.m.mSrcImgs ·)).map f.m.mSrcImgs, []⟩

def after : ExynosDisplay × Ledger Int := setReleaseFences p f.d f.m f.opened

/-- A layer gets the fence of its own source, and every descriptor is passed on to a layer
    or closed. -/
structure Meets : Prop where
  own : ∀ k i, f.m.mAssignedSources[k]? = some (.layer i) →
    ((f.after p).1.mLayers i).mReleaseFence = f.m.mSrcImgs k
  settled : ∀ fd, fd ∈ (f.after p).2.held ↔
    0 ≤ fd ∧ ∃ i, .layer i ∈ f.m.mAssignedSources ∧ ((f.after p).1.mLayers i).mReleaseFence = fd

end Frame

/-! ### What the loops leave alone -/

/-- Only the layers that the MPP does not compose have changed, in their release fence and
    their own MPP. -/
structure Untouched (d d' : ExynosDisplay) : Prop where
  rest : d' = { d with mLayers := d'.mLayers }
  type : ∀ i, (d'.mLayers i).mExynosCompositionType = (d.mLayers i).mExynosCompositionType
  window : ∀ i, (d'.mLayers i).mWindowIndex = (d.mLayers i).mWindowIndex
  exynos : ∀ i, (d.mLayers i).mExynosCompositionType = .EXYNOS → d'.mLayers i = d.mLayers i

namespace Untouched

variable {d d' d'' : ExynosDisplay}

theorem refl (d : ExynosDisplay) : Untouched d d :=
  ⟨rfl, fun _ => rfl, fun _ => rfl, fun _ _ => rfl⟩

theorem trans (h : Untouched d d') (h' : Untouched d' d'') : Untouched d d'' := by
  constructor
  · rw [h'.rest, h.rest]
  · intro i
    rw [h'.type, h.type]
  · intro i
    rw [h'.window, h.window]
  · intro i hi
    rw [h'.exynos i (by rw [h.type, hi]), h.exynos i hi]

/-- A layer that the MPP does not compose may be replaced by one of its kind. -/
theorem update {i : Nat} {layer : ExynosLayer}
    (htype : layer.mExynosCompositionType = (d.mLayers i).mExynosCompositionType)
    (hwindow : layer.mWindowIndex = (d.mLayers i).mWindowIndex)
    (hi : (d.mLayers i).mExynosCompositionType ≠ .EXYNOS) :
    Untouched d { d with mLayers := Function.update d.mLayers i layer } := by
  refine ⟨rfl, ?_, ?_, ?_⟩
  · intro j
    by_cases h : j = i
    · subst h
      simp [htype]
    · simp [h]
  · intro j
    by_cases h : j = i
    · subst h
      simp [hwindow]
    · simp [h]
  · intro j hj
    have hne : j ≠ i := by
      rintro rfl
      exact hi hj
    simp [hne]

theorem hasWindow (h : Untouched d d') (w : Int) : d'.HasWindow w ↔ d.HasWindow w := by
  rw [h.rest]
  exact Iff.rfl

end Untouched

section Loops

variable (p : Tracer)

/-- A layer that the loop over the client composition accepts. -/
def PassesClient (layer : ExynosLayer) : Prop :=
  layer.mExynosCompositionType = .CLIENT ∨ ePriorityHigh ≤ layer.mOverlayPriority

theorem setReleaseFence_passes (d : ExynosDisplay) (i j : Nat) (fence : Int) :
    PassesClient ((d.setReleaseFence i fence).mLayers j) ↔ PassesClient (d.mLayers j) := by
  by_cases h : j = i
  · subst h
    simp [ExynosDisplay.setReleaseFence, PassesClient]
  · simp [ExynosDisplay.setReleaseFence, h]

theorem clientLoop_spec (n : Nat) : ∀ (i : Nat) (d : ExynosDisplay),
    Untouched d (ExynosDisplay.clientLoop p n i d).1 ∧
      ((ExynosDisplay.clientLoop p n i d).2 = true ↔ ∀ k < n, PassesClient (d.mLayers (i + k))) := by
  induction n with
  | zero =>
    intro i d
    exact ⟨.refl d, by simp [ExynosDisplay.clientLoop]⟩
  | succ n ih =>
    intro i d
    have hsplit (q : Nat → Prop) : (∀ k < n + 1, q (i + k)) ↔ q i ∧ ∀ k < n, q (i + 1 + k) := by
      constructor
      · intro h
        exact ⟨h 0 (by omega), fun k hk => by simpa [Nat.add_assoc, Nat.add_comm 1 k] using h (k + 1) (by omega)⟩
      · rintro ⟨h0, h⟩ k hk
        cases k with
        | zero => exact h0
        | succ k => simpa [Nat.add_assoc, Nat.add_comm 1 k] using h k (by omega)
    rw [hsplit fun j => PassesClient (d.mLayers j)]
    by_cases htype : (d.mLayers i).mExynosCompositionType = .CLIENT
    · have hpass : PassesClient (d.mLayers i) := .inl htype
      let d' := d.setReleaseFence i
        (if d.mUseDpu then
          p.checkFenceDebug (p.hwc_dup (d.rel_fence d.mClientCompositionInfo.mWindowIndex))
        else -1)
      have hstep : ExynosDisplay.clientLoop p (n + 1) i d = ExynosDisplay.clientLoop p n (i + 1 : Nat) d' := by
        simp [ExynosDisplay.clientLoop, htype, d']
      have hun : Untouched d d' := Untouched.update rfl rfl (by simp [htype])
      obtain ⟨hkeep, hok⟩ := ih (i + 1) d'
      rw [hstep]
      refine ⟨hun.trans hkeep, hok.trans ?_⟩
      simp only [d', setReleaseFence_passes, hpass, true_and]
    · by_cases hprio : (d.mLayers i).mOverlayPriority < ePriorityHigh
      · have hstep : ExynosDisplay.clientLoop p (n + 1) i d = (d, false) := by
          simp [ExynosDisplay.clientLoop, htype, hprio]
        rw [hstep]
        refine ⟨.refl d, ?_⟩
        simp [PassesClient, htype, Nat.not_le.mpr hprio]
      · have hpass : PassesClient (d.mLayers i) := .inr (Nat.le_of_not_lt hprio)
        have hstep : ExynosDisplay.clientLoop p (n + 1) i d = ExynosDisplay.clientLoop p n (i + 1 : Nat) d := by
          simp [ExynosDisplay.clientLoop, htype, hprio]
        obtain ⟨hkeep, hok⟩ := ih (i + 1) d
        rw [hstep]
        exact ⟨hkeep, hok.trans (by simp [hpass])⟩

theorem deviceLoop_spec (n : Nat) : ∀ (i : Nat) (d : ExynosDisplay),
    Untouched d (ExynosDisplay.deviceLoop p n i d).1 ∧
      ((ExynosDisplay.deviceLoop p n i d).2 = true ↔ ∀ j, i ≤ j → j < i + n →
        (d.mLayers j).mExynosCompositionType = .DEVICE → d.HasWindow (d.mLayers j).mWindowIndex) := by
  induction n with
  | zero =>
    intro i d
    refine ⟨.refl d, ?_⟩
    simp only [ExynosDisplay.deviceLoop, true_iff]
    intro j hj hj'
    omega
  | succ n ih =>
    intro i d
    by_cases htype : (d.mLayers i).mExynosCompositionType = .DEVICE
    · by_cases hwin : d.HasWindow (d.mLayers i).mWindowIndex
      · let d' : ExynosDisplay :=
          { d with
            mLayers := Function.update d.mLayers i
              { d.mLayers i with
                mReleaseFence := ExynosDisplay.deviceFence p d (d.mLayers i)
                mM2mMPP := (d.mLayers i).mM2mMPP.map ExynosMPP.resetSrcReleaseFence } }
        have hstep : ExynosDisplay.deviceLoop p (n + 1) i d = ExynosDisplay.deviceLoop p n (i + 1) d' := by
          simp [ExynosDisplay.deviceLoop, htype, hwin, d']
        have hun : Untouched d d' := Untouched.update rfl rfl (by simp [htype])
        obtain ⟨hkeep, hok⟩ := ih (i + 1) d'
        rw [hstep]
        refine ⟨hun.trans hkeep, hok.trans ?_⟩
        constructor
        · intro h j hj hj' hdev
          rcases Nat.eq_or_lt_of_le hj with rfl | hlt
          · exact hwin
          · have := h j hlt (by omega) (by rw [hun.type, hdev])
            rwa [hun.window, hun.hasWindow] at this
        · intro h j hj hj' hdev
          rw [hun.window, hun.hasWindow]
          exact h j (by omega) (by omega) (by rw [← hun.type, hdev])
      · have hstep : ExynosDisplay.deviceLoop p (n + 1) i d = (d, false) := by
          simp [ExynosDisplay.deviceLoop, htype, hwin]
        rw [hstep]
        refine ⟨.refl d, ?_⟩
        simp only [Bool.false_eq_true, false_iff]
        intro h
        exact hwin (h i (Nat.le_refl i) (by omega) htype)
    · have hstep : ExynosDisplay.deviceLoop p (n + 1) i d = ExynosDisplay.deviceLoop p n (i + 1) d := by
        simp [ExynosDisplay.deviceLoop, htype]
      obtain ⟨hkeep, hok⟩ := ih (i + 1) d
      rw [hstep]
      refine ⟨hkeep, hok.trans ?_⟩
      constructor
      · intro h j hj hj' hdev
        rcases Nat.eq_or_lt_of_le hj with rfl | hlt
        · exact (htype hdev).elim
        · exact h j hlt (by omega) hdev
      · intro h j hj hj' hdev
        exact h j (by omega) (by omega) hdev

/-! ### The loop over the MPP's layers -/

@[simp] theorem setReleaseFence_type (d : ExynosDisplay) (i j : Nat) (fence : Int) :
    ((d.setReleaseFence i fence).mLayers j).mExynosCompositionType =
      (d.mLayers j).mExynosCompositionType := by
  by_cases h : j = i
  · subst h
    simp [ExynosDisplay.setReleaseFence]
  · simp [ExynosDisplay.setReleaseFence, h]

theorem setReleaseFence_ne {d : ExynosDisplay} {i j : Nat} {fence : Int} (h : j ≠ i) :
    (d.setReleaseFence i fence).mLayers j = d.mLayers j := by
  simp [ExynosDisplay.setReleaseFence, h]

theorem setReleaseFence_self (d : ExynosDisplay) (i : Nat) (fence : Int) :
    ((d.setReleaseFence i fence).mLayers i).mReleaseFence = fence := by
  simp [ExynosDisplay.setReleaseFence]

variable {p : Tracer} {m : ExynosMPP} {f : Nat}

theorem exynosLoop_cons (hm : m.mUseM2MSrcFence = true) {n a : Nat} {d : ExynosDisplay}
    (hf : d.mExynosCompositionInfo.mFirstIndex = f)
    (ht : (d.mLayers (f + a)).mExynosCompositionType = .EXYNOS) :
    ExynosDisplay.exynosLoop p m (n + 1) ((f + a : Nat) : Int) d =
      ExynosDisplay.exynosLoop p m n ((f + (a + 1) : Nat) : Int)
        (d.setReleaseFence (f + a) (m.getSrcReleaseFence a)) := by
  have hi : ((f + a : Nat) : Int) ≠ -1 := by omega
  have ha : (((f + a : Nat) : Int) - (f : Int)).toNat = a := by omega
  have hnext : ((f + a : Nat) : Int) + 1 = ((f + (a + 1) : Nat) : Int) := by omega
  rw [ExynosDisplay.exynosLoop, if_neg hi, Int.toNat_natCast, if_neg (by simp [ht]), if_pos hm, hf, ha, hnext]

theorem exynosLoop_stop {n a : Nat} {d : ExynosDisplay}
    (ht : (d.mLayers (f + a)).mExynosCompositionType ≠ .EXYNOS) :
    ExynosDisplay.exynosLoop p m (n + 1) ((f + a : Nat) : Int) d = (d, false) := by
  have hi : ((f + a : Nat) : Int) ≠ -1 := by omega
  rw [ExynosDisplay.exynosLoop, if_neg hi, Int.toNat_natCast, if_pos ht]

theorem exynosLoop_miss (hm : m.mUseM2MSrcFence = true) {j : Nat} (n : Nat) :
    ∀ (a : Nat) (d : ExynosDisplay), d.mExynosCompositionInfo.mFirstIndex = f →
      (∀ b, a ≤ b → b < a + n → j = f + b →
        ∃ c, a ≤ c ∧ c ≤ b ∧ (d.mLayers (f + c)).mExynosCompositionType ≠ .EXYNOS) →
      (ExynosDisplay.exynosLoop p m n ((f + a : Nat) : Int) d).1.mLayers j = d.mLayers j := by
  induction n with
  | zero =>
    intro a d _ _
    rfl
  | succ n ih =>
    intro a d hf hmiss
    by_cases ht : (d.mLayers (f + a)).mExynosCompositionType = .EXYNOS
    · have hj : j ≠ f + a := by
        intro hj
        obtain ⟨c, hac, hca, hc⟩ := hmiss a (Nat.le_refl a) (by omega) hj
        have : c = a := by omega
        subst this
        exact hc ht
      rw [exynosLoop_cons hm hf ht,
        ih (a + 1) (d.setReleaseFence (f + a) (m.getSrcReleaseFence a)) hf, setReleaseFence_ne hj]
      intro b hb hbn hjb
      obtain ⟨c, hac, hcb, hc⟩ := hmiss b (by omega) (by omega) hjb
      rcases Nat.eq_or_lt_of_le hac with rfl | hlt
      · exact (hc ht).elim
      · exact ⟨c, hlt, hcb, by rwa [setReleaseFence_type]⟩
    · rw [exynosLoop_stop ht]

theorem exynosLoop_hit (hm : m.mUseM2MSrcFence = true) (n : Nat) :
    ∀ (a b : Nat) (d : ExynosDisplay), d.mExynosCompositionInfo.mFirstIndex = f → a ≤ b → b < a + n →
      (∀ c, a ≤ c → c ≤ b → (d.mLayers (f + c)).mExynosCompositionType = .EXYNOS) →
      ((ExynosDisplay.exynosLoop p m n ((f + a : Nat) : Int) d).1.mLayers (f + b)).mReleaseFence =
        m.getSrcReleaseFence b := by
  induction n with
  | zero =>
    intro a b d _ hab hbn
    omega
  | succ n ih =>
    intro a b d hf hab hbn hall
    have ht := hall a (Nat.le_refl a) hab
    rw [exynosLoop_cons hm hf ht]
    rcases Nat.eq_or_lt_of_le hab with rfl | hlt
    · rw [exynosLoop_miss hm n (a + 1) (d.setReleaseFence (f + a) (m.getSrcReleaseFence a)) hf,
        setReleaseFence_self]
      intro c hc _ hac
      omega
    · apply ih (a + 1) b (d.setReleaseFence (f + a) (m.getSrcReleaseFence a)) hf hlt (by omega)
      intro c hc hcb
      rw [setReleaseFence_type]
      exact hall c (by omega) hcb

end Loops

/-! ### The whole call -/

namespace Frame

variable (p : Tracer) (f : Frame)

/-- Nothing stops the call before the loop over the MPP's layers. -/
structure Passes (d : ExynosDisplay) : Prop where
  client : d.mClientCompositionInfo.mHasCompositionLayer = true →
    d.HasWindow d.mClientCompositionInfo.mWindowIndex →
    ∀ i, InRange d.mClientCompositionInfo i → PassesClient (d.mLayers i)
  device : ∀ i < d.size, (d.mLayers i).mExynosCompositionType = .DEVICE →
    d.HasWindow (d.mLayers i).mWindowIndex
  window : d.mUseDpu = true → d.HasWindow d.mExynosCompositionInfo.mWindowIndex

/-- The call gets to layer `k` of the exynos composition: it is in the range, and no layer
    before it belongs to another composition. -/
structure Reaches (d : ExynosDisplay) (k : Nat) : Prop where
  passes : Passes d
  has : d.mExynosCompositionInfo.mHasCompositionLayer = true
  first : 0 ≤ d.mExynosCompositionInfo.mFirstIndex
  last : d.mExynosCompositionInfo.mFirstIndex + k ≤ d.mExynosCompositionInfo.mLastIndex
  type : ∀ j ≤ k, (d.mLayers (d.mExynosCompositionInfo.mFirstIndex.toNat + j)).mExynosCompositionType =
    .EXYNOS

variable {p} {f}

theorem clientStep_spec (d : ExynosDisplay)
    (hfirst : d.mClientCompositionInfo.mHasCompositionLayer = true →
      0 ≤ d.mClientCompositionInfo.mFirstIndex) :
    Untouched d (d.clientStep p).1 ∧ ((d.clientStep p).2 = true ↔
      (d.mClientCompositionInfo.mHasCompositionLayer = true →
        d.HasWindow d.mClientCompositionInfo.mWindowIndex →
        ∀ i, InRange d.mClientCompositionInfo i → PassesClient (d.mLayers i))) := by
  unfold ExynosDisplay.clientStep
  by_cases h : d.mClientCompositionInfo.mHasCompositionLayer = true ∧
      d.HasWindow d.mClientCompositionInfo.mWindowIndex
  · have hf := hfirst h.1
    have hcast : d.mClientCompositionInfo.mFirstIndex =
        (d.mClientCompositionInfo.mFirstIndex.toNat : Int) := by omega
    obtain ⟨hkeep, hok⟩ := clientLoop_spec p (ExynosDisplay.CompositionInfo.count d.mClientCompositionInfo)
      d.mClientCompositionInfo.mFirstIndex.toNat d
    simp only [h, and_self, if_true, forall_const]
    rw [hcast]
    refine ⟨hkeep, hok.trans ?_⟩
    unfold ExynosDisplay.CompositionInfo.count InRange
    constructor
    · rintro hall i ⟨hi, hi'⟩
      have := hall (i - d.mClientCompositionInfo.mFirstIndex.toNat) (by omega)
      rwa [Nat.add_sub_cancel' (by omega)] at this
    · intro hall k hk
      exact hall _ ⟨by omega, by omega⟩
  · rw [if_neg h]
    refine ⟨.refl d, ?_⟩
    simp only [true_iff]
    intro h1 h2
    exact (h ⟨h1, h2⟩).elim

/-- The loops before that over the MPP's layers. -/
theorem before_spec (d : ExynosDisplay)
    (hfirst : d.mClientCompositionInfo.mHasCompositionLayer = true →
      0 ≤ d.mClientCompositionInfo.mFirstIndex) :
    let r := andThen (d.clientStep p) fun d => ExynosDisplay.deviceLoop p d.size 0 d
    Untouched d r.1 ∧ (r.2 = true ↔
      (d.mClientCompositionInfo.mHasCompositionLayer = true →
        d.HasWindow d.mClientCompositionInfo.mWindowIndex →
        ∀ i, InRange d.mClientCompositionInfo i → PassesClient (d.mLayers i)) ∧
      ∀ i < d.size, (d.mLayers i).mExynosCompositionType = .DEVICE →
        d.HasWindow (d.mLayers i).mWindowIndex) := by
  intro r
  obtain ⟨hkeep, hok⟩ := clientStep_spec (p := p) d hfirst
  obtain ⟨hkeep', hok'⟩ := deviceLoop_spec p (d.clientStep p).1.size 0 (d.clientStep p).1
  have hsize : (d.clientStep p).1.size = d.size := by
    rw [hkeep.rest]
  cases hr : (d.clientStep p).2 with
  | false =>
    have hrun : r = d.clientStep p := by
      simp [r, andThen, hr]
    rw [hrun]
    refine ⟨hkeep, ?_⟩
    rw [← hok]
    simp [hr]
  | true =>
    have hrun : r = ExynosDisplay.deviceLoop p (d.clientStep p).1.size 0 (d.clientStep p).1 := by
      simp [r, andThen, hr]
    rw [hrun]
    refine ⟨hkeep.trans hkeep', ?_⟩
    rw [hok', ← hok, hr]
    simp only [true_and]
    constructor
    · intro h i hi hdev
      have := h i (Nat.zero_le i) (by omega) (by rw [hkeep.type, hdev])
      rwa [hkeep.window, hkeep.hasWindow] at this
    · intro h i _ hi hdev
      rw [hkeep.window, hkeep.hasWindow]
      exact h i (by omega) (by rw [← hkeep.type, hdev])

theorem exynosStep_eq {d d' : ExynosDisplay} {m : ExynosMPP} (h : Untouched d d')
    (hm : d.mM2mMPP = some m) (hhas : d.mExynosCompositionInfo.mHasCompositionLayer = true)
    (hwin : d.mUseDpu = true → d.HasWindow d.mExynosCompositionInfo.mWindowIndex) :
    (ExynosDisplay.exynosStep p d').1.mLayers =
      (ExynosDisplay.exynosLoop p m (ExynosDisplay.CompositionInfo.count d.mExynosCompositionInfo)
        d.mExynosCompositionInfo.mFirstIndex d').1.mLayers := by
  have hinfo : d'.mExynosCompositionInfo = d.mExynosCompositionInfo := by rw [h.rest]
  have hm' : d'.mM2mMPP = some m := by rw [h.rest, ← hm]
  have hdpu : d'.mUseDpu = d.mUseDpu := by rw [h.rest]
  have hok : ¬(d'.mUseDpu = true ∧ ¬d'.HasWindow d.mExynosCompositionInfo.mWindowIndex) := by
    rintro ⟨hu, hw⟩
    rw [hdpu] at hu
    rw [h.hasWindow] at hw
    exact hw (hwin hu)
  unfold ExynosDisplay.exynosStep
  rw [hinfo, if_pos hhas]
  simp only [hm', if_neg hok, andThen]
  split <;> rfl

theorem exynosStep_none {d d' : ExynosDisplay} (h : Untouched d d')
    (hskip : d.mExynosCompositionInfo.mHasCompositionLayer = false ∨
      ¬(d.mUseDpu = true → d.HasWindow d.mExynosCompositionInfo.mWindowIndex)) :
    (ExynosDisplay.exynosStep p d').1 = d' := by
  have hinfo : d'.mExynosCompositionInfo = d.mExynosCompositionInfo := by rw [h.rest]
  have hdpu : d'.mUseDpu = d.mUseDpu := by rw [h.rest]
  unfold ExynosDisplay.exynosStep
  rw [hinfo, hdpu]
  simp only [h.hasWindow]
  rcases hskip with hhas | hwin
  · simp [hhas]
  · rw [Classical.not_imp] at hwin
    split
    · split
      · rfl
      · simp
    · rfl

/-- What the call leaves in the layers of the MPP, from what the loops before have left. -/
theorem layers_eq (f : Frame) :
    ∃ d', Untouched f.d d' ∧
      ((¬Passes f.d ∨ f.d.mExynosCompositionInfo.mHasCompositionLayer = false) →
        (f.after p).1.mLayers = d'.mLayers) ∧
      (Passes f.d → f.d.mExynosCompositionInfo.mHasCompositionLayer = true →
        (f.after p).1.mLayers =
          (ExynosDisplay.exynosLoop p f.m
            (ExynosDisplay.CompositionInfo.count f.d.mExynosCompositionInfo)
            f.d.mExynosCompositionInfo.mFirstIndex d').1.mLayers) := by
  obtain ⟨hkeep, hok⟩ := before_spec (p := p) f.d f.client_first
  let r := andThen (f.d.clientStep p) fun d => ExynosDisplay.deviceLoop p d.size 0 d
  have hafter : (f.after p).1 = (andThen r (ExynosDisplay.exynosStep p)).1 := rfl
  refine ⟨r.1, hkeep, ?_, ?_⟩
  · intro hstop
    cases hr : r.2 with
    | false => simp [hafter, andThen, hr]
    | true =>
      have hskip : f.d.mExynosCompositionInfo.mHasCompositionLayer = false ∨
          ¬(f.d.mUseDpu = true → f.d.HasWindow f.d.mExynosCompositionInfo.mWindowIndex) := by
        rcases hstop with hpass | hhas
        · right
          intro hwin
          obtain ⟨hc, hd⟩ := hok.mp hr
          exact hpass ⟨hc, hd, hwin⟩
        · exact .inl hhas
      have hnone : (ExynosDisplay.exynosStep p r.1).1 = r.1 := exynosStep_none hkeep hskip
      simp [hafter, andThen, hr, hnone]
  · intro hpass hhas
    have hr : r.2 = true := hok.mpr ⟨hpass.client, hpass.device⟩
    simp only [hafter, andThen, hr, if_true]
    exact exynosStep_eq hkeep f.assigned hhas hpass.window

/-- **A layer that the call gets to.** -/
theorem after_hit {k : Nat} (h : Reaches f.d k) :
    ((f.after p).1.mLayers (f.d.mExynosCompositionInfo.mFirstIndex.toNat + k)).mReleaseFence =
      f.m.getSrcReleaseFence k := by
  obtain ⟨d', hkeep, -, hloop⟩ := f.layers_eq (p := p)
  have hcast : f.d.mExynosCompositionInfo.mFirstIndex =
      ((f.d.mExynosCompositionInfo.mFirstIndex.toNat + 0 : Nat) : Int) := by
    have := h.first
    omega
  have hlast := h.last
  rw [hloop h.passes h.has, hcast]
  apply exynosLoop_hit f.gives
  · rw [hkeep.rest]
    exact hcast
  · exact Nat.zero_le k
  · unfold ExynosDisplay.CompositionInfo.count
    omega
  · intro c _ hc
    rw [hkeep.type]
    exact h.type c hc

/-- **A layer that the call does not get to.** -/
theorem after_miss {i : Nat} (hi : (f.d.mLayers i).mExynosCompositionType = .EXYNOS)
    (hmiss : ∀ k, i = f.d.mExynosCompositionInfo.mFirstIndex.toNat + k → ¬Reaches f.d k) :
    (f.after p).1.mLayers i = f.d.mLayers i := by
  obtain ⟨d', hkeep, hskip, hloop⟩ := f.layers_eq (p := p)
  by_cases hgo : Passes f.d ∧ f.d.mExynosCompositionInfo.mHasCompositionLayer = true
  · obtain ⟨hpass, hhas⟩ := hgo
    rw [hloop hpass hhas, ← hkeep.exynos i hi]
    rcases f.exynos_first hhas with hfirst | ⟨hfirst, hlast⟩
    · have hcast : f.d.mExynosCompositionInfo.mFirstIndex =
          ((f.d.mExynosCompositionInfo.mFirstIndex.toNat + 0 : Nat) : Int) := by omega
      rw [hcast]
      apply exynosLoop_miss f.gives
      · rw [hkeep.rest]
        exact hcast
      · intro b _ hb hib
        by_contra hall
        apply hmiss b hib
        refine ⟨hpass, hhas, hfirst, ?_, ?_⟩
        · unfold ExynosDisplay.CompositionInfo.count at hb
          omega
        · intro j hj
          by_contra hne
          exact hall ⟨j, Nat.zero_le j, hj, by rwa [hkeep.type]⟩
    · rw [hfirst]
      cases ExynosDisplay.CompositionInfo.count f.d.mExynosCompositionInfo with
      | zero => rfl
      | succ n => rfl
  · have hstop : ¬Passes f.d ∨ f.d.mExynosCompositionInfo.mHasCompositionLayer = false := by
      by_cases hpass : Passes f.d
      · right
        simpa [hpass] using hgo
      · exact .inl hpass
    rw [hskip hstop, hkeep.exynos i hi]

/-! ### Positions and fences -/

theorem mem_iff_getElem? {s : MPPSource} :
    s ∈ f.m.mAssignedSources ↔ ∃ k : Nat, f.m.mAssignedSources[k]? = some s :=
  List.mem_iff_getElem?

theorem lt_of_getElem? {k : Nat} {s : MPPSource} (h : f.m.mAssignedSources[k]? = some s) :
    k < f.m.mAssignedSources.length := (List.getElem?_eq_some_iff.mp h).1

theorem position_unique {j k : Nat} {s : MPPSource} (hj : f.m.mAssignedSources[j]? = some s)
    (hk : f.m.mAssignedSources[k]? = some s) : j = k :=
  (List.getElem?_inj (lt_of_getElem? hj) f.nodup).mp (hj.trans hk.symm)

/-- The MPP has a source for every layer that the call gets to, and the client target
    besides. -/
theorem Reaches.lt {k : Nat} (h : Reaches f.d k) :
    k + (if .clientTarget ∈ f.m.mAssignedSources then 1 else 0) < f.m.mAssignedSources.length := by
  let layers := (List.range (k + 1)).map fun j =>
    MPPSource.layer (f.d.mExynosCompositionInfo.mFirstIndex.toNat + j)
  have hinj : layers.Nodup := by
    apply List.Nodup.map_on ?_ List.nodup_range
    intro a _ b _ hab
    simpa using hab
  have hmem : ∀ s ∈ layers, s ∈ f.m.mAssignedSources := by
    intro s hs
    obtain ⟨j, hj, rfl⟩ := List.mem_map.mp hs
    rw [List.mem_range] at hj
    have hfirst := h.first
    have hlast := h.last
    apply f.layer_mem
    · constructor <;> omega
    · exact h.type j (by omega)
  have hlen : layers.length = k + 1 := by simp [layers]
  split
  case isTrue hclient =>
    have hnew : (MPPSource.clientTarget :: layers).Nodup := by
      rw [List.nodup_cons]
      exact ⟨by simp [layers], hinj⟩
    have hsub : (MPPSource.clientTarget :: layers) ⊆ f.m.mAssignedSources := by
      intro s hs
      rcases List.mem_cons.mp hs with rfl | hs
      · exact hclient
      · exact hmem s hs
    have := (List.subperm_of_subset hnew hsub).length_le
    rw [List.length_cons] at this
    omega
  case isFalse _ =>
    have := (List.subperm_of_subset hinj hmem).length_le
    omega

theorem Reaches.lt_length {k : Nat} (h : Reaches f.d k) : k < f.m.mAssignedSources.length := by
  have := h.lt
  omega

/-- Every position has a slot. -/
theorem getSrcReleaseFence_eq {k : Nat} (h : k < f.m.mAssignedSources.length) :
    f.m.getSrcReleaseFence k = f.m.mSrcImgs k := by
  have := f.fits
  exact if_neg (by omega)

theorem mem_opened {fd : Int} :
    fd ∈ f.opened.held ↔ 0 ≤ fd ∧ ∃ k < f.m.mAssignedSources.length, f.m.mSrcImgs k = fd := by
  simp only [opened, List.mem_map, List.mem_filter, List.mem_range, decide_eq_true_eq]
  constructor
  · rintro ⟨k, ⟨hk, hv⟩, rfl⟩
    exact ⟨hv, k, hk, rfl⟩
  · rintro ⟨hv, k, hk, rfl⟩
    exact ⟨k, ⟨hk, hv⟩, rfl⟩

theorem opened_nodup : f.opened.held.Nodup := by
  apply List.Nodup.map_on ?_ (List.nodup_range.filter _)
  intro a ha b hb hab
  rw [List.mem_filter, List.mem_range, decide_eq_true_eq] at ha hb
  exact f.distinct a ha.1 b hb.1 ha.2 hab

/-- The client target is composed by the MPP: the fence of the last source is closed. -/
theorem after_target (h : .clientTarget ∈ f.m.mAssignedSources) :
    (f.after p).2.held =
      if 3 ≤ f.m.mSrcImgs (f.m.mAssignedSources.length - 1) then
        f.opened.held.erase (f.m.mSrcImgs (f.m.mAssignedSources.length - 1))
      else f.opened.held := by
  obtain ⟨hdpu, hhas⟩ := f.target_mem.mp h
  have hpos : 0 < f.m.mAssignedSources.length := List.length_pos_of_mem h
  have hfits : f.m.mAssignedSources.length ≤ 15 := f.fits
  have hindex : framebufferTargetIndex f.m = f.m.mAssignedSources.length - 1 := by
    unfold framebufferTargetIndex ExynosMPP.getAssignedSourceNum
    omega
  have hslot : f.m.getSrcReleaseFence (f.m.mAssignedSources.length - 1) =
      f.m.mSrcImgs (f.m.mAssignedSources.length - 1) := getSrcReleaseFence_eq (by omega)
  unfold after setReleaseFences closeTargetFence
  simp only [f.dpu hdpu, hdpu, hhas, hindex, hslot, and_self, if_true, fence_close]
  by_cases hclose : 3 ≤ f.m.mSrcImgs (f.m.mAssignedSources.length - 1)
  · have hmem : f.m.mSrcImgs (f.m.mAssignedSources.length - 1) ∈ f.opened.held :=
      mem_opened.mpr ⟨by omega, _, by omega, rfl⟩
    rw [if_pos (by omega), if_pos hclose, if_pos hclose, Ledger.release_of_mem hmem]
  · simp only [if_neg hclose, ite_self]

/-- Otherwise nothing is closed. -/
theorem after_no_target (h : .clientTarget ∉ f.m.mAssignedSources) :
    (f.after p).2.held = f.opened.held := by
  rw [f.target_mem] at h
  unfold after setReleaseFences closeTargetFence
  simp only [if_neg h, ite_self]

/-! ### When the fences go where they belong -/

variable (f)

/-- Where source `s` has to stand among the sources for the call to find its fence. -/
def Stands (k : Nat) : MPPSource → Prop
  | .layer i => (i : Int) = f.d.mExynosCompositionInfo.mFirstIndex + k ∧ Reaches f.d k
  | .clientTarget => k + 1 = f.m.mAssignedSources.length ∧ 3 ≤ f.m.mSrcImgs k

/-- Every source with a fence stands where the call looks for it: the layers of the
    composition in their order, and the client target at the end, with a fence that is
    not a standard descriptor. -/
def Regular : Prop :=
  ∀ k s, f.m.mAssignedSources[k]? = some s → 0 ≤ f.m.mSrcImgs k → f.Stands k s

variable {f}

theorem fence_cases {k : Nat} (hk : k < f.m.mAssignedSources.length) :
    0 ≤ f.m.mSrcImgs k ∨ f.m.mSrcImgs k = -1 := by
  have := f.valid k hk
  omega

theorem Meets.stands_layer (h : f.Meets p) {k i : Nat}
    (hk : f.m.mAssignedSources[k]? = some (.layer i)) (hv : 0 ≤ f.m.mSrcImgs k) :
    f.Stands k (.layer i) := by
  have hown := h.own k i hk
  have hmem : .layer i ∈ f.m.mAssignedSources := mem_iff_getElem?.mpr ⟨k, hk⟩
  by_cases hreach : ∃ j, i = f.d.mExynosCompositionInfo.mFirstIndex.toNat + j ∧ Reaches f.d j
  · obtain ⟨j, rfl, hj⟩ := hreach
    have hlt := hj.lt_length
    have hfirst := hj.first
    rw [after_hit hj, getSrcReleaseFence_eq hlt] at hown
    have hjk : j = k := f.distinct j hlt k (lt_of_getElem? hk) (by omega) hown
    subst hjk
    refine ⟨?_, hj⟩
    omega
  · have hold : (f.after p).1.mLayers i = f.d.mLayers i := by
      apply after_miss (f.layer_type i hmem)
      intro j hj hr
      exact hreach ⟨j, hj, hr⟩
    rw [hold, f.taken i hmem] at hown
    omega

theorem Meets.stands_target (h : f.Meets p) {k : Nat}
    (hk : f.m.mAssignedSources[k]? = some .clientTarget) (hv : 0 ≤ f.m.mSrcImgs k) :
    f.Stands k .clientTarget := by
  have hlt := lt_of_getElem? hk
  have hmem : .clientTarget ∈ f.m.mAssignedSources := mem_iff_getElem?.mpr ⟨k, hk⟩
  have hopen : f.m.mSrcImgs k ∈ f.opened.held := mem_opened.mpr ⟨hv, k, hlt, rfl⟩
  have hgone : f.m.mSrcImgs k ∉ (f.after p).2.held := by
    intro hheld
    obtain ⟨-, i, hi, hfence⟩ := (h.settled _).mp hheld
    obtain ⟨j, hj⟩ := mem_iff_getElem?.mp hi
    rw [h.own j i hj] at hfence
    have hjk : k = j := f.distinct k hlt j (lt_of_getElem? hj) hv hfence.symm
    subst hjk
    simp [hk] at hj
  rw [after_target hmem] at hgone
  split at hgone
  case isTrue hclose =>
    have heq : f.m.mSrcImgs k = f.m.mSrcImgs (f.m.mAssignedSources.length - 1) := by
      by_contra hne
      exact hgone ((List.mem_erase_of_ne hne).mpr hopen)
    have hlast : k = f.m.mAssignedSources.length - 1 := f.distinct k hlt _ (by omega) hv heq
    refine ⟨by omega, ?_⟩
    rwa [heq]
  case isFalse => exact (hgone hopen).elim

theorem Regular.own (h : f.Regular) {k i : Nat} (hk : f.m.mAssignedSources[k]? = some (.layer i)) :
    ((f.after p).1.mLayers i).mReleaseFence = f.m.mSrcImgs k := by
  have hlt := lt_of_getElem? hk
  have hmem : .layer i ∈ f.m.mAssignedSources := mem_iff_getElem?.mpr ⟨k, hk⟩
  rcases fence_cases hlt with hv | hnone
  · obtain ⟨hi, hr⟩ := h k _ hk hv
    have hfirst := hr.first
    have hi' : i = f.d.mExynosCompositionInfo.mFirstIndex.toNat + k := by omega
    rw [hi', after_hit hr, getSrcReleaseFence_eq hlt]
  · by_cases hreach : ∃ j, i = f.d.mExynosCompositionInfo.mFirstIndex.toNat + j ∧ Reaches f.d j
    · obtain ⟨j, rfl, hj⟩ := hreach
      have hjlt := hj.lt_length
      rw [after_hit hj, getSrcReleaseFence_eq hjlt, hnone]
      rcases fence_cases hjlt with hjv | hjnone
      · exfalso
        -- the source at `j` has a fence, so it is this layer or the client target
        have hstands := h j _ (List.getElem?_eq_getElem hjlt) hjv
        cases hs : f.m.mAssignedSources[j] with
        | layer i' =>
          rw [hs] at hstands
          obtain ⟨hi', -⟩ := hstands
          have hfirst := hj.first
          have hsame : i' = f.d.mExynosCompositionInfo.mFirstIndex.toNat + j := by omega
          have hj' : f.m.mAssignedSources[j]? =
              some (.layer (f.d.mExynosCompositionInfo.mFirstIndex.toNat + j)) := by
            rw [List.getElem?_eq_getElem hjlt, hs, hsame]
          have := position_unique hj' hk
          subst this
          omega
        | clientTarget =>
          rw [hs] at hstands
          obtain ⟨hlast, -⟩ := hstands
          have hclient : .clientTarget ∈ f.m.mAssignedSources := hs ▸ List.getElem_mem hjlt
          have := hj.lt
          rw [if_pos hclient] at this
          omega
      · exact hjnone
    · have hold : (f.after p).1.mLayers i = f.d.mLayers i := by
        apply after_miss (f.layer_type i hmem)
        intro j hj hr
        exact hreach ⟨j, hj, hr⟩
      rw [hold, f.taken i hmem, hnone]

/-- The descriptors that are not closed are those of the layers. -/
theorem Regular.held (h : f.Regular) (fd : Int) :
    fd ∈ (f.after p).2.held ↔
      0 ≤ fd ∧ ∃ k i, f.m.mAssignedSources[k]? = some (.layer i) ∧ f.m.mSrcImgs k = fd := by
  have hlayer {k : Nat} (hk : k < f.m.mAssignedSources.length)
      (hne : f.m.mAssignedSources[k]? ≠ some .clientTarget) :
      ∃ i, f.m.mAssignedSources[k]? = some (.layer i) := by
    rw [List.getElem?_eq_getElem hk] at hne ⊢
    cases hs : f.m.mAssignedSources[k] with
    | layer i => exact ⟨i, rfl⟩
    | clientTarget => exact (hne (by rw [hs])).elim
  by_cases hmem : .clientTarget ∈ f.m.mAssignedSources
  · obtain ⟨c, hc⟩ := mem_iff_getElem?.mp hmem
    have hclt := lt_of_getElem? hc
    -- the last fence is that of the client target, unless there is none
    have hlast : 0 ≤ f.m.mSrcImgs (f.m.mAssignedSources.length - 1) →
        c = f.m.mAssignedSources.length - 1 := by
      intro hv
      by_contra hne
      have hlt : f.m.mAssignedSources.length - 1 < f.m.mAssignedSources.length := by omega
      obtain ⟨i, hi⟩ := hlayer hlt fun heq => hne (position_unique hc heq)
      obtain ⟨-, hr⟩ := h _ _ hi hv
      have := hr.lt
      rw [if_pos hmem] at this
      omega
    rw [after_target hmem]
    split
    case isTrue hclose =>
      have hcl := hlast (by omega)
      rw [opened_nodup.mem_erase_iff, mem_opened, ← hcl]
      constructor
      · rintro ⟨hne, hv, k, hk, rfl⟩
        obtain ⟨i, hi⟩ := hlayer hk fun heq => hne (by rw [position_unique hc heq])
        exact ⟨hv, k, i, hi, rfl⟩
      · rintro ⟨hv, k, i, hi, rfl⟩
        refine ⟨?_, hv, k, lt_of_getElem? hi, rfl⟩
        intro heq
        have hkc : k = c := f.distinct k (lt_of_getElem? hi) c hclt hv heq
        rw [hkc, hc] at hi
        cases hi
    case isFalse hclose =>
      rw [mem_opened]
      constructor
      · rintro ⟨hv, k, hk, rfl⟩
        obtain ⟨i, hi⟩ := hlayer hk (by
          intro heq
          obtain ⟨hend, hstd⟩ := h k _ heq hv
          have : k = f.m.mAssignedSources.length - 1 := by omega
          rw [this] at hstd
          exact hclose hstd)
        exact ⟨hv, k, i, hi, rfl⟩
      · rintro ⟨hv, k, i, hi, rfl⟩
        exact ⟨hv, k, lt_of_getElem? hi, rfl⟩
  · rw [after_no_target hmem, mem_opened]
    constructor
    · rintro ⟨hv, k, hk, rfl⟩
      obtain ⟨i, hi⟩ := hlayer hk fun heq => hmem (mem_iff_getElem?.mpr ⟨k, heq⟩)
      exact ⟨hv, k, i, hi, rfl⟩
    · rintro ⟨hv, k, i, hi, rfl⟩
      exact ⟨hv, k, lt_of_getElem? hi, rfl⟩

/-- **The fences go to their sources** exactly when every source with a fence stands where
    the call looks for it. -/
theorem fences_meet_iff (p : Tracer) (f : Frame) : f.Meets p ↔ f.Regular := by
  constructor
  · intro h k s hk hv
    cases s with
    | layer i => exact h.stands_layer hk hv
    | clientTarget => exact h.stands_target hk hv
  · intro h
    refine ⟨fun k i hk => h.own hk, ?_⟩
    intro fd
    rw [h.held]
    apply and_congr_right
    intro _
    constructor
    · rintro ⟨k, i, hk, rfl⟩
      exact ⟨i, mem_iff_getElem?.mpr ⟨k, hk⟩, h.own hk⟩
    · rintro ⟨i, hi, hfence⟩
      obtain ⟨k, hk⟩ := mem_iff_getElem?.mp hi
      rw [h.own hk] at hfence
      exact ⟨k, i, hk, hfence⟩

end Frame

/-! ### The order that the assignment leaves -/

section Order

variable {z : MPPSource → Nat} (s : StdSort z)

def assignAll (m : ExynosMPP) (sources : List MPPSource) : ExynosMPP :=
  sources.foldl (fun m source => m.assignMPP s source) m

theorem assignMPP_perm (m : ExynosMPP) (source : MPPSource) :
    (m.assignMPP s source).mAssignedSources.Perm (m.mAssignedSources ++ [source]) := by
  unfold ExynosMPP.assignMPP
  dsimp only
  split
  · exact s.perm _
  · exact .refl _

theorem assignAll_perm (sources : List MPPSource) : ∀ m : ExynosMPP,
    (assignAll s m sources).mAssignedSources.Perm (m.mAssignedSources ++ sources) := by
  induction sources with
  | nil => intro m; simp [assignAll]
  | cons source sources ih =>
    intro m
    have := (ih (m.assignMPP s source)).trans ((assignMPP_perm s m source).append_right sources)
    rwa [List.append_assoc, List.singleton_append] at this

/-- **However the sources come in, they stand by z-order.** -/
theorem assignAll_sorted (sources : List MPPSource) : ∀ m : ExynosMPP, 1 < m.mMaxSrcLayerNum →
    m.mAssignedSources.Pairwise (fun l r => z l ≤ z r) →
    (assignAll s m sources).mAssignedSources.Pairwise fun l r => z l ≤ z r := by
  induction sources with
  | nil => exact fun m _ h => h
  | cons source sources ih =>
    intro m hmax _
    apply ih (m.assignMPP s source) hmax
    unfold ExynosMPP.assignMPP
    dsimp only
    rw [if_pos hmax]
    exact s.sorted _

end Order

namespace Frame

variable {f : Frame}

/-- The layers of the composition from the bottom up, then the client target. -/
def expected (f : Frame) : List MPPSource :=
  (List.range (ExynosDisplay.CompositionInfo.count f.d.mExynosCompositionInfo)).map
      (fun k => MPPSource.layer (f.d.mExynosCompositionInfo.mFirstIndex.toNat + k)) ++
    if .clientTarget ∈ f.m.mAssignedSources then [.clientTarget] else []

/-- With distinct z-orders there is one order only. -/
theorem sources_eq (hperm : f.m.mAssignedSources.Perm f.expected)
    (hsorted : f.m.mAssignedSources.Pairwise fun l r => f.d.zOrder l ≤ f.d.zOrder r)
    (hexpected : f.expected.Pairwise fun l r => f.d.zOrder l < f.d.zOrder r) :
    f.m.mAssignedSources = f.expected := by
  have hsymm : Std.Symm fun l r => f.d.zOrder l = f.d.zOrder r → l = r :=
    ⟨fun _ _ h heq => (h heq.symm).symm⟩
  have hinj : f.expected.Pairwise fun l r => f.d.zOrder l = f.d.zOrder r → l = r :=
    hexpected.imp fun h heq => (Nat.ne_of_lt h heq).elim
  have hantisymm : ∀ a b, a ∈ f.m.mAssignedSources → b ∈ f.expected →
      f.d.zOrder a ≤ f.d.zOrder b → f.d.zOrder b ≤ f.d.zOrder a → a = b := by
    intro a b ha hb hab hba
    exact hinj.forall_of_forall (fun _ _ _ => rfl) (hperm.mem_iff.mp ha) hb (Nat.le_antisymm hab hba)
  exact hperm.eq_of_pairwise hantisymm hsorted (hexpected.imp fun h => Nat.le_of_lt h)

/-- **Target on top**: with the layers and then the client target by z-order, and a call that
    gets to every layer, all goes well if the target's fence is not a standard descriptor. -/
theorem regular_of_expected (heq : f.m.mAssignedSources = f.expected)
    (hreach : ∀ k < ExynosDisplay.CompositionInfo.count f.d.mExynosCompositionInfo, Reaches f.d k)
    (hstd : ∀ k, f.m.mAssignedSources[k]? = some .clientTarget → 0 ≤ f.m.mSrcImgs k →
      3 ≤ f.m.mSrcImgs k) : f.Regular := by
  intro k s hk hv
  have hlt := lt_of_getElem? hk
  rw [heq] at hk
  unfold expected at hk
  by_cases hcount : k < ExynosDisplay.CompositionInfo.count f.d.mExynosCompositionInfo
  · rw [List.getElem?_append_left (by simpa using hcount)] at hk
    simp only [List.getElem?_map, List.getElem?_range hcount, Option.map_some, Option.some.injEq] at hk
    subst hk
    have hfirst := (hreach k hcount).first
    refine ⟨?_, hreach k hcount⟩
    omega
  · have hmem : .clientTarget ∈ f.m.mAssignedSources := by
      by_contra hnot
      rw [if_neg hnot, List.append_nil] at hk
      have := (List.getElem?_eq_some_iff.mp hk).1
      rw [List.length_map, List.length_range] at this
      exact hcount this
    have hlen : f.m.mAssignedSources.length =
        ExynosDisplay.CompositionInfo.count f.d.mExynosCompositionInfo + 1 := by
      rw [heq, expected, if_pos hmem]
      simp
    have hs : s = .clientTarget := by
      rw [if_pos hmem, List.getElem?_append_right (by simpa using hcount)] at hk
      have := List.mem_of_getElem? hk
      simpa using this
    subst hs
    refine ⟨by omega, hstd k ?_ hv⟩
    rw [heq]
    exact hk

/-- **Target below**: the client target sorts before a layer, and its fence goes to a layer. -/
theorem not_regular_of_target_below
    (hsorted : f.m.mAssignedSources.Pairwise fun l r => f.d.zOrder l ≤ f.d.zOrder r) {c i : Nat}
    (hc : f.m.mAssignedSources[c]? = some .clientTarget) (hv : 0 ≤ f.m.mSrcImgs c)
    (hi : .layer i ∈ f.m.mAssignedSources)
    (hz : f.d.zOrder .clientTarget < f.d.zOrder (.layer i)) : ¬f.Regular := by
  intro h
  obtain ⟨hend, -⟩ := h c _ hc hv
  obtain ⟨k, hk⟩ := mem_iff_getElem?.mp hi
  have hklt := lt_of_getElem? hk
  obtain ⟨hclt, hc'⟩ := List.getElem?_eq_some_iff.mp hc
  obtain ⟨_, hk'⟩ := List.getElem?_eq_some_iff.mp hk
  have hkc : k ≠ c := by
    rintro rfl
    rw [hc] at hk
    cases hk
  have hle := List.pairwise_iff_getElem.mp hsorted k c hklt hclt (by omega)
  rw [hk', hc'] at hle
  omega

end Frame

/-! ### A client layer at the bottom -/

/-- Layer 0 is the client's, layers 1 and 2 are composed by the MPP over its target. -/
def wallpaper : ExynosDisplay where
  isVirtual := true
  mUseDpu := false
  size := 3
  mLayers := fun i =>
    ⟨i, if i = 0 then .CLIENT else .EXYNOS, 0, -1, none, -1⟩
  mClientCompositionInfo := ⟨true, 0, 0, -1⟩
  mExynosCompositionInfo := ⟨true, 1, 2, -1⟩
  mM2mMPP := some ⟨14, true, [.clientTarget, .layer 1, .layer 2], fun i => 10 + i⟩
  configs := []

def wallpaperFrame : Frame where
  d := wallpaper
  m := ⟨14, true, [.clientTarget, .layer 1, .layer 2], fun i => 10 + i⟩
  assigned := rfl
  gives := rfl
  nodup := by decide
  fits := by decide
  layer_mem := by
    rintro i ⟨hfirst, hlast⟩ -
    have : i = 1 ∨ i = 2 := by
      simp only [wallpaper] at hfirst hlast
      omega
    rcases this with rfl | rfl <;> decide
  layer_type := by
    intro i hi
    have : i = 1 ∨ i = 2 := by simpa using hi
    rcases this with rfl | rfl <;> rfl
  target_mem := by decide
  dpu := fun _ => rfl
  valid := by
    intro k _
    dsimp only
    omega
  distinct := by
    intro j _ k _ _ h
    dsimp only at h
    omega
  client_first := by decide
  exynos_first := by decide
  taken := fun _ _ => rfl

/-- Layer 1 gets the fence of the client target, layer 2 that of layer 1, and its own is closed. -/
theorem wallpaper_shifted : ¬wallpaperFrame.Meets ⟨id, false⟩ := by
  intro h
  have hown := h.own 1 1 rfl
  have hgot : ((wallpaperFrame.after ⟨id, false⟩).1.mLayers 1).mReleaseFence = 10 := by decide
  rw [hgot] at hown
  exact absurd hown (by decide)

end ExynosHal.SourceFences
