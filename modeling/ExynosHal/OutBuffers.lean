/-
  ExynosHal/OutBuffers.lean
  =========================
  **The output buffer in a destination slot of an M2M MPP.**

  `ExynosMPP::allocOutBuf` of `libhwc2.1/resources/ExynosMPP.cpp`.  The function
  allocates a buffer and puts it into `mDstImgs[index]`.  If that fails it frees
  the buffer of the slot through a copy of the slot, `freeDstBuf`, and tries again.

  The graphic buffer allocator is outside the repository.  Its two answers are
  arbitrary: a buffer, or none for an error or a NULL handle.
-/
import Mathlib.Logic.Function.Basic

namespace ExynosHal.OutBuffers

def NO_ERROR : Int := 0
def EINVAL : Int := 22
def NUM_MPP_DST_BUFS : Nat := 3

/-! ### Slots -/

/-- `exynos_mpp_img_info`; a handle is the number of its buffer. -/
structure ImgInfo where
  bufferHandle : Option Nat := none
  bufferType : Nat := 0
  format : Nat := 0
  dataspace : Nat := 0
  mppLayer : Option Nat := none
  acrylicAcquireFenceFd : Int := -1
  acrylicReleaseFenceFd : Int := -1
deriving DecidableEq, Repr

/-- The destination slots of an MPP, the buffers that exist, and the freed buffers that
    wait in the resource thread. -/
structure ExynosMPP where
  mDstImgs : Nat → ImgInfo
  live : List Nat
  mFreedBuffers : List ImgInfo
  closedFences : List Int
  hasDisplay : Bool

/-- What is asked for, with `getBufferUsage` and `getBufferType` of the usage. -/
structure Request where
  w : Nat
  h : Nat
  format : Nat
  allocUsage : Nat
  bufferType : Nat
deriving DecidableEq, Repr

/-- The allocator's answers to the first and to the second attempt. -/
structure Allocator where
  first : Request → Option Nat
  second : Request → Option Nat

/-- `fence_close`: -1 is no fence. -/
def closeFence (closed : List Int) (fd : Int) : List Int := if fd = -1 then closed else closed ++ [fd]

namespace ExynosMPP

def closeFences (m : ExynosMPP) (info : ImgInfo) : ExynosMPP :=
  { m with
    closedFences :=
      closeFence (closeFence m.closedFences info.acrylicAcquireFenceFd) info.acrylicReleaseFenceFd }

/-- A buffer that the allocator hands out exists from then on. -/
def allocated (m : ExynosMPP) (b : Option Nat) : ExynosMPP :=
  { m with live := b.toList ++ m.live }

/-- The local function `freeOutBuf` of `allocOutBuf`; the copy `freeDstBuf` is reset, the
    slot is not. -/
def freeCopy (m : ExynosMPP) (freeDstBuf : ImgInfo) : ExynosMPP :=
  let m := m.closeFences freeDstBuf
  { m with live := m.live.filter fun b => freeDstBuf.bufferHandle ≠ some b }

/-- `ExynosMPP::freeOutBuf`: the resource thread frees the buffer later. -/
def freeOutBuf (m : ExynosMPP) (dst : ImgInfo) : ExynosMPP :=
  { m with mFreedBuffers := m.mFreedBuffers ++ [dst] }

/-- The slot after a buffer was found. -/
def fill (m : ExynosMPP) (index : Nat) (request : Request) (dstBuffer : Option Nat) : ExynosMPP :=
  { m with
    mDstImgs := Function.update m.mDstImgs index
      { bufferHandle := dstBuffer
        bufferType := request.bufferType
        format := request.format } }

/-- The end of the function, where the old buffer has not been freed yet. -/
def retire (m : ExynosMPP) (freeDstBuf : ImgInfo) : ExynosMPP :=
  if freeDstBuf.bufferHandle ≠ none then m.freeOutBuf freeDstBuf
  else if m.hasDisplay then m.closeFences freeDstBuf
  else m

def allocOutBuf (alloc : Allocator) (m : ExynosMPP) (request : Request) (index : Nat) :
    Int × ExynosMPP :=
  if index ≥ NUM_MPP_DST_BUFS then (-EINVAL, m)
  else
    let freeDstBuf := m.mDstImgs index
    let dstBuffer := alloc.first request
    let m := m.allocated dstBuffer
    if dstBuffer = none ∧ freeDstBuf.bufferHandle ≠ none then
      let m := m.freeCopy freeDstBuf
      let dstBuffer := alloc.second request
      let m := m.allocated dstBuffer
      if dstBuffer = none then (-EINVAL, m)
      else (NO_ERROR, m.fill index request dstBuffer)
    -- without an old buffer the failure goes unnoticed
    else (NO_ERROR, (m.fill index request dstBuffer).retire freeDstBuf)

end ExynosMPP

/-! ### Who owns a buffer -/

/-- Every slot's buffer exists, waits for nobody to free it and is in no other slot. -/
structure WellOwned (m : ExynosMPP) : Prop where
  exists_ : ∀ i b, (m.mDstImgs i).bufferHandle = some b → b ∈ m.live
  notFreed : ∀ i b, (m.mDstImgs i).bufferHandle = some b →
    ∀ info ∈ m.mFreedBuffers, info.bufferHandle ≠ some b
  alone : ∀ i j b, (m.mDstImgs i).bufferHandle = some b → (m.mDstImgs j).bufferHandle = some b →
    i = j
  queued : ∀ info ∈ m.mFreedBuffers, ∀ b, info.bufferHandle = some b → b ∈ m.live

/-- The allocator hands out buffers that do not exist yet. -/
def Allocator.Fresh (alloc : Allocator) (live : List Nat) : Prop :=
  ∀ request b, alloc.first request = some b ∨ alloc.second request = some b → b ∉ live

/-- What the slot may look like after the call. -/
structure SlotSafe (before after : ExynosMPP) (index : Nat) (ret : Int) : Prop where
  failed : ret ≠ NO_ERROR →
    after.mDstImgs index = before.mDstImgs index ∨ after.mDstImgs index = {}
  held : ∀ b, (after.mDstImgs index).bufferHandle = some b → b ∈ after.live
  succeeded : ret = NO_ERROR → index < NUM_MPP_DST_BUFS →
    ∃ b, (after.mDstImgs index).bufferHandle = some b ∧ b ∈ after.live ∧
      (∀ info ∈ after.mFreedBuffers, info.bufferHandle ≠ some b) ∧
      (∀ j, (after.mDstImgs j).bufferHandle = some b → j = index) ∧
      ∀ old, (before.mDstImgs index).bufferHandle = some old →
        old ∉ after.live ∨ ∃ info ∈ after.mFreedBuffers, info.bufferHandle = some old

namespace ExynosMPP

/-! ### The ways through the function -/

variable {alloc : Allocator} {m : ExynosMPP} {request : Request} {index : Nat}

theorem allocOutBuf_outside (h : NUM_MPP_DST_BUFS ≤ index) :
    m.allocOutBuf alloc request index = (-EINVAL, m) := by
  unfold allocOutBuf
  exact if_pos h

/-- The first attempt succeeds. -/
theorem allocOutBuf_first (h : index < NUM_MPP_DST_BUFS) {b : Nat} (hb : alloc.first request = some b) :
    m.allocOutBuf alloc request index =
      (NO_ERROR, ((m.allocated (some b)).fill index request (some b)).retire (m.mDstImgs index)) := by
  unfold allocOutBuf
  rw [if_neg (Nat.not_le.mpr h)]
  simp [hb]

/-- The first attempt fails, and there is no old buffer to free. -/
theorem allocOutBuf_unnoticed (h : index < NUM_MPP_DST_BUFS) (hfirst : alloc.first request = none)
    (hold : (m.mDstImgs index).bufferHandle = none) :
    m.allocOutBuf alloc request index =
      (NO_ERROR, ((m.allocated none).fill index request none).retire (m.mDstImgs index)) := by
  unfold allocOutBuf
  rw [if_neg (Nat.not_le.mpr h)]
  simp [hfirst, hold]

/-- The retry after freeing the old buffer succeeds. -/
theorem allocOutBuf_retry (h : index < NUM_MPP_DST_BUFS) (hfirst : alloc.first request = none)
    {old b : Nat} (hold : (m.mDstImgs index).bufferHandle = some old)
    (hb : alloc.second request = some b) :
    m.allocOutBuf alloc request index =
      (NO_ERROR, (((m.allocated none).freeCopy (m.mDstImgs index)).allocated (some b)).fill index
        request (some b)) := by
  unfold allocOutBuf
  rw [if_neg (Nat.not_le.mpr h)]
  simp [hfirst, hold, hb]

/-- Both attempts fail. -/
theorem allocOutBuf_failed (h : index < NUM_MPP_DST_BUFS) (hfirst : alloc.first request = none)
    {old : Nat} (hold : (m.mDstImgs index).bufferHandle = some old)
    (hsecond : alloc.second request = none) :
    m.allocOutBuf alloc request index =
      (-EINVAL, ((m.allocated none).freeCopy (m.mDstImgs index)).allocated none) := by
  unfold allocOutBuf
  rw [if_neg (Nat.not_le.mpr h)]
  simp [hfirst, hold, hsecond]

/-! ### What each step leaves alone -/

@[simp] theorem retire_mDstImgs (old : ImgInfo) : (m.retire old).mDstImgs = m.mDstImgs := by
  unfold retire
  split
  · rfl
  · split <;> rfl

@[simp] theorem retire_live (old : ImgInfo) : (m.retire old).live = m.live := by
  unfold retire
  split
  · rfl
  · split <;> rfl

/-- An old buffer goes to the resource thread, and nothing else does. -/
theorem mem_retire_freed {old info : ImgInfo} (b : Nat) (h : info ∈ (m.retire old).mFreedBuffers)
    (hb : info.bufferHandle = some b) :
    info ∈ m.mFreedBuffers ∨ old.bufferHandle = some b := by
  unfold retire at h
  split at h
  · rcases List.mem_append.mp h with hbefore | hold
    · exact Or.inl hbefore
    · rw [List.mem_singleton.mp hold] at hb
      exact Or.inr hb
  · split at h
    · exact Or.inl h
    · exact Or.inl h

theorem retire_freed {old : ImgInfo} {b : Nat} (h : old.bufferHandle = some b) :
    old ∈ (m.retire old).mFreedBuffers := by
  unfold retire
  rw [if_pos (by rw [h]; nofun)]
  exact List.mem_append_right _ List.mem_cons_self

/-! ### What the slot looks like -/

/-- A buffer that did not exist before is not in any slot and waits nowhere. -/
theorem fresh_unowned (hm : WellOwned m) {b : Nat} (hb : b ∉ m.live) :
    (∀ j, (m.mDstImgs j).bufferHandle ≠ some b) ∧
      ∀ info ∈ m.mFreedBuffers, info.bufferHandle ≠ some b :=
  ⟨fun j h => hb (hm.exists_ j b h), fun info hinfo h => hb (hm.queued info hinfo b h)⟩

theorem safe_first (hm : WellOwned m) (hfresh : alloc.Fresh m.live) (h : index < NUM_MPP_DST_BUFS)
    {b : Nat} (hb : alloc.first request = some b) :
    SlotSafe m (m.allocOutBuf alloc request index).2 index
      (m.allocOutBuf alloc request index).1 := by
  have hnew := hfresh request b (Or.inl hb)
  obtain ⟨hslots, hqueue⟩ := fresh_unowned hm hnew
  rw [allocOutBuf_first h hb]
  refine ⟨fun hret => absurd rfl hret, ?_, ?_⟩
  · intro b' hb'
    simp only [retire_mDstImgs, fill, Function.update_self, Option.some.injEq] at hb'
    rw [← hb', retire_live]
    exact List.mem_append_left _ (List.mem_singleton.mpr rfl)
  · intro _ _
    refine ⟨b, ?_, ?_, ?_, ?_, ?_⟩
    · simp [fill]
    · rw [retire_live]
      exact List.mem_append_left _ (List.mem_singleton.mpr rfl)
    · intro info hinfo hb'
      rcases mem_retire_freed b hinfo hb' with hbefore | hold
      · exact hqueue info hbefore hb'
      · exact hslots index hold
    · intro j hj
      apply Decidable.byContradiction
      intro hne
      simp only [retire_mDstImgs, fill, Function.update_of_ne hne] at hj
      exact hslots j hj
    · intro old hold
      exact Or.inr ⟨m.mDstImgs index, retire_freed hold, hold⟩

theorem safe_retry (hm : WellOwned m) (hfresh : alloc.Fresh m.live) (h : index < NUM_MPP_DST_BUFS)
    (hfirst : alloc.first request = none) {old b : Nat}
    (hold : (m.mDstImgs index).bufferHandle = some old) (hb : alloc.second request = some b) :
    SlotSafe m (m.allocOutBuf alloc request index).2 index
      (m.allocOutBuf alloc request index).1 := by
  have hnew := hfresh request b (Or.inr hb)
  obtain ⟨hslots, hqueue⟩ := fresh_unowned hm hnew
  rw [allocOutBuf_retry h hfirst hold hb]
  have hlive : b ∈ ((((m.allocated none).freeCopy (m.mDstImgs index)).allocated (some b)).fill index
      request (some b)).live := List.mem_append_left _ (List.mem_singleton.mpr rfl)
  refine ⟨fun hret => absurd rfl hret, ?_, ?_⟩
  · intro b' hb'
    simp only [fill, Function.update_self, Option.some.injEq] at hb'
    rw [← hb']
    exact hlive
  · intro _ _
    refine ⟨b, ?_, hlive, hqueue, ?_, ?_⟩
    · simp [fill]
    · intro j hj
      apply Decidable.byContradiction
      intro hne
      simp only [fill, Function.update_of_ne hne] at hj
      exact hslots j hj
    · intro old' hold'
      left
      rw [hold'] at hold
      obtain rfl := Option.some.inj hold
      intro hmem
      rcases List.mem_append.mp hmem with hnewest | hkept
      · rw [List.mem_singleton.mp hnewest] at hold'
        exact hslots index hold'
      · have hfreed := (List.mem_filter.mp hkept).2
        rw [hold'] at hfreed
        exact absurd hfreed (by simp)

/-- Both attempts fail: the slot keeps the handle that was freed. -/
theorem unsafe_failed (h : index < NUM_MPP_DST_BUFS) (hfirst : alloc.first request = none)
    {old : Nat} (hold : (m.mDstImgs index).bufferHandle = some old)
    (hsecond : alloc.second request = none) :
    ¬ SlotSafe m (m.allocOutBuf alloc request index).2 index
      (m.allocOutBuf alloc request index).1 := by
  rw [allocOutBuf_failed h hfirst hold hsecond]
  intro hsafe
  rcases List.mem_append.mp (hsafe.held old hold) with hnewest | hkept
  · cases hnewest
  · have hfreed := (List.mem_filter.mp hkept).2
    rw [hold] at hfreed
    exact absurd hfreed (by simp)

/-- The first attempt fails on an empty slot: success is reported without a buffer. -/
theorem unsafe_unnoticed (h : index < NUM_MPP_DST_BUFS) (hfirst : alloc.first request = none)
    (hold : (m.mDstImgs index).bufferHandle = none) :
    ¬ SlotSafe m (m.allocOutBuf alloc request index).2 index
      (m.allocOutBuf alloc request index).1 := by
  rw [allocOutBuf_unnoticed h hfirst hold]
  intro hsafe
  obtain ⟨b, hb, -⟩ := hsafe.succeeded rfl h
  simp [fill] at hb

/-- **When a slot is safe.**  For a slot that owns its buffer and an allocator that hands
    out new buffers, the slot is safe after the call if and only if the index is refused,
    the first attempt succeeds, or the slot had a buffer and the retry succeeds. -/
theorem outBuf_safe (alloc : Allocator) (m : ExynosMPP) (request : Request) (index : Nat)
    (hm : WellOwned m) (hfresh : alloc.Fresh m.live) :
    SlotSafe m (m.allocOutBuf alloc request index).2 index
        (m.allocOutBuf alloc request index).1 ↔
      NUM_MPP_DST_BUFS ≤ index ∨ alloc.first request ≠ none ∨
        ((m.mDstImgs index).bufferHandle ≠ none ∧ alloc.second request ≠ none) := by
  rcases Nat.lt_or_ge index NUM_MPP_DST_BUFS with h | h
  · cases hfirst : alloc.first request with
    | some b => exact iff_of_true (safe_first hm hfresh h hfirst) (Or.inr (Or.inl nofun))
    | none =>
      cases hold : (m.mDstImgs index).bufferHandle with
      | none =>
        refine iff_of_false (unsafe_unnoticed h hfirst hold) ?_
        rintro (hout | hne | ⟨hne, -⟩)
        · exact absurd h (Nat.not_lt.mpr hout)
        · exact hne rfl
        · exact hne rfl
      | some old =>
        cases hsecond : alloc.second request with
        | some b =>
          exact iff_of_true (safe_retry hm hfresh h hfirst hold hsecond)
            (Or.inr (Or.inr ⟨nofun, nofun⟩))
        | none =>
          refine iff_of_false (unsafe_failed h hfirst hold hsecond) ?_
          rintro (hout | hne | ⟨-, hne⟩)
          · exact absurd h (Nat.not_lt.mpr hout)
          · exact hne rfl
          · exact hne rfl
  · rw [allocOutBuf_outside h]
    refine iff_of_true ⟨fun _ => Or.inl rfl, fun b hb => hm.exists_ index b hb, ?_⟩ (Or.inl h)
    intro hret
    have hne : (-EINVAL : Int) ≠ NO_ERROR := by decide
    exact absurd hret hne

end ExynosMPP

/-! ### A slot with one buffer -/

/-- Slot 0 owns buffer 7, and nothing else exists. -/
def oneBuffer : ExynosMPP where
  mDstImgs i := if i = 0 then { bufferHandle := some 7 } else {}
  live := [7]
  mFreedBuffers := []
  closedFences := []
  hasDisplay := true

theorem oneBuffer_handle {i b : Nat} (h : (oneBuffer.mDstImgs i).bufferHandle = some b) :
    i = 0 ∧ b = 7 := by
  unfold oneBuffer at h
  by_cases hi : i = 0
  · simp only [hi, if_true, Option.some.injEq] at h
    exact ⟨hi, h.symm⟩
  · simp [hi] at h

theorem oneBuffer_wellOwned : WellOwned oneBuffer where
  exists_ i b h := by
    rw [(oneBuffer_handle h).2]
    exact List.mem_singleton.mpr rfl
  notFreed i b h info hinfo := absurd hinfo List.not_mem_nil
  alone i j b hi hj := (oneBuffer_handle hi).1.trans (oneBuffer_handle hj).1.symm
  queued info hinfo := absurd hinfo List.not_mem_nil

/-- An allocator whose second attempt succeeds. -/
def laterAllocator : Allocator := ⟨fun _ => none, fun _ => some 8⟩

theorem outBuf_safe_retry :
    SlotSafe oneBuffer (oneBuffer.allocOutBuf laterAllocator ⟨64, 64, 1, 0, 1⟩ 0).2 0
      (oneBuffer.allocOutBuf laterAllocator ⟨64, 64, 1, 0, 1⟩ 0).1 ↔
    NUM_MPP_DST_BUFS ≤ 0 ∨ laterAllocator.first ⟨64, 64, 1, 0, 1⟩ ≠ none ∨
      ((oneBuffer.mDstImgs 0).bufferHandle ≠ none ∧
        laterAllocator.second ⟨64, 64, 1, 0, 1⟩ ≠ none) :=
  ExynosMPP.outBuf_safe laterAllocator oneBuffer ⟨64, 64, 1, 0, 1⟩ 0 oneBuffer_wellOwned (by
    rintro request b (h | h)
    · cases h
    · obtain rfl := Option.some.inj h
      decide)

/-- Both attempts fail: the call returns an error, and slot 0 still has the handle of
    buffer 7, which has been freed. -/
theorem freed_handle_kept :
    let after := oneBuffer.allocOutBuf ⟨fun _ => none, fun _ => none⟩ ⟨64, 64, 1, 0, 1⟩ 0
    after.1 = -EINVAL ∧ (after.2.mDstImgs 0).bufferHandle = some 7 ∧ 7 ∉ after.2.live ∧
      ¬ SlotSafe oneBuffer after.2 0 after.1 := by
  refine ⟨by decide, by decide, by decide, ?_⟩
  intro hsafe
  exact absurd (hsafe.held 7 (by decide)) (by decide)

end ExynosHal.OutBuffers
