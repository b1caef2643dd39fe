/-
  ExynosHal/DpuRestrictions.lean
  ==============================
  **Entering the driver's restrictions into the MPPs.**

  `ExynosResourceManager::makeDPURestrictions` of `libhwc2.1/device/ExynosResourceManager.cpp`.
  The driver reports up to `MAX_DPP_CNT_V2` channels.  With `checkOverlap` a channel
  whose attribute word an earlier channel has is left out, which is noted in an array
  of 16; without it the restrictions of a channel go to the OTF MPP of the channel,
  which is searched for.

  An access outside the array and a use of an MPP that was not found are faults.  There
  is none exactly when the array has a place for every channel and when every channel
  has its MPP (`restrictions_meet_iff`).
-/
import ExynosHal.RestrictionTables

namespace ExynosHal.DpuRestrictions

open ExynosHal.MppSupport (RestrictionClass RestrictionSize NodeType)
open ExynosHal.RestrictionTables (RestrictionKey Mpp SizeCall)

/-! ### What the driver reports -/

def MAX_FMT_CNT : Nat := 64
def MAX_DPP_CNT_V2 : Nat := 17

structure SizeRange where
  min : UInt32
  max : UInt32
deriving DecidableEq, Repr

/-- `dpp_restriction`; `format` are the first `format_cnt` entries of its table. -/
structure DppRestriction where
  src_f_w : SizeRange
  src_f_h : SizeRange
  src_w : SizeRange
  src_h : SizeRange
  src_x_align : UInt32
  src_y_align : UInt32
  dst_f_w : SizeRange
  dst_f_h : SizeRange
  dst_w : SizeRange
  dst_h : SizeRange
  dst_x_align : UInt32
  dst_y_align : UInt32
  blk_x_align : UInt32
  blk_y_align : UInt32
  format : List Nat
  format_cnt_le : format.length ≤ MAX_FMT_CNT
  scale_down : UInt32
  scale_up : UInt32

/-- `dpp_ch_restriction`. -/
structure DppChannel where
  attr : BitVec 64
  restriction : DppRestriction

/-- `dpp_restrictions_info_v2`: the first `dpp_cnt` channels of its table. -/
structure DpuInfo where
  dpp_ch : List DppChannel
  dpp_cnt_le : dpp_ch.length ≤ MAX_DPP_CNT_V2

def YUV_CHROMA_H_SUBSAMPLE : UInt32 := 2
def YUV_CHROMA_V_SUBSAMPLE : UInt32 := 2

/-- `convertSizeRestriction`: the limits of the source and of the destination. -/
def convertSizeRestriction (r : DppRestriction) : RestrictionSize × RestrictionSize :=
  ({ maxDownScale := r.scale_down
     maxUpScale := r.scale_up
     maxFullWidth := r.src_f_w.max
     maxFullHeight := r.src_f_h.max
     minFullWidth := r.src_f_w.min
     minFullHeight := r.src_f_h.min
     fullWidthAlign := r.src_x_align
     fullHeightAlign := r.src_y_align
     maxCropWidth := r.src_w.max
     maxCropHeight := r.src_h.max
     minCropWidth := r.src_w.min
     minCropHeight := r.src_h.min
     cropXAlign := r.src_x_align
     cropYAlign := r.src_y_align
     cropWidthAlign := r.blk_x_align
     cropHeightAlign := r.blk_y_align },
   { maxDownScale := r.scale_down
     maxUpScale := r.scale_up
     maxFullWidth := r.dst_f_w.max
     maxFullHeight := r.dst_f_h.max
     minFullWidth := r.dst_f_w.min
     minFullHeight := r.dst_f_h.min
     fullWidthAlign := r.dst_x_align
     fullHeightAlign := r.dst_y_align
     maxCropWidth := r.dst_w.max
     maxCropHeight := r.dst_h.max
     minCropWidth := r.dst_w.min
     minCropHeight := r.dst_h.min
     cropXAlign := r.dst_x_align
     cropYAlign := r.dst_y_align
     cropWidthAlign := r.blk_x_align
     cropHeightAlign := r.blk_y_align })

/-- One side of `convertYUVSizeRestriction`. -/
def toYUV (size : RestrictionSize) (w h : SizeRange) (x_align y_align blk_x_align blk_y_align : UInt32) :
    RestrictionSize :=
  { size with
    minCropWidth := w.min * 2
    minCropHeight := h.min * 2
    fullWidthAlign := max x_align YUV_CHROMA_H_SUBSAMPLE
    fullHeightAlign := max y_align YUV_CHROMA_V_SUBSAMPLE
    cropXAlign := max x_align YUV_CHROMA_H_SUBSAMPLE
    cropYAlign := max y_align YUV_CHROMA_V_SUBSAMPLE
    cropWidthAlign := max blk_x_align YUV_CHROMA_H_SUBSAMPLE
    cropHeightAlign := max blk_y_align YUV_CHROMA_V_SUBSAMPLE }

/-- `convertYUVSizeRestriction` overwrites some limits of the two sizes. -/
def convertYUVSizeRestriction (r : DppRestriction) (size : RestrictionSize × RestrictionSize) :
    RestrictionSize × RestrictionSize :=
  (toYUV size.1 r.src_w r.src_h r.src_x_align r.src_y_align r.blk_x_align r.blk_y_align,
    toYUV size.2 r.dst_w r.dst_h r.dst_x_align r.dst_y_align r.blk_x_align r.blk_y_align)

/-! ### The resource manager -/

def MPP_DPP_NUM : Nat := 20
def MPP_P_TYPE_MAX : Nat := 22

structure OtfMPP where
  mpp : Mpp
  mChId : Int
  mAttr : BitVec 64

/-- The MPPs, and the tables `dpu_attr_map_table` and `sw_feature_table` of the chip. -/
structure ResourceManager where
  mOtfMPPs : List OtfMPP
  mM2mMPPs : List Mpp
  dpu_attr_map_table : List (Nat × BitVec 64)
  sw_feature_table : Nat → Option (BitVec 64)

/-- A change of the first element that meets `q`. -/
def modifyFirst {α : Type} (q : α → Bool) (f : α → α) : List α → List α
  | [] => []
  | a :: l => if q a then f a :: l else a :: modifyFirst q f l

namespace ResourceManager

def getOtfMPPWithChannel (r : ResourceManager) (ch : Nat) : Option OtfMPP :=
  r.mOtfMPPs.find? fun m => m.mChId == ch

def getPhysicalType (r : ResourceManager) (ch : Nat) : Nat :=
  match r.getOtfMPPWithChannel ch with
  | some m => m.mpp.mPhysicalType
  | none => MPP_P_TYPE_MAX

/-- A change of the MPP that `getOtfMPPWithChannel` finds. -/
def onChannel (r : ResourceManager) (ch : Nat) (f : OtfMPP → OtfMPP) : ResourceManager :=
  { r with mOtfMPPs := modifyFirst (fun m => m.mChId == ch) f r.mOtfMPPs }

def addFormatRestrictions (r : ResourceManager) (key : RestrictionKey) : ResourceManager :=
  if key.hwType < MPP_DPP_NUM then
    { r with mOtfMPPs := r.mOtfMPPs.map fun m => { m with mpp := m.mpp.receiveFormat key } }
  else { r with mM2mMPPs := r.mM2mMPPs.map fun m => m.receiveFormat key }

def addSizeRestrictions (r : ResourceManager) (call : SizeCall) : ResourceManager :=
  if call.mppId < MPP_DPP_NUM then
    { r with mOtfMPPs := r.mOtfMPPs.map fun m => { m with mpp := m.mpp.receive call } }
  else { r with mM2mMPPs := r.mM2mMPPs.map fun m => m.receive call }

/-- The attribute that `setDPUFeature` gives to an MPP. -/
def dpuFeature (r : ResourceManager) (hwType : Nat) (dpuAttr : BitVec 64) : BitVec 64 :=
  let attr := r.dpu_attr_map_table.foldl
    (fun attr entry => if dpuAttr.getLsbD entry.1 then attr ||| entry.2 else attr) 0
  match r.sw_feature_table hwType with
  | some feature => attr ||| feature
  | none => attr

end ResourceManager

/-! ### The function -/

inductive Fault where
  /-- `overlap[i]` outside the array. -/
  | overlapIndex (i : Nat)
  /-- A call on the MPP of a channel that has none. -/
  | missingMPP (channel : Nat)
deriving DecidableEq, Repr

/-- `bool overlap[16]`. -/
def noOverlap : List Bool := List.replicate 16 false

/-- The loop that fills `overlap`, from channel `i` on. -/
def checkAttributes : Nat → List (BitVec 64) → List Bool → List DppChannel → Except Fault (List Bool)
  | _, _, overlap, [] => .ok overlap
  | i, attrs, overlap, c :: rest =>
      if c.attr ∈ attrs then
        if i < overlap.length then checkAttributes (i + 1) attrs (overlap.set i true) rest
        else .error (.overlapIndex i)
      else checkAttributes (i + 1) (c.attr :: attrs) overlap rest

section Loops

variable (checkOverlap : Bool) (overlap : List Bool)

/-- `checkOverlap && overlap[i]`. -/
def isSkipped (i : Nat) : Except Fault Bool :=
  if checkOverlap then
    match overlap[i]? with
    | some flag => .ok flag
    | none => .error (.overlapIndex i)
  else .ok false

/-- A loop over the channels from `i` on. -/
def forChannels (body : ResourceManager → Nat → DppChannel → Except Fault ResourceManager) :
    Nat → List DppChannel → ResourceManager → Except Fault ResourceManager
  | _, [], r => .ok r
  | i, c :: rest, r =>
      match isSkipped checkOverlap overlap i with
      | .error fault => .error fault
      | .ok true => forChannels body (i + 1) rest r
      | .ok false =>
          match body r i c with
          | .error fault => .error fault
          | .ok r => forChannels body (i + 1) rest r

def enterFormats (r : ResourceManager) (i : Nat) (c : DppChannel) : Except Fault ResourceManager :=
  let hwType := r.getPhysicalType i
  match r.getOtfMPPWithChannel i with
  | none => .ok r
  | some _ =>
      .ok (c.restriction.format.foldl (fun r format =>
        let queried_format : RestrictionKey := ⟨hwType, .NONE, format, 0⟩
        -- to all MPPs of the type, or to the MPP of the channel alone
        if checkOverlap then r.addFormatRestrictions queried_format
        else r.onChannel i fun m => { m with mpp := m.mpp.addFormatRestrictions queried_format }) r)

def enterSizes (r : ResourceManager) (i : Nat) (c : DppChannel) : Except Fault ResourceManager :=
  let rgb := convertSizeRestriction c.restriction
  let yuv := convertYUVSizeRestriction c.restriction rgb
  if checkOverlap then
    let hwType := r.getPhysicalType i
    .ok ((r.addSizeRestrictions ⟨hwType, rgb.1, rgb.2, .RGB⟩).addSizeRestrictions
      ⟨hwType, yuv.1, yuv.2, .YUV⟩)
  else
    match r.getOtfMPPWithChannel i with
    -- the missing MPP is logged for the RGB limits and used for the YUV limits
    | none => .error (.missingMPP i)
    | some _ =>
        .ok (r.onChannel i fun m =>
          { m with
            mpp := (m.mpp.addSizeRestrictions rgb.1 rgb.2 .RGB).addSizeRestrictions yuv.1 yuv.2 .YUV
            mAttr := r.dpuFeature m.mpp.mPhysicalType c.attr })

def makeDPURestrictions (dpuInfo : DpuInfo) (r : ResourceManager) : Except Fault ResourceManager := do
  let overlap ← if checkOverlap then checkAttributes 0 [] noOverlap dpuInfo.dpp_ch else .ok noOverlap
  let r ← forChannels checkOverlap overlap (enterFormats checkOverlap) 0 dpuInfo.dpp_ch r
  forChannels checkOverlap overlap (enterSizes checkOverlap) 0 dpuInfo.dpp_ch r

end Loops

/-! ### What is asked of it -/

/-- No access is outside the array and no MPP is used that is missing; and the channels that
    are left out are those whose attribute word an earlier channel has. -/
structure Meets (checkOverlap : Bool) (dpuInfo : DpuInfo) (r : ResourceManager) : Prop where
  safe : ∃ r', makeDPURestrictions checkOverlap dpuInfo r = .ok r'
  overlap : checkOverlap = true → ∃ overlap, checkAttributes 0 [] noOverlap dpuInfo.dpp_ch = .ok overlap ∧
    ∀ (i : Nat) (c : DppChannel), dpuInfo.dpp_ch[i]? = some c →
      (overlap[i]? = some true ↔ ∃ j < i, ∃ c', dpuInfo.dpp_ch[j]? = some c' ∧ c'.attr = c.attr)

/-- The array has a place for every channel; without it, every channel has an MPP. -/
def Regular (checkOverlap : Bool) (dpuInfo : DpuInfo) (r : ResourceManager) : Prop :=
  if checkOverlap then dpuInfo.dpp_ch.length ≤ 16
  else ∀ i < dpuInfo.dpp_ch.length, (r.getOtfMPPWithChannel i).isSome

/-! ### The attribute words -/

/-- The loop keeps the length of the array and, as long as that is enough, flags the words
    that are among `attrs` or that an earlier channel has. -/
theorem checkAttributes_spec (l : List DppChannel) : ∀ (i : Nat) (attrs : List (BitVec 64))
    (overlap : List Bool), i + l.length ≤ overlap.length →
    ∃ result, checkAttributes i attrs overlap l = .ok result ∧ result.length = overlap.length ∧
      (∀ k < i, result[k]? = overlap[k]?) ∧
      ∀ (k : Nat) (c : DppChannel), l[k]? = some c → (result[i + k]? = some true ↔
        overlap[i + k]? = some true ∨ c.attr ∈ attrs ∨
          ∃ j < k, ∃ c', l[j]? = some c' ∧ c'.attr = c.attr) := by
  induction l with
  | nil =>
    intro i attrs overlap _
    refine ⟨overlap, rfl, rfl, fun _ _ => rfl, ?_⟩
    intro k c hk
    cases hk
  | cons first rest ih =>
    intro i attrs overlap hlen
    rw [List.length_cons] at hlen
    by_cases hseen : first.attr ∈ attrs
    · have hi : i < overlap.length := by omega
      obtain ⟨result, hresult, hlength, hbefore, hflags⟩ :=
        ih (i + 1) attrs (overlap.set i true) (by rw [List.length_set]; omega)
      refine ⟨result, ?_, ?_, ?_, ?_⟩
      · rw [checkAttributes, if_pos hseen, if_pos hi]
        exact hresult
      · rw [hlength, List.length_set]
      · intro k hk
        rw [hbefore k (by omega), List.getElem?_set_ne (by omega)]
      · intro k c hk
        cases k with
        | zero =>
          cases hk
          rw [Nat.add_zero, hbefore i (Nat.lt_succ_self i), List.getElem?_set_self hi]
          simp [hseen]
        | succ k =>
          have hflag := hflags k c hk
          rw [show i + 1 + k = i + (k + 1) by omega, List.getElem?_set_ne (by omega)] at hflag
          rw [hflag]
          constructor
          · rintro (h | h | ⟨j, hj, c', hc', heq⟩)
            · exact .inl h
            · exact .inr (.inl h)
            · exact .inr (.inr ⟨j + 1, by omega, c', hc', heq⟩)
          · rintro (h | h | ⟨j, hj, c', hc', heq⟩)
            · exact .inl h
            · exact .inr (.inl h)
            · cases j with
              | zero =>
                cases hc'
                exact .inr (.inl (heq ▸ hseen))
              | succ j => exact .inr (.inr ⟨j, by omega, c', hc', heq⟩)
    · obtain ⟨result, hresult, hlength, hbefore, hflags⟩ :=
        ih (i + 1) (first.attr :: attrs) overlap (by omega)
      refine ⟨result, ?_, hlength, ?_, ?_⟩
      · rw [checkAttributes, if_neg hseen]
        exact hresult
      · intro k hk
        exact hbefore k (by omega)
      · intro k c hk
        cases k with
        | zero =>
          cases hk
          rw [Nat.add_zero, hbefore i (Nat.lt_succ_self i)]
          simp [hseen]
        | succ k =>
          have hflag := hflags k c hk
          rw [show i + 1 + k = i + (k + 1) by omega] at hflag
          rw [hflag, List.mem_cons]
          constructor
          · rintro (h | (h | h) | ⟨j, hj, c', hc', heq⟩)
            · exact .inl h
            · exact .inr (.inr ⟨0, by omega, first, rfl, h.symm⟩)
            · exact .inr (.inl h)
            · exact .inr (.inr ⟨j + 1, by omega, c', hc', heq⟩)
          · rintro (h | h | ⟨j, hj, c', hc', heq⟩)
            · exact .inl h
            · exact .inr (.inl (.inr h))
            · cases j with
              | zero =>
                cases hc'
                exact .inr (.inl (.inl heq.symm))
              | succ j => exact .inr (.inr ⟨j, by omega, c', hc', heq⟩)

theorem checkAttributes_length (l : List DppChannel) : ∀ (i : Nat) (attrs : List (BitVec 64))
    (overlap result : List Bool), checkAttributes i attrs overlap l = .ok result →
    result.length = overlap.length := by
  induction l with
  | nil =>
    intro i attrs overlap result h
    cases h
    rfl
  | cons first rest ih =>
    intro i attrs overlap result h
    rw [checkAttributes] at h
    split at h
    · split at h
      · rw [ih _ _ _ _ h, List.length_set]
      · cases h
    · exact ih _ _ _ _ h

/-- Into an array with a place for each channel. -/
theorem checkAttributes_overlap {dpuInfo : DpuInfo} (h : dpuInfo.dpp_ch.length ≤ 16) :
    ∃ overlap, checkAttributes 0 [] noOverlap dpuInfo.dpp_ch = .ok overlap ∧
      ∀ (i : Nat) (c : DppChannel), dpuInfo.dpp_ch[i]? = some c →
        (overlap[i]? = some true ↔ ∃ j < i, ∃ c', dpuInfo.dpp_ch[j]? = some c' ∧ c'.attr = c.attr) := by
  obtain ⟨overlap, hok, -, -, hflags⟩ :=
    checkAttributes_spec dpuInfo.dpp_ch 0 [] noOverlap (by simpa [noOverlap] using h)
  refine ⟨overlap, hok, ?_⟩
  intro i c hi
  have hflag := hflags i c hi
  rw [Nat.zero_add] at hflag
  have hnone : noOverlap[i]? ≠ some true := by
    unfold noOverlap
    rw [List.getElem?_replicate]
    split <;> simp
  rw [hflag]
  simp [hnone]

/-! ### The loops over the channels -/

/-- The channels that the OTF MPPs have, which no step changes. -/
def ResourceManager.channels (r : ResourceManager) : List Int := r.mOtfMPPs.map OtfMPP.mChId

section Channels

variable {r r' : ResourceManager}

theorem getOtfMPPWithChannel_isSome (ch : Nat) :
    (r.getOtfMPPWithChannel ch).isSome ↔ (ch : Int) ∈ r.channels := by
  simp [ResourceManager.getOtfMPPWithChannel, ResourceManager.channels]

theorem modifyFirst_mChId (q : OtfMPP → Bool) {f : OtfMPP → OtfMPP} (hf : ∀ m, (f m).mChId = m.mChId)
    (l : List OtfMPP) : (modifyFirst q f l).map OtfMPP.mChId = l.map OtfMPP.mChId := by
  induction l with
  | nil => rfl
  | cons m l ih =>
    unfold modifyFirst
    split
    · simp [hf]
    · simp [ih]

theorem onChannel_channels (ch : Nat) {f : OtfMPP → OtfMPP} (hf : ∀ m, (f m).mChId = m.mChId) :
    (r.onChannel ch f).channels = r.channels := modifyFirst_mChId _ hf _

@[simp] theorem addFormatRestrictions_channels (key : RestrictionKey) :
    (r.addFormatRestrictions key).channels = r.channels := by
  unfold ResourceManager.addFormatRestrictions ResourceManager.channels
  split
  · simp
  · rfl

@[simp] theorem addSizeRestrictions_channels (call : SizeCall) :
    (r.addSizeRestrictions call).channels = r.channels := by
  unfold ResourceManager.addSizeRestrictions ResourceManager.channels
  split
  · simp
  · rfl

theorem foldl_channels {α : Type} {f : ResourceManager → α → ResourceManager}
    (hf : ∀ r a, (f r a).channels = r.channels) (l : List α) (r : ResourceManager) :
    (l.foldl f r).channels = r.channels := by
  induction l generalizing r with
  | nil => rfl
  | cons a l ih => rw [List.foldl_cons, ih, hf]

theorem enterFormats_spec (checkOverlap : Bool) (r : ResourceManager) (i : Nat) (c : DppChannel) :
    ∃ r', enterFormats checkOverlap r i c = .ok r' ∧ r'.channels = r.channels := by
  unfold enterFormats
  dsimp only
  split
  · exact ⟨r, rfl, rfl⟩
  · refine ⟨_, rfl, foldl_channels ?_ _ r⟩
    intro r format
    split
    · simp
    · apply onChannel_channels
      intro m
      rfl

/-- Without the attribute words the sizes need the MPP of the channel. -/
theorem enterSizes_spec (checkOverlap : Bool) (r : ResourceManager) (i : Nat) (c : DppChannel) :
    ((checkOverlap = true ∨ (i : Int) ∈ r.channels) ∧
        ∃ r', enterSizes checkOverlap r i c = .ok r' ∧ r'.channels = r.channels) ∨
      (¬(checkOverlap = true ∨ (i : Int) ∈ r.channels) ∧
        enterSizes checkOverlap r i c = .error (.missingMPP i)) := by
  rw [← getOtfMPPWithChannel_isSome]
  unfold enterSizes
  dsimp only
  cases checkOverlap with
  | true => exact .inl ⟨.inl rfl, _, rfl, by simp⟩
  | false =>
    cases h : r.getOtfMPPWithChannel i with
    | none => exact .inr ⟨by simp, rfl⟩
    | some m =>
      refine .inl ⟨by simp, _, rfl, ?_⟩
      apply onChannel_channels
      intro m
      rfl

end Channels

section Loop

variable (checkOverlap : Bool) (overlap : List Bool)
  {body : ResourceManager → Nat → DppChannel → Except Fault ResourceManager}

/-- **The loop rule.**  The body may fail where `P` does not hold, and nowhere else; the loop gets
    to its end when every flag can be read and `P` holds of every channel that is not left out. -/
theorem forChannels_spec (ids : List Int) (P : Nat → Prop)
    (hbody : ∀ r i c, r.channels = ids → (P i ∧ ∃ r', body r i c = .ok r' ∧ r'.channels = ids) ∨
      (¬P i ∧ ∃ fault, body r i c = .error fault)) (l : List DppChannel) :
    ∀ i r, r.channels = ids →
      ((∀ k < l.length, ∃ flag, isSkipped checkOverlap overlap (i + k) = .ok flag ∧
          (flag = false → P (i + k))) ∧
        ∃ r', forChannels checkOverlap overlap body i l r = .ok r' ∧ r'.channels = ids) ∨
      (¬(∀ k < l.length, ∃ flag, isSkipped checkOverlap overlap (i + k) = .ok flag ∧
          (flag = false → P (i + k))) ∧
        ∃ fault, forChannels checkOverlap overlap body i l r = .error fault) := by
  induction l with
  | nil =>
    intro i r hr
    left
    exact ⟨fun k hk => absurd hk (Nat.not_lt_zero k), r, rfl, hr⟩
  | cons c rest ih =>
    intro i r hr
    -- what is asked of the rest is what is asked of the later channels
    have hall : (∀ k < (c :: rest).length, ∃ flag, isSkipped checkOverlap overlap (i + k) = .ok flag ∧
          (flag = false → P (i + k))) ↔
        (∃ flag, isSkipped checkOverlap overlap i = .ok flag ∧ (flag = false → P i)) ∧
          ∀ k < rest.length, ∃ flag, isSkipped checkOverlap overlap (i + 1 + k) = .ok flag ∧
            (flag = false → P (i + 1 + k)) := by
      constructor
      · intro h
        refine ⟨h 0 (by simp), ?_⟩
        intro k hk
        have := h (k + 1) (by simpa using hk)
        rwa [Nat.add_comm k 1, ← Nat.add_assoc] at this
      · rintro ⟨hfirst, hrest⟩ k hk
        cases k with
        | zero => exact hfirst
        | succ k =>
          have := hrest k (by simpa using hk)
          rwa [Nat.add_assoc, Nat.add_comm 1 k] at this
    rw [hall]
    unfold forChannels
    cases hskip : isSkipped checkOverlap overlap i with
    | error fault =>
      right
      refine ⟨?_, fault, rfl⟩
      rintro ⟨⟨flag, hflag, -⟩, -⟩
      cases hflag
    | ok flag =>
      cases flag with
      | true =>
        rcases ih (i + 1) r hr with ⟨hrest, hok⟩ | ⟨hrest, hfault⟩
        · exact .inl ⟨⟨⟨true, rfl, (fun h => nomatch h)⟩, hrest⟩, hok⟩
        · exact .inr ⟨fun h => hrest h.2, hfault⟩
      | false =>
        rcases hbody r i c hr with ⟨hp, r', hr', hids⟩ | ⟨hp, fault, hfault⟩
        · rw [hr']
          rcases ih (i + 1) r' hids with ⟨hrest, hok⟩ | ⟨hrest, hfault⟩
          · exact .inl ⟨⟨⟨false, rfl, fun _ => hp⟩, hrest⟩, hok⟩
          · exact .inr ⟨fun h => hrest h.2, hfault⟩
        · rw [hfault]
          right
          refine ⟨?_, fault, rfl⟩
          rintro ⟨⟨flag, hflag, hp'⟩, -⟩
          cases hflag
          exact hp (hp' rfl)

theorem isSkipped_ok (i : Nat) : (∃ flag, isSkipped checkOverlap overlap i = .ok flag) ↔
    (checkOverlap = true → i < overlap.length) := by
  unfold isSkipped
  cases checkOverlap with
  | false => simp
  | true =>
    by_cases hi : i < overlap.length
    · simp [hi]
    · simp [hi]

/-- A loop that nothing stops. -/
theorem forChannels_free
    (hbody : ∀ r i c, ∃ r', body r i c = .ok r' ∧ r'.channels = r.channels) (l : List DppChannel)
    (hlen : checkOverlap = true → l.length ≤ overlap.length) (r : ResourceManager) :
    ∃ r', forChannels checkOverlap overlap body 0 l r = .ok r' ∧ r'.channels = r.channels := by
  have hspec := forChannels_spec checkOverlap overlap r.channels (fun _ => True)
    (fun r₀ i c h₀ => .inl ⟨trivial, by rw [← h₀]; exact hbody r₀ i c⟩) l 0 r rfl
  rcases hspec with ⟨-, hok⟩ | ⟨hno, -⟩
  · exact hok
  · exfalso
    apply hno
    intro k hk
    obtain ⟨flag, hflag⟩ := (isSkipped_ok checkOverlap overlap (0 + k)).mpr fun hcheck => by
      have := hlen hcheck
      omega
    exact ⟨flag, hflag, fun _ => trivial⟩

end Loop

/-! ### The function -/

section Function

variable {dpuInfo : DpuInfo} {r : ResourceManager}

/-- With the attribute words there is a fault exactly when the array is too short. -/
theorem safe_overlap : (∃ r', makeDPURestrictions true dpuInfo r = .ok r') ↔ dpuInfo.dpp_ch.length ≤ 16 := by
  constructor
  · rintro ⟨r', h⟩
    by_contra hlong
    unfold makeDPURestrictions at h
    cases hcheck : checkAttributes 0 [] noOverlap dpuInfo.dpp_ch with
    | error fault => simp [hcheck, bind, Except.bind] at h
    | ok overlap =>
      have hlength : overlap.length = 16 := checkAttributes_length _ _ _ _ _ hcheck
      have hspec := forChannels_spec true overlap r.channels (fun _ => True)
        (fun r₀ i c h₀ => .inl ⟨trivial, by rw [← h₀]; exact enterFormats_spec true r₀ i c⟩)
        dpuInfo.dpp_ch 0 r rfl
      rcases hspec with ⟨hall, -⟩ | ⟨-, fault, hfault⟩
      · obtain ⟨flag, hflag, -⟩ := hall 16 (by omega)
        have hin := (isSkipped_ok true overlap (0 + 16)).mp ⟨flag, hflag⟩ rfl
        omega
      · simp [hcheck, bind, Except.bind, hfault] at h
  · intro hshort
    obtain ⟨overlap, hcheck, -⟩ := checkAttributes_overlap hshort
    have hlength : overlap.length = 16 := checkAttributes_length _ _ _ _ _ hcheck
    have hsizes : ∀ r₀ i c, ∃ r', enterSizes true r₀ i c = .ok r' ∧ r'.channels = r₀.channels := by
      intro r₀ i c
      rcases enterSizes_spec true r₀ i c with ⟨-, hok⟩ | ⟨hno, -⟩
      · exact hok
      · exact absurd (.inl rfl) hno
    obtain ⟨r₁, h₁, -⟩ := forChannels_free true overlap (enterFormats_spec true) dpuInfo.dpp_ch
      (fun _ => by omega) r
    obtain ⟨r₂, h₂, -⟩ := forChannels_free true overlap hsizes dpuInfo.dpp_ch (fun _ => by omega) r₁
    refine ⟨r₂, ?_⟩
    simp [makeDPURestrictions, hcheck, bind, Except.bind, h₁, h₂]

/-- Without them there is a fault exactly when a channel has no MPP. -/
theorem safe_channels : (∃ r', makeDPURestrictions false dpuInfo r = .ok r') ↔
    ∀ i < dpuInfo.dpp_ch.length, (r.getOtfMPPWithChannel i).isSome := by
  have hsizes : ∀ r₀ (i : Nat) c, r₀.channels = r.channels →
      ((i : Int) ∈ r.channels ∧ ∃ r', enterSizes false r₀ i c = .ok r' ∧ r'.channels = r.channels) ∨
        (¬(i : Int) ∈ r.channels ∧ ∃ fault, enterSizes false r₀ i c = .error fault) := by
    intro r₀ i c h₀
    rcases enterSizes_spec false r₀ i c with ⟨hp, hok⟩ | ⟨hp, hfault⟩
    · rw [h₀] at hp hok
      exact .inl ⟨by simpa using hp, hok⟩
    · rw [h₀] at hp
      exact .inr ⟨by simpa using hp, _, hfault⟩
  obtain ⟨r₁, h₁, hids⟩ := forChannels_free false noOverlap (enterFormats_spec false) dpuInfo.dpp_ch
    (fun h => nomatch h) r
  have hspec := forChannels_spec false noOverlap r.channels (fun i => (i : Int) ∈ r.channels) hsizes
    dpuInfo.dpp_ch 0 r₁ hids
  have hrun : makeDPURestrictions false dpuInfo r =
      forChannels false noOverlap (enterSizes false) 0 dpuInfo.dpp_ch r₁ := by
    simp [makeDPURestrictions, bind, Except.bind, h₁]
  have hcond : (∀ k < dpuInfo.dpp_ch.length, ∃ flag, isSkipped false noOverlap (0 + k) = .ok flag ∧
        (flag = false → ((0 + k : Nat) : Int) ∈ r.channels)) ↔
      ∀ i < dpuInfo.dpp_ch.length, (r.getOtfMPPWithChannel i).isSome := by
    simp [isSkipped, getOtfMPPWithChannel_isSome]
  rw [hrun, ← hcond]
  rcases hspec with ⟨hall, r', hok, -⟩ | ⟨hno, fault, hfault⟩
  · exact ⟨fun _ => hall, fun _ => ⟨r', hok⟩⟩
  · refine ⟨?_, fun h => absurd h hno⟩
    rintro ⟨r', hok⟩
    rw [hfault] at hok
    cases hok

end Function

/-- **The accesses are in bounds** and no missing MPP is used exactly when the array has a place
    for every channel, or every channel has its MPP. -/
theorem restrictions_meet_iff (checkOverlap : Bool) (dpuInfo : DpuInfo) (r : ResourceManager) :
    Meets checkOverlap dpuInfo r ↔ Regular checkOverlap dpuInfo r := by
  cases checkOverlap with
  | true =>
    constructor
    · intro h
      exact safe_overlap.mp h.safe
    · intro h
      exact ⟨safe_overlap.mpr h, fun _ => checkAttributes_overlap h⟩
  | false =>
    constructor
    · intro h
      exact safe_channels.mp h.safe
    · intro h
      exact ⟨safe_channels.mpr h, (fun h => nomatch h)⟩

/-! ### All channels of the interface, and a channel without an MPP -/

def plainChannel (attr : BitVec 64) : DppChannel where
  attr := attr
  restriction :=
    { src_f_w := ⟨16, 65534⟩, src_f_h := ⟨16, 8190⟩, src_w := ⟨16, 4096⟩, src_h := ⟨16, 4096⟩
      src_x_align := 1, src_y_align := 1
      dst_f_w := ⟨16, 8190⟩, dst_f_h := ⟨16, 8190⟩, dst_w := ⟨16, 4096⟩, dst_h := ⟨16, 4096⟩
      dst_x_align := 1, dst_y_align := 1, blk_x_align := 1, blk_y_align := 1
      format := [1], format_cnt_le := by decide, scale_down := 2, scale_up := 8 }

/-- As many channels as the table of the interface has. -/
def allChannels : DpuInfo := ⟨List.replicate 17 (plainChannel 1), by decide⟩

def oneChannel : DpuInfo := ⟨[plainChannel 1], by decide⟩

def noMPPs : ResourceManager := ⟨[], [], [], fun _ => none⟩

/-- The seventeenth channel is flagged outside the array; and the limits of a channel are given
    to an MPP that is not there. -/
theorem channel_faults :
    (makeDPURestrictions true allChannels noMPPs = .error (.overlapIndex 16) ∧
      ¬Meets true allChannels noMPPs) ∧
    (makeDPURestrictions false oneChannel noMPPs = .error (.missingMPP 0) ∧
      ¬Meets false oneChannel noMPPs) := by
  have hall : makeDPURestrictions true allChannels noMPPs = .error (.overlapIndex 16) := rfl
  have hone : makeDPURestrictions false oneChannel noMPPs = .error (.missingMPP 0) := rfl
  refine ⟨⟨hall, ?_⟩, hone, ?_⟩
  · rintro ⟨⟨r, hr⟩, -⟩
    rw [hall] at hr
    cases hr
  · rintro ⟨⟨r, hr⟩, -⟩
    rw [hone] at hr
    cases hr

end ExynosHal.DpuRestrictions
