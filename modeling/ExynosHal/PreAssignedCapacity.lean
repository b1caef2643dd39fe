/-
  ExynosHal/PreAssignedCapacity.lean
  ==================================
  **Setting aside capacity of a memory-to-memory MPP before the assignment.**

  `ExynosResourceManager::setPreAssignedCapacity` of
  `libhwc2.1/device/ExynosResourceManager.cpp`.  The function walks over the M2M
  MPPs, the candidate output images and the OTF MPPs, and sets the capacity at the
  first M2M MPP and candidate for which the innermost test answers true.

  `isSupported` answers zero for yes and a negative error code for no.
-/
import ExynosHal.MppSupport

namespace ExynosHal.PreAssignedCapacity

open ExynosHal.MppSupport

/-- An MPP of `mM2mMPPs` or `mOtfMPPs`. -/
structure Mpp where
  mpp : ExynosMPP
  mReservedDisplay : Nat
  mPreAssignedCapacity : Rat

/-- The other functions that are called: the capacity check of an M2M MPP, the capacity
    that a layer needs and the output images that the resource manager proposes. -/
structure Manager where
  isSupported : Mpp → ExynosImage → ExynosImage → Int
  isAssignable : Mpp → ExynosImage → ExynosImage → Bool
  getRequiredCapacity : Mpp → ExynosImage → ExynosImage → Rat
  getCandidateM2mMPPOutImages : Option (List ExynosImage)
  mOtfMPPs : List Mpp

/-- `transform = 0`. -/
def upright (img : ExynosImage) : ExynosImage := { img with transform := 0 }

/-- The M2M MPP leaves the colour transform to the OTF MPP where the candidate has one. -/
def m2mSource (src_img otf_src_img : ExynosImage) : ExynosImage :=
  if otf_src_img.needColorTransform then { src_img with needColorTransform := false } else src_img

namespace Manager

variable (r : Manager) (display : Nat) (type : PhysicalType) (src_img dst_img : ExynosImage)

/-- The conditions on the M2M MPP: id check, type check, capacity check. -/
def eligible (m : Mpp) : Bool :=
  m.mReservedDisplay == display && m.mpp.mPhysicalType == type && r.isAssignable m src_img dst_img

/-- The M2M MPP can write the candidate. -/
def writes (m : Mpp) (otf_src_img : ExynosImage) : Bool :=
  r.isSupported m (m2mSource src_img otf_src_img) (upright otf_src_img) == NO_ERROR

/-- The innermost test: the answer of `isSupported` is used as a `bool`. -/
def otfTest (otf_src_img : ExynosImage) : Bool :=
  r.mOtfMPPs.any fun m =>
    m.mReservedDisplay == display &&
      r.isSupported m (upright otf_src_img) (upright dst_img) != NO_ERROR

/-- The loop over the candidates of one M2M MPP. -/
def candidateLoop (m : Mpp) : List ExynosImage → Option ExynosImage
  | [] => none
  | otf_src_img :: rest =>
      if r.writes src_img m otf_src_img then
        if r.otfTest display dst_img otf_src_img then some otf_src_img else candidateLoop m rest
      else candidateLoop m rest

/-- The loop over the M2M MPPs from position `i` on: where the capacity is set. -/
def mppLoop (i : Nat) : List Mpp → Option (Nat × ExynosImage)
  | [] => none
  | m :: rest =>
      if r.eligible display type src_img dst_img m then
        match r.getCandidateM2mMPPOutImages with
        | none => none
        | some image_lists =>
            match r.candidateLoop display src_img dst_img m image_lists with
            | some otf_src_img => some (i, otf_src_img)
            | none => mppLoop (i + 1) rest
      else mppLoop (i + 1) rest

/-- `setPreAssignedCapacity`: the return value and the M2M MPPs afterwards. -/
def setPreAssignedCapacity (mM2mMPPs : List Mpp) : Int × List Mpp :=
  match r.mppLoop display type src_img dst_img 0 mM2mMPPs with
  | some (i, _) =>
      (0, mM2mMPPs.modify i fun m =>
        { m with mPreAssignedCapacity := r.getRequiredCapacity m src_img dst_img })
  | none => (-1, mM2mMPPs)

/-! ### The candidates in the order of the loops -/

/-- The candidates that an M2M MPP can write. -/
def written (m : Mpp) : List ExynosImage :=
  if r.eligible display type src_img dst_img m then
    (r.getCandidateM2mMPPOutImages.getD []).filter (r.writes src_img m)
  else []

/-- The M2M MPPs and the candidates they can write, in the order in which the loops
    reach them. -/
def tried (i : Nat) : List Mpp → List (Nat × ExynosImage)
  | [] => []
  | m :: rest =>
      (r.written display type src_img dst_img m).map (fun img => (i, img)) ++ tried (i + 1) rest

theorem candidateLoop_eq (m : Mpp) (images : List ExynosImage) :
    r.candidateLoop display src_img dst_img m images =
      (images.filter (r.writes src_img m)).find? (r.otfTest display dst_img) := by
  induction images with
  | nil => rfl
  | cons img rest ih =>
    by_cases hw : r.writes src_img m img = true
    · rw [List.filter_cons_of_pos hw]
      by_cases ht : r.otfTest display dst_img img = true
      · simp [candidateLoop, hw, ht]
      · simp [candidateLoop, hw, ht, ih]
    · rw [List.filter_cons_of_neg hw]
      simp [candidateLoop, hw, ih]

/-- Without a list of candidates nothing is tried. -/
theorem tried_none (hnone : r.getCandidateM2mMPPOutImages = none) (mpps : List Mpp) :
    ∀ i, r.tried display type src_img dst_img i mpps = [] := by
  induction mpps with
  | nil => intro _; rfl
  | cons m rest ih => intro i; simp [tried, written, hnone, ih]

/-- **The nested loops are one search** through the candidates in their order. -/
theorem mppLoop_eq (mpps : List Mpp) : ∀ i,
    r.mppLoop display type src_img dst_img i mpps =
      (r.tried display type src_img dst_img i mpps).find? (fun p => r.otfTest display dst_img p.2) := by
  induction mpps with
  | nil => intro _; rfl
  | cons m rest ih =>
    intro i
    by_cases he : r.eligible display type src_img dst_img m = true
    · cases hc : r.getCandidateM2mMPPOutImages with
      | none =>
        rw [r.tried_none display type src_img dst_img hc]
        simp [mppLoop, he, hc]
      | some images =>
        simp only [mppLoop, he, if_true, hc, tried, written, Option.getD_some, candidateLoop_eq,
          List.find?_append, List.find?_map, Function.comp_def, ih]
        cases (images.filter (r.writes src_img m)).find? (r.otfTest display dst_img) with
        | none => rfl
        | some img => rfl
    · simp [mppLoop, he, tried, written, ih]

end Manager

namespace Manager

variable (r : Manager) (display : Nat) (type : PhysicalType) (src_img dst_img : ExynosImage)

/-! ### When the capacity is set rightly -/

/-- Some OTF MPP reserved for the display refuses the candidate. -/
def Refused (otf_src_img : ExynosImage) : Prop :=
  ∃ m ∈ r.mOtfMPPs, m.mReservedDisplay = display ∧
    r.isSupported m (upright otf_src_img) (upright dst_img) ≠ NO_ERROR

/-- Some OTF MPP reserved for the display can show the candidate and can be assigned. -/
def Shown (otfAssignable : Mpp → ExynosImage → ExynosImage → Bool) (otf_src_img : ExynosImage) :
    Prop :=
  ∃ m ∈ r.mOtfMPPs, m.mReservedDisplay = display ∧
    r.isSupported m (upright otf_src_img) (upright dst_img) = NO_ERROR ∧
    otfAssignable m (upright otf_src_img) (upright dst_img) = true

/-- Capacity is set only for an M2M MPP that fits and can write a candidate which can be
    shown; otherwise everything stays as it was. -/
structure SetRightly (otfAssignable : Mpp → ExynosImage → ExynosImage → Bool)
    (mM2mMPPs : List Mpp) : Prop where
  shown : ∀ i img, r.mppLoop display type src_img dst_img 0 mM2mMPPs = some (i, img) →
    (∃ m, mM2mMPPs[i]? = some m ∧ r.eligible display type src_img dst_img m = true ∧
      r.writes src_img m img = true) ∧ r.Shown display dst_img otfAssignable img
  kept : (r.setPreAssignedCapacity display type src_img dst_img mM2mMPPs).1 ≠ 0 →
    (r.setPreAssignedCapacity display type src_img dst_img mM2mMPPs).2 = mM2mMPPs

theorem otfTest_iff (img : ExynosImage) :
    r.otfTest display dst_img img = true ↔ r.Refused display dst_img img := by
  simp [otfTest, Refused]

/-- Where a tried candidate comes from. -/
theorem mem_tried {mpps : List Mpp} : ∀ {i : Nat} {p : Nat × ExynosImage},
    p ∈ r.tried display type src_img dst_img i mpps →
      ∃ k m, p.1 = i + k ∧ mpps[k]? = some m ∧
        r.eligible display type src_img dst_img m = true ∧ r.writes src_img m p.2 = true := by
  induction mpps with
  | nil =>
    intro i p hp
    cases hp
  | cons m rest ih =>
    intro i p hp
    rcases List.mem_append.mp hp with hhead | htail
    · obtain ⟨img, himg, rfl⟩ := List.mem_map.mp hhead
      unfold written at himg
      split at himg
      · rename_i he
        exact ⟨0, m, rfl, rfl, he, (List.mem_filter.mp himg).2⟩
      · cases himg
    · obtain ⟨k, m', hk, hm', he, hw⟩ := ih htail
      exact ⟨k + 1, m', by omega, by simpa using hm', he, hw⟩

/-- The first candidate that a reserved OTF MPP refuses can be shown by another one. -/
def FirstRefusedShown (otfAssignable : Mpp → ExynosImage → ExynosImage → Bool)
    (mM2mMPPs : List Mpp) : Prop :=
  ∀ before p after, r.tried display type src_img dst_img 0 mM2mMPPs = before ++ p :: after →
    (∀ q ∈ before, ¬ r.Refused display dst_img q.2) → r.Refused display dst_img p.2 →
    r.Shown display dst_img otfAssignable p.2

/-- The position and candidate of the loops, as the first refused candidate. -/
theorem mppLoop_some_iff {mpps : List Mpp} {p : Nat × ExynosImage} :
    r.mppLoop display type src_img dst_img 0 mpps = some p ↔
      ∃ before after, r.tried display type src_img dst_img 0 mpps = before ++ p :: after ∧
        (∀ q ∈ before, ¬ r.Refused display dst_img q.2) ∧ r.Refused display dst_img p.2 := by
  rw [mppLoop_eq, List.find?_eq_some_iff_append]
  simp only [otfTest_iff]
  constructor
  · rintro ⟨hp, before, after, htried, hbefore⟩
    refine ⟨before, after, htried, ?_, hp⟩
    intro q hq hrefused
    have hnot := hbefore q hq
    rw [(r.otfTest_iff display dst_img q.2).mpr hrefused] at hnot
    cases hnot
  · rintro ⟨before, after, htried, hbefore, hp⟩
    refine ⟨hp, before, after, htried, ?_⟩
    intro q hq
    cases ht : r.otfTest display dst_img q.2 with
    | false => rfl
    | true => exact absurd ((r.otfTest_iff display dst_img q.2).mp ht) (hbefore q hq)

/-- **Which inputs are handled rightly.**  Capacity is set only for candidates that can be
    shown if and only if the first candidate, in the order of the loops, that some reserved
    OTF MPP refuses can be shown by another one. -/
theorem capacity_setRightly (otfAssignable : Mpp → ExynosImage → ExynosImage → Bool)
    (mM2mMPPs : List Mpp) :
    r.SetRightly display type src_img dst_img otfAssignable mM2mMPPs ↔
      r.FirstRefusedShown display type src_img dst_img otfAssignable mM2mMPPs := by
  constructor
  · intro h before p after htried hbefore hp
    have hloop := (r.mppLoop_some_iff display type src_img dst_img).mpr
      ⟨before, after, htried, hbefore, hp⟩
    exact (h.shown p.1 p.2 hloop).2
  · intro h
    refine ⟨?_, ?_⟩
    · intro i img hloop
      obtain ⟨before, after, htried, hbefore, hp⟩ :=
        (r.mppLoop_some_iff display type src_img dst_img).mp hloop
      refine ⟨?_, h before (i, img) after htried hbefore hp⟩
      have hmem : (i, img) ∈ r.tried display type src_img dst_img 0 mM2mMPPs := by
        rw [htried]
        exact List.mem_append_right before List.mem_cons_self
      obtain ⟨k, m, hk, hm, he, hw⟩ := r.mem_tried display type src_img dst_img hmem
      have hi : i = k := hk.trans (Nat.zero_add k)
      rw [hi]
      exact ⟨m, hm, he, hw⟩
    · intro hfailed
      unfold setPreAssignedCapacity at hfailed ⊢
      split
      · rename_i i img hloop
        rw [hloop] at hfailed
        exact absurd rfl hfailed
      · rfl

end Manager

/-! ### A candidate that cannot be shown -/

/-- An M2M MPP that reads and writes the formats 1 and 2. -/
def scaler : Mpp where
  mpp := { channel with
    isOtf := false
    mPhysicalType := .MSC
    mFormatRestrictions := [(.NONE, 1), (.NONE, 2)] }
  mReservedDisplay := 0
  mPreAssignedCapacity := 0

/-- One OTF MPP, reserved for display 0, which reads format 1 only. -/
def oneChannel (candidate : ExynosImage) : Manager where
  isSupported := fun m src dst => (m.mpp.isSupported src dst).getD NO_ERROR
  isAssignable := fun _ _ _ => true
  getRequiredCapacity := fun _ _ _ => 3
  getCandidateM2mMPPOutImages := some [candidate]
  mOtfMPPs := [⟨channel, 0, 0⟩]

/-- A candidate of format 2: the only OTF MPP does not support it, and the capacity of the
    M2M MPP is set for it. -/
theorem capacity_set_for_refused :
    let candidate := { rgbImage 1000 1000 0 with exynosFormat := ⟨2, true, false, false⟩ }
    ((oneChannel candidate).setPreAssignedCapacity 0 .MSC (rgbImage 1000 1000 0)
        (rgbImage 1000 1000 0) [scaler]).1 = 0 ∧
      ¬ (oneChannel candidate).SetRightly 0 .MSC (rgbImage 1000 1000 0) (rgbImage 1000 1000 0)
        (fun _ _ _ => true) [scaler] := by
  intro candidate
  have hloop : (oneChannel candidate).mppLoop 0 .MSC (rgbImage 1000 1000 0) (rgbImage 1000 1000 0) 0
      [scaler] = some (0, candidate) := by decide
  refine ⟨by decide, ?_⟩
  intro h
  obtain ⟨m, hm, -, hsupported, -⟩ := (h.shown 0 candidate hloop).2
  rw [List.mem_singleton.mp hm] at hsupported
  revert hsupported
  decide

end ExynosHal.PreAssignedCapacity
