/-
  ExynosHal/GiantChain.lean
  =========================
  **The chain of scaling stages of the giant scaler.**

  Along each axis the next size lies between the size reached and the one asked
  for (`nextSize_ok`), so the chain of stages ends (`exists_chain`).  What
  `generate` returns is told by the chain alone (`generateLoop_of_chain`).
-/
import ExynosHal.GiantMscl
import Mathlib.Data.List.Chain
import Mathlib.Data.Nat.Dist

namespace ExynosHal.GiantMscl

open ExynosHal ExynosHal.HalTransform

/-! ### Rounding -/

theorem clearBits_eq (val k : Nat) : clearBits val (2 ^ k - 1) = val / 2 ^ k * 2 ^ k := by
  rw [clearBits, Nat.and_two_pow_sub_one_eq_mod]
  have hsum := Nat.div_add_mod' val (2 ^ k)
  omega

theorem makeEven_eq (val : Nat) : makeEven val = (val + 1) / 2 * 2 := clearBits_eq (val + 1) 1

theorem round_up_two (val : Nat) : round_up val 2 = (val + 1) / 2 * 2 := clearBits_eq (val + 1) 1

theorem round_up_four (val : Nat) : round_up val 4 = (val + 3) / 4 * 4 := clearBits_eq (val + 3) 2

theorem is_aligned_iff {val factor : Nat} (h : factor = 2 ∨ factor = 4) :
    is_aligned val factor = true ↔ val % factor = 0 := by
  rw [is_aligned, beq_iff_eq]
  rcases h with rfl | rfl
  · rw [Nat.and_two_pow_sub_one_eq_mod val 1]
  · rw [Nat.and_two_pow_sub_one_eq_mod val 2]

/-! ### One axis -/

/-- What is known along one axis when a stage begins. -/
structure Axis (src dst align factor : Nat) : Prop where
  align_cases : align = 2 ∨ align = 4
  factor_cases : factor = 2 ∨ factor = 4
  src_least : 4 ≤ src
  src_most : src ≤ NR_PIXELS_16K
  src_split : NR_PIXELS_8K < src → src % factor = 0
  dst_least : 4 ≤ dst
  dst_most : dst ≤ NR_PIXELS_16K
  dst_split : NR_PIXELS_8K < dst → dst % align = 0
  dst_even : align = 4 → dst % 2 = 0

/-- What a stage makes of it. -/
structure NextSize (src dst align factor n : Nat) : Prop where
  least : 4 ≤ n
  most : n ≤ NR_PIXELS_16K
  even : align = 4 → n % 2 = 0
  down : src ≤ 4 * n
  up : n ≤ 8 * src
  split : NR_PIXELS_8K < src ∨ NR_PIXELS_8K < n → src % factor = 0 ∧ n % align = 0
  closer : n = dst ∨ (src < n ∧ n < dst) ∨ (dst < n ∧ n < src)

theorem nextSize_down {src dst align factor : Nat} (h : Axis src dst align factor) (hlt : dst < src) :
    NextSize src dst align factor (nextSize src dst align factor) := by
  obtain ⟨ha, hf, hs4, hs16, hss, hd4, hd16, hds, hde⟩ := h
  have hquarter : makeEven (round_up src 4 / 4) = ((src + 3) / 4 + 1) / 2 * 2 := by
    rw [makeEven_eq, round_up_four]
    omega
  rw [nextSize, if_pos hlt, hquarter]
  by_cases hbig : src > NR_PIXELS_8K
  · -- The rounding stays below `src`, since a larger `dst` is aligned already.
    rw [if_pos hbig]
    rcases ha with rfl | rfl
    · rw [round_up_two]
      constructor <;> simp only [NR_PIXELS_8K, NR_PIXELS_16K] at * <;> omega
    · rw [round_up_four]
      constructor <;> simp only [NR_PIXELS_8K, NR_PIXELS_16K] at * <;> omega
  · rw [if_neg hbig]
    constructor <;> simp only [NR_PIXELS_8K, NR_PIXELS_16K] at * <;> omega

theorem nextSize_up {src dst align factor : Nat} (h : Axis src dst align factor) (hle : src ≤ dst) :
    NextSize src dst align factor (nextSize src dst align factor) := by
  have hal : is_aligned src factor = true ↔ src % factor = 0 := is_aligned_iff h.factor_cases
  obtain ⟨ha, hf, hs4, hs16, hss, hd4, hd16, hds, hde⟩ := h
  rw [nextSize, if_neg (by omega)]
  by_cases hbad : min (src * 8) dst > NR_PIXELS_8K ∧ ¬is_aligned src factor
  · -- An image that cannot be split is below 8K, and so is its target.
    rw [if_pos hbad]
    rw [hal] at hbad
    refine ⟨?_, ?_, fun _ => rfl, ?_, ?_, ?_, ?_⟩ <;> simp only [NR_PIXELS_8K, NR_PIXELS_16K] at * <;>
      rcases ha with rfl | rfl <;> rcases hf with rfl | rfl <;> omega
  · rw [if_neg hbad]
    rw [hal] at hbad
    constructor <;> simp only [NR_PIXELS_8K, NR_PIXELS_16K] at * <;>
      rcases ha with rfl | rfl <;> rcases hf with rfl | rfl <;> omega

/-- **One axis of a stage.** -/
theorem nextSize_ok {src dst align factor : Nat} (h : Axis src dst align factor) :
    NextSize src dst align factor (nextSize src dst align factor) := by
  rcases Nat.lt_or_ge dst src with hlt | hle
  · exact nextSize_down h hlt
  · exact nextSize_up h hle

/-! ### Stages -/

/-- The rows that a split has to keep together, doubled. -/
def rowAlign (format : PixelFormat) : Nat := if format = .YCBCR_422_I then 2 else 4

/-- What `checkImageType` accepts as a destination. -/
structure Image.Accepted (img : Image) : Prop where
  width_even : img.width % 2 = 0
  height_even : img.format ≠ .YCBCR_422_I → img.height % 2 = 0
  width_least : 4 ≤ img.width
  height_least : 4 ≤ img.height
  width_most : img.width ≤ NR_PIXELS_16K
  height_most : img.height ≤ NR_PIXELS_16K
  width_split : NR_PIXELS_8K < img.width → img.width % 4 = 0
  height_split : NR_PIXELS_8K < img.height → img.height % rowAlign img.format = 0

theorem rowAlign_ne (format : PixelFormat) (height : Nat) :
    (if format ≠ .YCBCR_422_I then height % 4 ≠ 0 else height % 2 ≠ 0) ↔
      height % rowAlign format ≠ 0 := by
  unfold rowAlign
  by_cases hf : format = .YCBCR_422_I
  · rw [if_pos hf, if_neg (not_not_intro hf)]
  · rw [if_neg hf, if_pos hf]

theorem accepted_of_check {img : Image} {minw minh : Nat} (hw : 4 ≤ minw) (hh : 4 ≤ minh)
    (h : checkImageType img.width img.height minw minh img.format = true) : img.Accepted := by
  have heven : ∀ n : Nat, n &&& 1 = n % 2 := fun n => Nat.and_two_pow_sub_one_eq_mod n 1
  unfold checkImageType at h
  simp only [heven, rowAlign_ne] at h
  iterate 6
    split at h
    · contradiction
  rename_i hwe hhe hmost hleast hws hhs
  constructor <;> try omega
  intro hf
  by_contra hodd
  exact hhe ⟨hf, hodd⟩

theorem GiantMsclImpl.src_accepted (g : GiantMsclImpl) : g.mSrcImage.Accepted :=
  accepted_of_check (by decide) (by decide) g.src_ok

theorem GiantMsclImpl.dst_accepted (g : GiantMsclImpl) : g.mDstImage.Accepted :=
  accepted_of_check (by decide) (by decide) g.dst_ok

structure Stage where
  source : Image
  target : Image
  transform : BitVec 32
deriving DecidableEq, Repr

section Stages

variable {source dst : Image} (transform : BitVec 32)

theorem rowAlign_cases (format : PixelFormat) : rowAlign format = 2 ∨ rowAlign format = 4 := by
  unfold rowAlign
  split
  · exact .inl rfl
  · exact .inr rfl

theorem factor_cases (p : Prop) [Decidable p] : (if p then 2 else 4) = 2 ∨ (if p then 2 else 4) = 4 := by
  by_cases h : p
  · exact .inl (if_pos h)
  · exact .inr (if_neg h)

theorem width_axis (hs : source.Accepted) (hd : dst.Accepted) :
    Axis (turnedSize transform source).1 dst.width 4
      (if rotates transform ∧ source.format = .YCBCR_422_I then 2 else 4) := by
  have hfactor := factor_cases (rotates transform ∧ source.format = .YCBCR_422_I)
  cases hr : rotates transform with
  | false =>
    simp only [turnedSize, hr, Bool.false_eq_true, if_false, false_and]
    exact ⟨.inr rfl, .inr rfl, hs.width_least, hs.width_most, hs.width_split, hd.width_least,
      hd.width_most, hd.width_split, fun _ => hd.width_even⟩
  | true =>
    simp only [turnedSize, hr, if_true, true_and] at hfactor ⊢
    exact ⟨.inr rfl, hfactor, hs.height_least, hs.height_most, hs.height_split, hd.width_least,
      hd.width_most, hd.width_split, fun _ => hd.width_even⟩

theorem height_axis (hs : source.Accepted) (hd : dst.Accepted) :
    Axis (turnedSize transform source).2 dst.height (rowAlign dst.format)
      (if ¬rotates transform ∧ source.format = .YCBCR_422_I then 2 else 4) := by
  have hfactor := factor_cases (¬rotates transform ∧ source.format = .YCBCR_422_I)
  have heven : rowAlign dst.format = 4 → dst.height % 2 = 0 := by
    intro halign
    apply hd.height_even
    intro hf
    rw [rowAlign, if_pos hf] at halign
    contradiction
  cases hr : rotates transform with
  | false =>
    simp only [turnedSize, hr, Bool.false_eq_true, if_false, not_false_eq_true, true_and] at hfactor ⊢
    exact ⟨rowAlign_cases _, hfactor, hs.height_least, hs.height_most, hs.height_split,
      hd.height_least, hd.height_most, hd.height_split, heven⟩
  | true =>
    simp only [turnedSize, hr, if_true, not_true, false_and, if_false]
    exact ⟨rowAlign_cases _, .inr rfl, hs.width_least, hs.width_most, hs.width_split,
      hd.height_least, hd.height_most, hd.height_split, heven⟩

theorem width_next (hs : source.Accepted) (hd : dst.Accepted) :
    NextSize (turnedSize transform source).1 dst.width 4
      (if rotates transform ∧ source.format = .YCBCR_422_I then 2 else 4)
      (nextTarget transform source dst).width :=
  nextSize_ok (width_axis transform hs hd)

theorem height_next (hs : source.Accepted) (hd : dst.Accepted) :
    NextSize (turnedSize transform source).2 dst.height (rowAlign dst.format)
      (if ¬rotates transform ∧ source.format = .YCBCR_422_I then 2 else 4)
      (nextTarget transform source dst).height :=
  nextSize_ok (height_axis transform hs hd)

/-- The images between the stages would be accepted themselves. -/
theorem nextTarget_accepted (hs : source.Accepted) (hd : dst.Accepted) :
    (nextTarget transform source dst).Accepted := by
  have hw := width_next transform hs hd
  have hh := height_next transform hs hd
  refine ⟨hw.even rfl, fun hf => hh.even ?_, hw.least, hh.least, hw.most, hh.most,
    fun hbig => (hw.split (.inr hbig)).2, fun hbig => (hh.split (.inr hbig)).2⟩
  exact if_neg hf

end Stages

/-! ### Splits -/

/-- A size that an image of the format may have. -/
def Fits (format : PixelFormat) (width height : Nat) : Prop :=
  width % 2 = 0 ∧ (format ≠ .YCBCR_422_I → height % 2 = 0)

namespace Stage

def task (s : Stage) (srcbuf dstbuf : Buffer) : Task :=
  Task.new s.source s.target srcbuf dstbuf s.transform

/-- The number of pieces along the axes of the source, and along those of the target. -/
def pieces (s : Stage) : Nat × Nat :=
  let (horizontal, vertical) := splits s.source s.target s.transform
  (if horizontal then 2 else 1, if vertical then 2 else 1)

def targetPieces (s : Stage) : Nat × Nat := if rotates s.transform then s.pieces.swap else s.pieces

/-- Each axis is scaled by a ratio between 1/4 and 8. -/
structure Scales (s : Stage) : Prop where
  width_down : (turnedSize s.transform s.source).1 ≤ 4 * s.target.width
  width_up : s.target.width ≤ 8 * (turnedSize s.transform s.source).1
  height_down : (turnedSize s.transform s.source).2 ≤ 4 * s.target.height
  height_up : s.target.height ≤ 8 * (turnedSize s.transform s.source).2

/-- The tiles have equal sizes, which meet the alignment of the format. -/
structure SplitsEvenly (s : Stage) : Prop where
  srcWidth : ∀ b b', s.pieces.1 * (s.task b b').mSrcWidth = s.source.width
  srcHeight : ∀ b b', s.pieces.2 * (s.task b b').mSrcHeight = s.source.height
  dstWidth : ∀ b b', s.targetPieces.1 * (s.task b b').mDstWidth = s.target.width
  dstHeight : ∀ b b', s.targetPieces.2 * (s.task b b').mDstHeight = s.target.height
  src_fits : ∀ b b', Fits s.source.format (s.task b b').mSrcWidth (s.task b b').mSrcHeight
  dst_fits : ∀ b b', Fits s.target.format (s.task b b').mDstWidth (s.task b b').mDstHeight

/-- Where an axis is split, its sizes can be halved. -/
structure Halvable (s : Stage) : Prop where
  srcWidth : s.pieces.1 = 2 → s.source.width % 4 = 0
  srcHeight : s.pieces.2 = 2 → s.source.height % rowAlign s.source.format = 0
  dstWidth : s.targetPieces.1 = 2 → s.target.width % 4 = 0
  dstHeight : s.targetPieces.2 = 2 → s.target.height % rowAlign s.target.format = 0

end Stage

theorem pieces_eq_two {p : Prop} [Decidable p] : (if p then 2 else 1) = 2 ↔ p := by
  by_cases h : p
  · simp [h]
  · simp [h]

/-- A stage as `generate` makes it. -/
def nextStage (transform : BitVec 32) (source dst : Image) : Stage :=
  ⟨source, nextTarget transform source dst, transform⟩

theorem nextStage_halvable (transform : BitVec 32) {source dst : Image} (hs : source.Accepted)
    (hd : dst.Accepted) : (nextStage transform source dst).Halvable := by
  have hw := (width_next transform hs hd).split
  have hh := (height_next transform hs hd).split
  cases hr : rotates transform with
  | false =>
    simp only [turnedSize, hr, Bool.false_eq_true, if_false, false_and, not_false_eq_true,
      true_and] at hw hh
    constructor <;>
      simp only [Stage.targetPieces, Stage.pieces, splits, nextStage, turnedSize, hr,
        Bool.false_eq_true, if_false, decide_eq_true_eq, pieces_eq_two] <;> intro hsplit
    · exact (hw hsplit).1
    · exact (hh hsplit).1
    · exact (hw hsplit).2
    · exact (hh hsplit).2
  | true =>
    simp only [turnedSize, hr, if_true, not_true, false_and, if_false, true_and] at hw hh
    constructor <;>
      simp only [Stage.targetPieces, Stage.pieces, splits, nextStage, turnedSize, hr,
        if_true, Prod.fst_swap, Prod.snd_swap, decide_eq_true_eq, pieces_eq_two] <;> intro hsplit
    · exact (hh hsplit).1
    · exact (hw hsplit).1
    · exact (hw hsplit).2
    · exact (hh hsplit).2

theorem nextStage_scales (transform : BitVec 32) {source dst : Image} (hs : source.Accepted)
    (hd : dst.Accepted) : (nextStage transform source dst).Scales := by
  have hw := width_next transform hs hd
  have hh := height_next transform hs hd
  exact ⟨hw.down, hw.up, hh.down, hh.up⟩

section Pieces

variable {p : Nat} {n : Nat}

theorem piece_even (hp : p = 1 ∨ p = 2) (heven : n % 2 = 0) (h : p = 2 → n % 4 = 0) :
    p * (n / p) = n ∧ n / p % 2 = 0 := by
  rcases hp with rfl | rfl
  · omega
  · have hfour := h rfl
    omega

theorem piece_rows (hp : p = 1 ∨ p = 2) (format : PixelFormat)
    (heven : format ≠ .YCBCR_422_I → n % 2 = 0) (h : p = 2 → n % rowAlign format = 0) :
    p * (n / p) = n ∧ (format ≠ .YCBCR_422_I → n / p % 2 = 0) := by
  by_cases hf : format = .YCBCR_422_I
  · refine ⟨?_, fun hne => absurd hf hne⟩
    rw [rowAlign, if_pos hf] at h
    rcases hp with rfl | rfl
    · omega
    · have htwo := h rfl
      omega
  · rw [rowAlign, if_neg hf] at h
    obtain ⟨hexact, hhalf⟩ := piece_even hp (heven hf) h
    exact ⟨hexact, fun _ => hhalf⟩

end Pieces

namespace Stage

variable {s : Stage}

theorem pieces_cases : (s.pieces.1 = 1 ∨ s.pieces.1 = 2) ∧ (s.pieces.2 = 1 ∨ s.pieces.2 = 2) := by
  unfold pieces
  constructor
  · cases (splits s.source s.target s.transform).1 <;> simp
  · cases (splits s.source s.target s.transform).2 <;> simp

theorem targetPieces_cases :
    (s.targetPieces.1 = 1 ∨ s.targetPieces.1 = 2) ∧ (s.targetPieces.2 = 1 ∨ s.targetPieces.2 = 2) := by
  unfold targetPieces
  split
  · exact pieces_cases.symm
  · exact pieces_cases

theorem task_dstWidth (b b' : Buffer) : (s.task b b').mDstWidth = s.target.width / s.targetPieces.1 := by
  cases hr : rotates s.transform <;> simp [task, Task.new, targetPieces, pieces, turnedSize, hr]

theorem task_dstHeight (b b' : Buffer) :
    (s.task b b').mDstHeight = s.target.height / s.targetPieces.2 := by
  cases hr : rotates s.transform <;> simp [task, Task.new, targetPieces, pieces, turnedSize, hr]

theorem splitsEvenly (hsrc : s.source.Accepted) (hdst : s.target.Accepted) (h : s.Halvable) :
    s.SplitsEvenly := by
  have hsw := piece_even pieces_cases.1 hsrc.width_even h.srcWidth
  have hsh := piece_rows pieces_cases.2 _ hsrc.height_even h.srcHeight
  have hdw := piece_even targetPieces_cases.1 hdst.width_even h.dstWidth
  have hdh := piece_rows targetPieces_cases.2 _ hdst.height_even h.dstHeight
  constructor <;> intro b b'
  · exact hsw.1
  · exact hsh.1
  · rw [task_dstWidth]
    exact hdw.1
  · rw [task_dstHeight]
    exact hdh.1
  · exact ⟨hsw.2, hsh.2⟩
  · rw [task_dstWidth, task_dstHeight]
    exact ⟨hdw.2, hdh.2⟩

end Stage

/-! ### The chain -/

/-- The stages from an image on.  The transform is done with the first one. -/
inductive Chain (dst : Image) : BitVec 32 → Image → List Stage → Prop where
  | last {transform : BitVec 32} {source : Image} (h : nextTarget transform source dst = dst) :
      Chain dst transform source [nextStage transform source dst]
  | more {transform : BitVec 32} {source : Image} {rest : List Stage}
      (h : nextTarget transform source dst ≠ dst)
      (tail : Chain dst 0 (nextTarget transform source dst) rest) :
      Chain dst transform source (nextStage transform source dst :: rest)

/-- How far an image is from the size of the destination. -/
def remaining (dst : Image) (transform : BitVec 32) (source : Image) : Nat :=
  Nat.dist (turnedSize transform source).1 dst.width +
    Nat.dist (turnedSize transform source).2 dst.height

section Chains

variable {dst : Image} {transform : BitVec 32} {source : Image}

theorem NextSize.dist_lt {src d align factor n : Nat} (h : NextSize src d align factor n) :
    n = d ∨ Nat.dist n d < Nat.dist src d := by
  unfold Nat.dist
  rcases h.closer with heq | ⟨hsrc, hdst⟩ | ⟨hdst, hsrc⟩
  · exact .inl heq
  · right
    omega
  · right
    omega

theorem remaining_lt (hs : source.Accepted) (hd : dst.Accepted)
    (hne : nextTarget transform source dst ≠ dst) :
    remaining dst 0 (nextTarget transform source dst) < remaining dst transform source := by
  have hw := (width_next transform hs hd).dist_lt
  have hh := (height_next transform hs hd).dist_lt
  have hsize : turnedSize 0 (nextTarget transform source dst) =
    ((nextTarget transform source dst).width, (nextTarget transform source dst).height) := rfl
  unfold remaining
  rw [hsize]
  dsimp only
  rcases hw with hw | hw
  · rcases hh with hh | hh
    · refine absurd ?_ hne
      calc nextTarget transform source dst
          = ⟨(nextTarget transform source dst).width, (nextTarget transform source dst).height,
              dst.format⟩ := rfl
        _ = dst := by rw [hw, hh]
    · rw [hw, Nat.dist_self]
      omega
  · rcases hh with hh | hh
    · rw [hh, Nat.dist_self]
      omega
    · omega

/-- **Every job has a chain.** -/
theorem exists_chain (hd : dst.Accepted) (hs : source.Accepted) :
    ∃ stages, Chain dst transform source stages := by
  induction hn : remaining dst transform source using Nat.strong_induction_on
    generalizing transform source with
  | _ n ih =>
    by_cases hlast : nextTarget transform source dst = dst
    · exact ⟨_, .last hlast⟩
    · have hlt := remaining_lt hs hd hlast
      rw [hn] at hlt
      obtain ⟨rest, htail⟩ := ih _ hlt (nextTarget_accepted transform hs hd) rfl
      exact ⟨_, .more hlast htail⟩

theorem nextStage_splitsEvenly (hd : dst.Accepted) (hs : source.Accepted) :
    (nextStage transform source dst).SplitsEvenly := by
  apply Stage.splitsEvenly hs
  · exact nextTarget_accepted transform hs hd
  · exact nextStage_halvable transform hs hd

/-- Every stage starts from an image that would be accepted, with a transform that is. -/
theorem Chain.mem {stages : List Stage} (h : Chain dst transform source stages) (hd : dst.Accepted)
    (hs : source.Accepted) (ht : transform &&& ~~~HAL_TRANSFORM_ROT_270 = 0) :
    ∀ s ∈ stages, s.source.Accepted ∧ s.transform &&& ~~~HAL_TRANSFORM_ROT_270 = 0 ∧
      s = nextStage s.transform s.source dst := by
  induction h with
  | last hlast =>
    intro s hmem
    rw [List.mem_singleton.mp hmem]
    exact ⟨hs, ht, rfl⟩
  | more hne tail ih =>
    intro s hmem
    rcases List.mem_cons.mp hmem with rfl | hrest
    · exact ⟨hs, ht, rfl⟩
    · exact ih (nextTarget_accepted _ hs hd) (by decide) s hrest

end Chains

/-! ### The job of a chain -/

namespace Stage

/-- The number of tiles. -/
def tiles (s : Stage) : Nat := s.pieces.1 * s.pieces.2

/-- The tasks of a stage from one buffer to another. -/
def tasks (s : Stage) (srcbuf dstbuf : Buffer) : List mscl_task :=
  let task := s.task srcbuf dstbuf
  (task.mSrcPlaneCoord.zip task.mDstPlaneCoord).map task.fill

theorem tasks_length (s : Stage) (srcbuf dstbuf : Buffer) : (s.tasks srcbuf dstbuf).length = s.tiles := by
  have hplanes : ∀ h v, (planes s.transform h v).1.length = (if h then 2 else 1) * (if v then 2 else 1) := by
    intro h v
    cases h <;> cases v <;> rfl
  simp only [tasks, task, Task.new, List.length_map, List.length_zip, min_self, hplanes]
  rfl

end Stage

theorem Task.tasks_eq (t : Task) (l : List (TransformCoord × TransformCoord)) (count : Nat) :
    t.tasks l count = if l.length ≤ count then some (l.map t.fill) else none := by
  induction l generalizing count with
  | nil => rfl
  | cons coord rest ih =>
    cases count with
    | zero => rfl
    | succ count =>
      rw [Task.tasks, ih]
      by_cases hroom : rest.length ≤ count
      · rw [if_pos hroom, if_pos (by simpa using hroom)]
        rfl
      · rw [if_neg hroom, if_neg (by simpa using hroom)]
        rfl

/-- The tiles of all stages. -/
def chainTiles (stages : List Stage) : Nat := (stages.map Stage.tiles).sum

/-- The tasks of a chain, each stage from one buffer to the next. -/
def chainTasks : List Stage → List Buffer → List mscl_task
  | s :: rest, b :: b' :: buffers => s.tasks b b' ++ chainTasks rest (b' :: buffers)
  | _, _ => []

/-- The buffers that the stages write, the last of them the destination. -/
def chainBuffers (alloc : Nat → Int) (last : Buffer) : Nat → List Stage → List Buffer
  | _, [] => []
  | _, [_] => [last]
  | idx, s :: rest => .bounce (alloc (idx + 1)) s.target :: chainBuffers alloc last (idx + 1) rest

section Jobs

variable {g : GiantMsclImpl} {alloc : Nat → Int} {count : Nat} {s : Progress}

/-- The stage that the loop makes next. -/
def Progress.stage (g : GiantMsclImpl) (s : Progress) : Stage :=
  nextStage s.mTransform s.target g.mDstImage

/-- The buffers are those of the stages so far, `b` the one that was written last. -/
structure Progress.At (s : Progress) (pre : List Buffer) (b last : Buffer) : Prop where
  store : s.mBufferStore = pre ++ [b, last]
  idx : s.srcBufferIdx = pre.length

def Progress.advance (g : GiantMsclImpl) (s : Progress) (store : List Buffer) (b b' : Buffer) : Progress where
  target := (s.stage g).target
  mTransform := 0
  mBufferStore := store
  srcBufferIdx := s.srcBufferIdx + 1
  tasks := s.tasks ++ (s.stage g).tasks b b'

theorem generateTask_eq (g : GiantMsclImpl) (store : List Buffer) (i j : Nat) {b b' : Buffer}
    (hb : store.getD i {} = b) (hb' : store.getD j {} = b') :
    generateTask count { s with mBufferStore := store } s.target
        (nextTarget s.mTransform s.target g.mDstImage) i j =
      if (s.stage g).tiles ≤ count - s.tasks.length then (none, s.advance g store b b')
      else (some 0, { s with mBufferStore := store }) := by
  have htask : (s.stage g).task b b' =
    Task.new s.target (nextTarget s.mTransform s.target g.mDstImage) b b' s.mTransform := rfl
  have hlen := (s.stage g).tasks_length b b'
  rw [Stage.tasks, List.length_map, htask] at hlen
  unfold generateTask
  dsimp only
  rw [hb, hb', Task.tasks_eq]
  by_cases hroom : (s.stage g).tiles ≤ count - s.tasks.length
  · rw [if_pos hroom, if_pos (hlen.trans_le hroom)]
    rfl
  · rw [if_neg hroom, if_neg (hlen ▸ hroom)]

theorem Buffer.bounce_get (fd : Int) (img : Image) : (Buffer.bounce fd img).get 0 < 0 ↔ fd < 0 := by
  unfold Buffer.bounce
  by_cases hfd : fd ≥ 0
  · rw [if_pos hfd]
    unfold Buffer.init
    split <;> exact Iff.rfl
  · rw [if_neg hfd]
    constructor
    · intro _
      omega
    · intro _
      decide

variable {pre : List Buffer} {b last : Buffer}

theorem generateStep_last (hat : s.At pre b last)
    (hlast : nextTarget s.mTransform s.target g.mDstImage = g.mDstImage) :
    generateStep g alloc count s =
      if (s.stage g).tiles ≤ count - s.tasks.length then (none, s.advance g s.mBufferStore b last)
      else (some 0, s) := by
  unfold generateStep
  dsimp only
  rw [if_neg (not_not_intro hlast)]
  apply generateTask_eq g s.mBufferStore
  · rw [hat.store, hat.idx]
    simp
  · rw [hat.store]
    simp

theorem insert_after (pre : List Buffer) (b b' last : Buffer) :
    (pre ++ [b, last]).insertIdx (pre.length + 1) b' = pre ++ [b, b', last] := by
  induction pre with
  | nil => rfl
  | cons c pre ih =>
    rw [List.cons_append, List.length_cons, List.insertIdx_succ_cons, ih]
    rfl

theorem generateStep_more (hat : s.At pre b last) (halloc : 0 ≤ alloc (pre.length + 1))
    (hmore : nextTarget s.mTransform s.target g.mDstImage ≠ g.mDstImage) :
    let b' := Buffer.bounce (alloc (pre.length + 1)) (s.stage g).target
    let store := pre ++ [b, b', last]
    generateStep g alloc count s =
      if (s.stage g).tiles ≤ count - s.tasks.length then (none, s.advance g store b b')
      else (some 0, { s with mBufferStore := store }) := by
  intro b' store
  have hget : ¬(Buffer.bounce (alloc (s.srcBufferIdx + 1))
      (nextTarget s.mTransform s.target g.mDstImage)).get 0 < 0 := by
    rw [Buffer.bounce_get, hat.idx]
    omega
  have hinsert : s.mBufferStore.insertIdx (s.srcBufferIdx + 1)
      (Buffer.bounce (alloc (s.srcBufferIdx + 1)) (nextTarget s.mTransform s.target g.mDstImage)) =
        store := by
    rw [hat.store, hat.idx]
    exact insert_after pre b b' last
  unfold generateStep
  dsimp only
  rw [if_pos hmore, hinsert, if_neg hget]
  apply generateTask_eq g store
  · rw [hat.idx]
    simp [store]
  · rw [hat.idx]
    simp [store, b']

theorem generateTask_none {s' : Progress} {source target : Image} {i j : Nat}
    (h : generateTask count s source target i j = (none, s')) :
    s'.target = target ∧ s'.mTransform = 0 := by
  unfold generateTask at h
  dsimp only at h
  split at h
  · cases h
  · cases h
    exact ⟨rfl, rfl⟩

theorem generateStep_none {s' : Progress} (h : generateStep g alloc count s = (none, s')) :
    s'.target = nextTarget s.mTransform s.target g.mDstImage ∧ s'.mTransform = 0 := by
  unfold generateStep at h
  dsimp only at h
  split at h
  · split at h
    · cases h
    · exact generateTask_none h
  · exact generateTask_none h

theorem generateLoop_return {s' : Progress} {ret : Int} (fuel : Nat)
    (h : generateStep g alloc count s = (some ret, s')) :
    generateLoop g alloc count (fuel + 1) s = some (ret, s') := by
  rw [generateLoop, h]

theorem generateLoop_end {s' : Progress} (fuel : Nat) (h : generateStep g alloc count s = (none, s'))
    (hdst : s'.target = g.mDstImage) :
    generateLoop g alloc count (fuel + 1) s = some ((s'.tasks.length : Int), s') := by
  rw [generateLoop, h]
  exact if_neg (not_not_intro hdst)

theorem generateLoop_again {s' : Progress} (fuel : Nat) (h : generateStep g alloc count s = (none, s'))
    (hdst : s'.target ≠ g.mDstImage) :
    generateLoop g alloc count (fuel + 1) s = generateLoop g alloc count fuel s' := by
  rw [generateLoop, h]
  exact if_pos hdst

/-- As many rounds as there are stages are enough, whatever the allocator answers. -/
theorem generateLoop_isSome {stages : List Stage} {transform : BitVec 32} {source : Image}
    (h : Chain g.mDstImage transform source stages) (htransform : s.mTransform = transform)
    (htarget : s.target = source) {fuel : Nat} (hfuel : stages.length ≤ fuel) :
    (generateLoop g alloc count fuel s).isSome := by
  induction h generalizing s fuel with
  | last hlast =>
    cases fuel with
    | zero => contradiction
    | succ fuel =>
      rcases hstep : generateStep g alloc count s with ⟨_ | ret, s'⟩
      · have hdst := (generateStep_none hstep).1
        rw [htransform, htarget, hlast] at hdst
        rw [generateLoop_end fuel hstep hdst]
        rfl
      · rw [generateLoop_return fuel hstep]
        rfl
  | more hne tail ih =>
    cases fuel with
    | zero => contradiction
    | succ fuel =>
      rcases hstep : generateStep g alloc count s with ⟨_ | ret, s'⟩
      · obtain ⟨hdst, hzero⟩ := generateStep_none hstep
        rw [htransform, htarget] at hdst
        rw [generateLoop_again fuel hstep (hdst ▸ hne)]
        exact ih hzero hdst (Nat.le_of_succ_le_succ hfuel)
      · rw [generateLoop_return fuel hstep]
        rfl

/-- **What `generate` returns**: the tasks of the chain, when there is room for all of them. -/
theorem generateLoop_of_chain {stages : List Stage} {transform : BitVec 32} {source : Image}
    (h : Chain g.mDstImage transform source stages) (htransform : s.mTransform = transform)
    (htarget : s.target = source) (hat : s.At pre b last) (halloc : ∀ n, 0 ≤ alloc n)
    (hcount : s.tasks.length ≤ count) {fuel : Nat} (hfuel : stages.length ≤ fuel) :
    ∃ s', generateLoop g alloc count fuel s =
        some (if s.tasks.length + chainTiles stages ≤ count then
          ((s.tasks.length + chainTiles stages : Nat) : Int) else 0, s') ∧
      (s.tasks.length + chainTiles stages ≤ count →
        s'.tasks = s.tasks ++ chainTasks stages (b :: chainBuffers alloc last pre.length stages)) := by
  induction h generalizing s pre b fuel with
  | @last transform source hlast =>
    subst htransform htarget
    have htiles : chainTiles [nextStage s.mTransform s.target g.mDstImage] = (s.stage g).tiles :=
      Nat.add_zero _
    cases fuel with
    | zero => contradiction
    | succ fuel =>
      have hstep : generateStep g alloc count s = _ := generateStep_last hat hlast
      rw [htiles]
      by_cases hroom : (s.stage g).tiles ≤ count - s.tasks.length
      · rw [if_pos hroom] at hstep
        rw [generateLoop_end fuel hstep hlast, if_pos (by omega)]
        refine ⟨_, congrArg some (Prod.ext ?_ rfl), fun _ => ?_⟩
        · simp only [Progress.advance, List.length_append, Stage.tasks_length]
        · simp only [Progress.advance, chainTasks, chainBuffers, List.append_nil]
          rfl
      · rw [if_neg hroom] at hstep
        rw [generateLoop_return fuel hstep, if_neg (by omega)]
        exact ⟨s, rfl, fun hfit => absurd hfit (by omega)⟩
  | @more transform source rest hne tail ih =>
    subst htransform htarget
    have htiles : chainTiles (nextStage s.mTransform s.target g.mDstImage :: rest) =
      (s.stage g).tiles + chainTiles rest := List.sum_cons
    cases fuel with
    | zero => contradiction
    | succ fuel =>
      have hstep : generateStep g alloc count s = _ := generateStep_more hat (halloc _) hne
      rw [htiles]
      by_cases hroom : (s.stage g).tiles ≤ count - s.tasks.length
      · rw [if_pos hroom] at hstep
        rw [generateLoop_again fuel hstep hne]
        let b' := Buffer.bounce (alloc (pre.length + 1)) (s.stage g).target
        have hat' : (s.advance g (pre ++ [b, b', last]) b b').At (pre ++ [b]) b' last := by
          constructor
          · simp [Progress.advance]
          · simp [Progress.advance, hat.idx]
        have hlen : (s.advance g (pre ++ [b, b', last]) b b').tasks.length =
            s.tasks.length + (s.stage g).tiles := by
          simp only [Progress.advance, List.length_append, Stage.tasks_length]
        obtain ⟨s', hloop, htasks⟩ := ih rfl rfl hat' (by omega) (Nat.le_of_succ_le_succ hfuel)
        rw [hlen, Nat.add_assoc] at hloop htasks
        refine ⟨s', hloop, fun hfit => ?_⟩
        have hbuffers : chainBuffers alloc last pre.length
            (nextStage s.mTransform s.target g.mDstImage :: rest) =
              b' :: chainBuffers alloc last (pre ++ [b]).length rest := by
          rw [List.length_append]
          cases tail with
          | last => rfl
          | more => rfl
        rw [htasks hfit, hbuffers, chainTasks]
        exact List.append_assoc ..
      · rw [if_neg hroom] at hstep
        rw [generateLoop_return fuel hstep, if_neg (by omega)]
        exact ⟨_, rfl, fun hfit => absurd hfit (by omega)⟩

end Jobs

section Results

variable (g : GiantMsclImpl) (alloc : Nat → Int) (src_buffer dst_buffer : Int × Int)

/-- The buffers of a chain, those of the caller at its ends. -/
def jobBuffers (stages : List Stage) : List Buffer :=
  .given src_buffer g.mSrcImage :: chainBuffers alloc (.given dst_buffer g.mDstImage) 0 stages

variable {g alloc} {stages : List Stage}

theorem Chain.tiles_pos {dst : Image} {transform : BitVec 32} {source : Image}
    (h : Chain dst transform source stages) : 0 < chainTiles stages := by
  have htiles : ∀ s : Stage, 0 < s.tiles := by
    intro s
    have hcases := s.pieces_cases
    exact Nat.mul_pos (by omega) (by omega)
  cases h with
  | last => exact Nat.add_pos_left (htiles _) _
  | more => exact Nat.add_pos_left (htiles _) _

theorem job_of_chain (h : Chain g.mDstImage g.mTransform g.mSrcImage stages)
    (halloc : ∀ n, 0 ≤ alloc n) {fuel : Nat} (hfuel : stages.length ≤ fuel) :
    job g alloc fuel src_buffer dst_buffer =
      some (if chainTiles stages ≤ 6 then
        some (chainTasks stages (jobBuffers g alloc src_buffer dst_buffer stages)) else none) := by
  have hat : (Progress.start g src_buffer dst_buffer).At [] (.given src_buffer g.mSrcImage)
    (.given dst_buffer g.mDstImage) := ⟨rfl, rfl⟩
  obtain ⟨p, hloop, htasks⟩ := generateLoop_of_chain h rfl rfl hat halloc (Nat.zero_le 6) hfuel
  have hzero : (Progress.start g src_buffer dst_buffer).tasks.length = 0 := rfl
  rw [hzero, Nat.zero_add] at hloop htasks
  rw [job, generate, hloop, Option.map_some]
  dsimp only
  have hpos := h.tiles_pos
  by_cases hroom : chainTiles stages ≤ 6
  · rw [if_pos hroom, if_neg (by omega), htasks hroom, if_pos hroom]
    rfl
  · rw [if_neg hroom, if_pos (by decide), if_neg hroom]

end Results

end ExynosHal.GiantMscl
