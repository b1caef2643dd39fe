/-
  ExynosHal/Virtual8K.lean
  ========================
  **A window in two halves.**

  `ExynosDisplayDrmInterface::getVirtual8KOtfInfo` of
  `libhwc2.1/display/ExynosDisplayDrmInterface.cpp`.  A window of a virtual 8K MPP is shown
  by two planes: the destination is cut by a vertical line, and each plane reads the side of
  the source that the transform sends to its half, with a few pixels of the other side when
  the window is scaled.
-/
import ExynosHal.HalTransform
import ExynosHal.WindowConfig
import Mathlib.Tactic.Ring

namespace ExynosHal.Virtual8K

open WindowConfig (WinConfig WinState DeconFrame)

/-! ### `enum drm_virtual8k_split` -/

def EXYNOS_SPLIT_LEFT : Nat := 1
def EXYNOS_SPLIT_RIGHT : Nat := 2
def EXYNOS_SPLIT_TOP : Nat := 3
def EXYNOS_SPLIT_BOTTOM : Nat := 4

def HAL_TRANSFORM_FLIP_H : Nat := 1
def HAL_TRANSFORM_ROT_180 : Nat := 3
def HAL_TRANSFORM_ROT_90 : Nat := 4
def HAL_TRANSFORM_ROT_270 : Nat := 7

/-! ### The halves -/

/-- What the function asks of the MPP of a window. -/
structure ExynosMPP where
  mChId : Int
  isVirtual8KOtf : Bool
  /-- `mChId` of the two MPPs of `getSubMPPs`. -/
  getSubMPPs : Option (Int × Int)
deriving DecidableEq, Repr

structure HalfInfo where
  channelId : Int
  config : WinConfig
deriving DecidableEq, Repr

/-- A value of an `int32_t`. -/
def int32 (z : Int) : Int := (z + 2 ^ 31) % 2 ^ 32 - 2 ^ 31

def padding (config : WinConfig) : Nat :=
  if config.transform = HAL_TRANSFORM_ROT_90 ∨ config.transform = HAL_TRANSFORM_ROT_270 then
    if config.src.h ≠ config.dst.w ∨ config.src.w ≠ config.dst.h then 4 else 0
  else if config.src.w ≠ config.dst.w ∨ config.src.h ≠ config.dst.h then 4 else 0

section Sides

variable (padding : Nat) (frame : DeconFrame)

def srcLeft : DeconFrame := { frame with w := (frame.w / 2 + padding) % 2 ^ 32 }

def srcRight : DeconFrame :=
  { frame with
    x := int32 (frame.x + (frame.w / 2 : Nat) - padding)
    w := (frame.w / 2 + padding) % 2 ^ 32 }

def srcTop : DeconFrame := { frame with h := (frame.h / 2 + padding) % 2 ^ 32 }

def srcBottom : DeconFrame :=
  { frame with
    y := int32 (frame.y + (frame.h / 2 : Nat) - padding)
    h := (frame.h / 2 + padding) % 2 ^ 32 }

def dstLeft : DeconFrame := { frame with w := frame.w / 2 }

def dstRight : DeconFrame :=
  { frame with x := int32 (frame.x + (frame.w / 2 : Nat)), w := frame.w / 2 }

end Sides

def firstHalf (config : WinConfig) : WinConfig :=
  let p := padding config
  if config.transform = HAL_TRANSFORM_ROT_90 then
    { config with
      src := srcBottom p config.src, dst := dstLeft config.dst, split := EXYNOS_SPLIT_BOTTOM }
  else if config.transform = HAL_TRANSFORM_ROT_180 then
    { config with
      src := srcRight p config.src, dst := dstLeft config.dst, split := EXYNOS_SPLIT_RIGHT }
  else if config.transform = HAL_TRANSFORM_ROT_270 then
    { config with
      src := srcTop p config.src, dst := dstLeft config.dst, split := EXYNOS_SPLIT_TOP }
  else if config.transform = HAL_TRANSFORM_FLIP_H then
    { config with
      src := srcLeft p config.src, dst := dstRight config.dst, split := EXYNOS_SPLIT_LEFT }
  else
    { config with
      src := srcLeft p config.src, dst := dstLeft config.dst, split := EXYNOS_SPLIT_LEFT }

def lastHalf (config : WinConfig) : WinConfig :=
  let p := padding config
  -- acq_fence is used by only firstHalf
  let config := { config with acq_fence := -1 }
  if config.transform = HAL_TRANSFORM_ROT_90 then
    { config with
      src := srcTop p config.src, dst := dstRight config.dst, split := EXYNOS_SPLIT_TOP }
  else if config.transform = HAL_TRANSFORM_ROT_180 then
    { config with
      src := srcLeft p config.src, dst := dstRight config.dst, split := EXYNOS_SPLIT_LEFT }
  else if config.transform = HAL_TRANSFORM_ROT_270 then
    { config with
      src := srcBottom p config.src, dst := dstRight config.dst, split := EXYNOS_SPLIT_BOTTOM }
  else if config.transform = HAL_TRANSFORM_FLIP_H then
    { config with
      src := srcRight p config.src, dst := dstLeft config.dst, split := EXYNOS_SPLIT_RIGHT }
  else
    { config with
      src := srcRight p config.src, dst := dstRight config.dst, split := EXYNOS_SPLIT_RIGHT }

/-- The two halves, or `none` where the function returns false. -/
def getVirtual8KOtfInfo (assignedMPP : ExynosMPP) (config : WinConfig) : Option (HalfInfo × HalfInfo) :=
  if !assignedMPP.isVirtual8KOtf ∨ config.state ≠ .buffer ∧ config.state ≠ .color then none
  else
    match assignedMPP.getSubMPPs with
    | none => none
    | some (subMPP0, subMPP1) =>
        if subMPP0 < 0 ∨ subMPP1 < 0 then none
        else some (⟨subMPP0, firstHalf config⟩, ⟨subMPP1, lastHalf config⟩)

/-! ### Rectangles -/

/-- `a` is the left part of `r` and `b` the right one. -/
structure Beside (r a b : DeconFrame) : Prop where
  left : a.x = r.x
  right : b.x = r.x + a.w
  width : a.w + b.w = r.w
  top : a.y = r.y ∧ b.y = r.y
  height : a.h = r.h ∧ b.h = r.h

/-- `a` is the upper part of `r` and `b` the lower one. -/
structure Above (r a b : DeconFrame) : Prop where
  top : a.y = r.y
  bottom : b.y = r.y + a.h
  height : a.h + b.h = r.h
  left : a.x = r.x ∧ b.x = r.x
  width : a.w = r.w ∧ b.w = r.w

structure Inside (a r : DeconFrame) : Prop where
  left : r.x ≤ a.x
  right : a.x + a.w ≤ r.x + r.w
  top : r.y ≤ a.y
  bottom : a.y + a.h ≤ r.y + r.h

def Partition (r a b : DeconFrame) : Prop :=
  Beside r a b ∨ Beside r b a ∨ Above r a b ∨ Above r b a

/-- The two frames are the sides of `r` that their tags name. -/
def Sides (r : DeconFrame) (splitA splitB : Nat) (a b : DeconFrame) : Prop :=
  splitA = EXYNOS_SPLIT_LEFT ∧ splitB = EXYNOS_SPLIT_RIGHT ∧ Beside r a b ∨
  splitA = EXYNOS_SPLIT_RIGHT ∧ splitB = EXYNOS_SPLIT_LEFT ∧ Beside r b a ∨
  splitA = EXYNOS_SPLIT_TOP ∧ splitB = EXYNOS_SPLIT_BOTTOM ∧ Above r a b ∨
  splitA = EXYNOS_SPLIT_BOTTOM ∧ splitB = EXYNOS_SPLIT_TOP ∧ Above r b a

/-- A half's source without the pixels of the other side. -/
def core (padding : Nat) (half : WinConfig) : DeconFrame :=
  let f := half.src
  if half.split = EXYNOS_SPLIT_LEFT then { f with w := f.w - padding }
  else if half.split = EXYNOS_SPLIT_RIGHT then { f with x := f.x + padding, w := f.w - padding }
  else if half.split = EXYNOS_SPLIT_TOP then { f with h := f.h - padding }
  else { f with y := f.y + padding, h := f.h - padding }

/-- The corner of a frame, on the far side of each axis that is marked. -/
def corner (f : DeconFrame) (right bottom : Bool) : Int × Int :=
  (if right then f.x + f.w else f.x, if bottom then f.y + f.h else f.y)

/-- Twice the way from the centre of a frame. -/
def fromCentre (f : DeconFrame) (q : Int × Int) : Int × Int :=
  (2 * (q.1 - f.x) - f.w, 2 * (q.2 - f.y) - f.h)

/-- The transform and the scale of a window send a point of its source to a point of its
    destination. -/
def Sends (config : WinConfig) (s d : Int × Int) : Prop :=
  let t := BitVec.ofNat 32 config.transform
  let moved := HalTransform.act t (fromCentre config.src s)
  let shown := fromCentre config.dst d
  let w : Int := if rotates t then config.src.h else config.src.w
  let h : Int := if rotates t then config.src.w else config.src.h
  shown.1 * w = moved.1 * config.dst.w ∧ shown.2 * h = moved.2 * config.dst.h

/-- Two opposite corners of a part of the source go to those of a part of the destination. -/
def IsImage (config : WinConfig) (a d : DeconFrame) : Prop :=
  ∃ i j : Bool, Sends config (corner a i j) (corner d false false) ∧
    Sends config (corner a (!i) (!j)) (corner d true true)

/-! ### A sound split -/

structure IsSound (config first last : WinConfig) : Prop where
  dst : Partition config.dst first.dst last.dst
  inside : Inside first.src config.src ∧ Inside last.src config.src
  sides : Sides config.src first.split last.split (core (padding config) first)
    (core (padding config) last)
  image : IsImage config (core (padding config) first) first.dst ∧
    IsImage config (core (padding config) last) last.dst
  fence : first.acq_fence = config.acq_fence ∧ last.acq_fence = -1

/-- A frame as the compositor hands it out: its edges are coordinates. -/
structure HasEdges (f : DeconFrame) : Prop where
  x : -2 ^ 31 ≤ f.x
  y : -2 ^ 31 ≤ f.y
  right : f.x + f.w < 2 ^ 31
  bottom : f.y + f.h < 2 ^ 31

/-- One of the eight transforms, and a destination with pixels. -/
structure Placed (config : WinConfig) : Prop where
  transform : config.transform < 8
  src : HasEdges config.src
  dst : HasEdges config.dst
  width : 0 < config.dst.w
  height : 0 < config.dst.h

/-- The size of the source along the axis that the function cuts. -/
def cutSize (config : WinConfig) : Nat :=
  if config.transform = HAL_TRANSFORM_ROT_90 ∨ config.transform = HAL_TRANSFORM_ROT_270 then
    config.src.h
  else config.src.w

/-- No flip with a quarter turn, even sizes, and room for the padding on both sides. -/
structure Regular (config : WinConfig) : Prop where
  transform : config.transform ≠ 5 ∧ config.transform ≠ 6
  dst : config.dst.w % 2 = 0
  src : cutSize config % 2 = 0
  room : 2 * padding config ≤ cutSize config

/-! ### Frames as numbers -/

section Halves

variable (f : DeconFrame)

def leftOf : DeconFrame := { f with w := f.w / 2 }
def rightOf : DeconFrame := { f with x := f.x + (f.w / 2 : Nat), w := f.w / 2 }
def topOf : DeconFrame := { f with h := f.h / 2 }
def bottomOf : DeconFrame := { f with y := f.y + (f.h / 2 : Nat), h := f.h / 2 }

end Halves

theorem int32_of_range {z : Int} (h : -2 ^ 31 ≤ z) (h' : z < 2 ^ 31) : int32 z = z := by
  unfold int32
  omega

section Pieces

variable {p : Nat} {f : DeconFrame}

theorem srcLeft_w (h : HasEdges f) (hp : p ≤ 4) : (srcLeft p f).w = f.w / 2 + p := by
  have := h.x
  have := h.right
  unfold srcLeft
  dsimp only
  omega

theorem srcRight_w (h : HasEdges f) (hp : p ≤ 4) : (srcRight p f).w = f.w / 2 + p := by
  have := h.x
  have := h.right
  unfold srcRight
  dsimp only
  omega

theorem srcTop_h (h : HasEdges f) (hp : p ≤ 4) : (srcTop p f).h = f.h / 2 + p := by
  have := h.y
  have := h.bottom
  unfold srcTop
  dsimp only
  omega

theorem srcBottom_h (h : HasEdges f) (hp : p ≤ 4) : (srcBottom p f).h = f.h / 2 + p := by
  have := h.y
  have := h.bottom
  unfold srcBottom
  dsimp only
  omega

theorem dstRight_x (h : HasEdges f) : (dstRight f).x = f.x + (f.w / 2 : Nat) := by
  have := h.x
  have := h.right
  exact int32_of_range (by omega) (by omega)

theorem srcRight_x (h : HasEdges f) (hp : p ≤ f.w / 2) :
    (srcRight p f).x = f.x + (f.w / 2 : Nat) - p := by
  have := h.x
  have := h.right
  exact int32_of_range (by omega) (by omega)

theorem srcBottom_y (h : HasEdges f) (hp : p ≤ f.h / 2) :
    (srcBottom p f).y = f.y + (f.h / 2 : Nat) - p := by
  have := h.y
  have := h.bottom
  exact int32_of_range (by omega) (by omega)

theorem padding_le (config : WinConfig) : padding config ≤ 4 := by
  unfold padding
  split <;> split <;> omega

end Pieces

/-! ### The destination -/

theorem dstLeft_eq (f : DeconFrame) : dstLeft f = leftOf f := rfl

theorem dstRight_eq {f : DeconFrame} (h : HasEdges f) : dstRight f = rightOf f := by
  have := dstRight_x h
  unfold dstRight rightOf
  simp only [dstRight] at this
  rw [this]

/-- The halves of an odd width leave a column over. -/
theorem even_of_partition {f a b : DeconFrame} (hpos : 0 < f.w) (ha : a.w = f.w / 2)
    (hb : b.w = f.w / 2) (h : Partition f a b) : f.w % 2 = 0 := by
  rcases h with h | h | h | h
  · have := h.width
    omega
  · have := h.width
    omega
  · have := h.width.1
    omega
  · have := h.width.2
    omega

/-! ### The source -/

section Cores

variable {p : Nat} {f : DeconFrame}

theorem core_left (h : HasEdges f) (hp : p ≤ 4) :
    ({ srcLeft p f with w := (srcLeft p f).w - p } : DeconFrame) = leftOf f := by
  rw [srcLeft_w h hp, Nat.add_sub_cancel]
  rfl

theorem core_right (h : HasEdges f) (hp : p ≤ 4) (hroom : p ≤ f.w / 2) :
    ({ srcRight p f with x := (srcRight p f).x + p, w := (srcRight p f).w - p } : DeconFrame) =
      rightOf f := by
  rw [srcRight_w h hp, srcRight_x h hroom, Nat.add_sub_cancel, Int.sub_add_cancel]
  rfl

theorem core_top (h : HasEdges f) (hp : p ≤ 4) :
    ({ srcTop p f with h := (srcTop p f).h - p } : DeconFrame) = topOf f := by
  rw [srcTop_h h hp, Nat.add_sub_cancel]
  rfl

theorem core_bottom (h : HasEdges f) (hp : p ≤ 4) (hroom : p ≤ f.h / 2) :
    ({ srcBottom p f with y := (srcBottom p f).y + p, h := (srcBottom p f).h - p } : DeconFrame) =
      bottomOf f := by
  rw [srcBottom_h h hp, srcBottom_y h hroom, Nat.add_sub_cancel, Int.sub_add_cancel]
  rfl

theorem inside_left (h : HasEdges f) (hp : p ≤ 4) (hroom : p ≤ f.w / 2) : Inside (srcLeft p f) f where
  left := Int.le_refl _
  right := by
    rw [srcLeft_w h hp]
    change f.x + _ ≤ _
    omega
  top := Int.le_refl _
  bottom := Int.le_refl _

theorem inside_right (h : HasEdges f) (hp : p ≤ 4) (hroom : p ≤ f.w / 2) :
    Inside (srcRight p f) f where
  left := by
    rw [srcRight_x h hroom]
    omega
  right := by
    rw [srcRight_w h hp, srcRight_x h hroom]
    omega
  top := Int.le_refl _
  bottom := Int.le_refl _

theorem inside_top (h : HasEdges f) (hp : p ≤ 4) (hroom : p ≤ f.h / 2) : Inside (srcTop p f) f where
  left := Int.le_refl _
  right := Int.le_refl _
  top := Int.le_refl _
  bottom := by
    rw [srcTop_h h hp]
    change f.y + _ ≤ _
    omega

theorem inside_bottom (h : HasEdges f) (hp : p ≤ 4) (hroom : p ≤ f.h / 2) :
    Inside (srcBottom p f) f where
  left := Int.le_refl _
  right := Int.le_refl _
  top := by
    rw [srcBottom_y h hroom]
    omega
  bottom := by
    rw [srcBottom_h h hp, srcBottom_y h hroom]
    omega

theorem beside_halves (heven : f.w % 2 = 0) :
    Beside f (leftOf f) (rightOf f) where
  left := rfl
  right := rfl
  width := by
    change f.w / 2 + f.w / 2 = f.w
    omega
  top := ⟨rfl, rfl⟩
  height := ⟨rfl, rfl⟩

theorem above_halves (heven : f.h % 2 = 0) :
    Above f (topOf f) (bottomOf f) where
  top := rfl
  bottom := rfl
  height := by
    change f.h / 2 + f.h / 2 = f.h
    omega
  left := ⟨rfl, rfl⟩
  width := ⟨rfl, rfl⟩

end Cores

/-! ### Where the transform sends the halves -/

theorem act_eq {t : Nat} (ht : t < 8) (x y : Int) :
    HalTransform.act (BitVec.ofNat 32 t) (x, y) =
      match t with
      | 0 => (x, y)
      | 1 => (-x, y)
      | 2 => (x, -y)
      | 3 => (-x, -y)
      | 4 => (-y, x)
      | 5 => (-y, -x)
      | 6 => (y, x)
      | _ => (y, -x) := by
  have hcases : t = 0 ∨ t = 1 ∨ t = 2 ∨ t = 3 ∨ t = 4 ∨ t = 5 ∨ t = 6 ∨ t = 7 := by omega
  rcases hcases with rfl | rfl | rfl | rfl | rfl | rfl | rfl | rfl <;>
    simp [HalTransform.act, HalTransform.flip, HalTransform.quarter, HalTransform.hFlip,
      HalTransform.vFlip, rotates, ExynosHal.HAL_TRANSFORM_FLIP_H, ExynosHal.HAL_TRANSFORM_FLIP_V,
      ExynosHal.HAL_TRANSFORM_ROT_90]

theorem rotates_eq {t : Nat} (ht : t < 8) : rotates (BitVec.ofNat 32 t) = decide (4 ≤ t) := by
  have hcases : t = 0 ∨ t = 1 ∨ t = 2 ∨ t = 3 ∨ t = 4 ∨ t = 5 ∨ t = 6 ∨ t = 7 := by omega
  rcases hcases with rfl | rfl | rfl | rfl | rfl | rfl | rfl | rfl <;> decide

section Corners

variable {f : DeconFrame} (r b : Bool)

theorem corner_leftOf (h : f.w % 2 = 0) :
    fromCentre f (corner (leftOf f) r b) = (if r then 0 else -(f.w : Int), if b then (f.h : Int) else -f.h) := by
  unfold fromCentre corner leftOf
  ext <;> dsimp only <;> split <;> omega

theorem corner_rightOf (h : f.w % 2 = 0) :
    fromCentre f (corner (rightOf f) r b) = (if r then (f.w : Int) else 0, if b then (f.h : Int) else -f.h) := by
  unfold fromCentre corner rightOf
  ext <;> dsimp only <;> split <;> omega

theorem corner_topOf (h : f.h % 2 = 0) :
    fromCentre f (corner (topOf f) r b) = (if r then (f.w : Int) else -f.w, if b then 0 else -(f.h : Int)) := by
  unfold fromCentre corner topOf
  ext <;> dsimp only <;> split <;> omega

theorem corner_bottomOf (h : f.h % 2 = 0) :
    fromCentre f (corner (bottomOf f) r b) = (if r then (f.w : Int) else -f.w, if b then (f.h : Int) else 0) := by
  unfold fromCentre corner bottomOf
  ext <;> dsimp only <;> split <;> omega

end Corners

section Images

variable {c : WinConfig}

/-- Without a flip of the columns, left goes to left and right to right. -/
theorem image_upright (ht : c.transform = 0 ∨ c.transform = 2) (hn : c.src.w % 2 = 0)
    (hd : c.dst.w % 2 = 0) :
    IsImage c (leftOf c.src) (leftOf c.dst) ∧ IsImage c (rightOf c.src) (rightOf c.dst) := by
  rcases ht with ht | ht
  · refine ⟨⟨false, false, ?_, ?_⟩, ⟨false, false, ?_, ?_⟩⟩ <;>
      simp [Sends, ht, act_eq, rotates_eq, corner_leftOf, corner_rightOf, hn, hd, Int.mul_comm]
  · refine ⟨⟨false, true, ?_, ?_⟩, ⟨false, true, ?_, ?_⟩⟩ <;>
      simp [Sends, ht, act_eq, rotates_eq, corner_leftOf, corner_rightOf, hn, hd, Int.mul_comm]

/-- With such a flip they are exchanged. -/
theorem image_mirrored (ht : c.transform = 1 ∨ c.transform = 3) (hn : c.src.w % 2 = 0)
    (hd : c.dst.w % 2 = 0) :
    IsImage c (leftOf c.src) (rightOf c.dst) ∧ IsImage c (rightOf c.src) (leftOf c.dst) := by
  rcases ht with ht | ht
  · refine ⟨⟨true, false, ?_, ?_⟩, ⟨true, false, ?_, ?_⟩⟩ <;>
      simp [Sends, ht, act_eq, rotates_eq, corner_leftOf, corner_rightOf, hn, hd, Int.mul_comm]
  · refine ⟨⟨true, true, ?_, ?_⟩, ⟨true, true, ?_, ?_⟩⟩ <;>
      simp [Sends, ht, act_eq, rotates_eq, corner_leftOf, corner_rightOf, hn, hd, Int.mul_comm]

/-- A quarter turn takes the bottom to the left. -/
theorem image_turned (ht : c.transform = 4) (hn : c.src.h % 2 = 0) (hd : c.dst.w % 2 = 0) :
    IsImage c (bottomOf c.src) (leftOf c.dst) ∧ IsImage c (topOf c.src) (rightOf c.dst) := by
  refine ⟨⟨false, true, ?_, ?_⟩, ⟨false, true, ?_, ?_⟩⟩ <;>
    simp [Sends, ht, act_eq, rotates_eq, corner_leftOf, corner_rightOf, corner_topOf,
      corner_bottomOf, hn, hd, Int.mul_comm]

/-- Three quarters take the top to the left. -/
theorem image_turned_back (ht : c.transform = 7) (hn : c.src.h % 2 = 0) (hd : c.dst.w % 2 = 0) :
    IsImage c (topOf c.src) (leftOf c.dst) ∧ IsImage c (bottomOf c.src) (rightOf c.dst) := by
  refine ⟨⟨true, false, ?_, ?_⟩, ⟨true, false, ?_, ?_⟩⟩ <;>
    simp [Sends, ht, act_eq, rotates_eq, corner_leftOf, corner_rightOf, corner_topOf,
      corner_bottomOf, hn, hd, Int.mul_comm]

/-- With a flip and a quarter turn the left half of the source goes to the upper or to the
    lower half of the destination. -/
theorem not_image_left (ht : c.transform = 5 ∨ c.transform = 6) (hn : c.src.w % 2 = 0)
    (hd : c.dst.w % 2 = 0) (hw : 0 < c.src.w) (hh : 0 < c.dst.h) (d : DeconFrame)
    (hd' : d = leftOf c.dst) : ¬IsImage c (leftOf c.src) d := by
  subst hd'
  rintro ⟨i, j, ⟨-, hfirst⟩, ⟨-, hlast⟩⟩
  rcases ht with ht | ht <;> cases i <;>
    simp [ht, act_eq, rotates_eq, corner_leftOf, hn, hd] at hfirst hlast <;>
    omega

end Images

/-! ### The halves of each transform -/

section Transforms

variable {c : WinConfig}

/-- The two halves read and show the sides `a` and `a'` and `b` and `b'`. -/
structure Halves (c : WinConfig) (src src' dst dst' : DeconFrame) (split split' : Nat) : Prop where
  first : firstHalf c = { c with src := src, dst := dst, split := split }
  last : lastHalf c = { c with acq_fence := -1, src := src', dst := dst', split := split' }

theorem halves_upright (h4 : c.transform ≠ 4) (h3 : c.transform ≠ 3) (h7 : c.transform ≠ 7)
    (h1 : c.transform ≠ 1) :
    Halves c (srcLeft (padding c) c.src) (srcRight (padding c) c.src) (dstLeft c.dst) (dstRight c.dst)
      EXYNOS_SPLIT_LEFT EXYNOS_SPLIT_RIGHT := by
  constructor
  · simp [firstHalf, HAL_TRANSFORM_ROT_90, HAL_TRANSFORM_ROT_180, HAL_TRANSFORM_ROT_270,
      HAL_TRANSFORM_FLIP_H, h4, h3, h7, h1]
  · simp [lastHalf, HAL_TRANSFORM_ROT_90, HAL_TRANSFORM_ROT_180, HAL_TRANSFORM_ROT_270,
      HAL_TRANSFORM_FLIP_H, h4, h3, h7, h1]

theorem halves_flipH (h1 : c.transform = 1) :
    Halves c (srcLeft (padding c) c.src) (srcRight (padding c) c.src) (dstRight c.dst) (dstLeft c.dst)
      EXYNOS_SPLIT_LEFT EXYNOS_SPLIT_RIGHT := by
  constructor
  · simp [firstHalf, HAL_TRANSFORM_ROT_90, HAL_TRANSFORM_ROT_180, HAL_TRANSFORM_ROT_270,
      HAL_TRANSFORM_FLIP_H, h1]
  · simp [lastHalf, HAL_TRANSFORM_ROT_90, HAL_TRANSFORM_ROT_180, HAL_TRANSFORM_ROT_270,
      HAL_TRANSFORM_FLIP_H, h1]

theorem halves_rot180 (h3 : c.transform = 3) :
    Halves c (srcRight (padding c) c.src) (srcLeft (padding c) c.src) (dstLeft c.dst) (dstRight c.dst)
      EXYNOS_SPLIT_RIGHT EXYNOS_SPLIT_LEFT := by
  constructor
  · simp [firstHalf, HAL_TRANSFORM_ROT_90, HAL_TRANSFORM_ROT_180, h3]
  · simp [lastHalf, HAL_TRANSFORM_ROT_90, HAL_TRANSFORM_ROT_180, h3]

theorem halves_rot90 (h4 : c.transform = 4) :
    Halves c (srcBottom (padding c) c.src) (srcTop (padding c) c.src) (dstLeft c.dst) (dstRight c.dst)
      EXYNOS_SPLIT_BOTTOM EXYNOS_SPLIT_TOP := by
  constructor
  · simp [firstHalf, HAL_TRANSFORM_ROT_90, h4]
  · simp [lastHalf, HAL_TRANSFORM_ROT_90, h4]

theorem halves_rot270 (h7 : c.transform = 7) :
    Halves c (srcTop (padding c) c.src) (srcBottom (padding c) c.src) (dstLeft c.dst) (dstRight c.dst)
      EXYNOS_SPLIT_TOP EXYNOS_SPLIT_BOTTOM := by
  constructor
  · simp [firstHalf, HAL_TRANSFORM_ROT_90, HAL_TRANSFORM_ROT_180, HAL_TRANSFORM_ROT_270, h7]
  · simp [lastHalf, HAL_TRANSFORM_ROT_90, HAL_TRANSFORM_ROT_180, HAL_TRANSFORM_ROT_270, h7]

/-- What a sound split needs, side by side with the two halves. -/
theorem Halves.isSound {src src' dst dst' : DeconFrame} {split split' : Nat}
    (h : Halves c src src' dst dst' split split') {a a' : DeconFrame}
    (ha : core (padding c) { c with src := src, dst := dst, split := split } = a)
    (ha' : core (padding c)
      { c with acq_fence := -1, src := src', dst := dst', split := split' } = a')
    (hdst : Partition c.dst dst dst') (hsrc : Inside src c.src) (hsrc' : Inside src' c.src)
    (hsides : Sides c.src split split' a a') (himage : IsImage c a dst) (himage' : IsImage c a' dst') :
    IsSound c (firstHalf c) (lastHalf c) := by
  rw [h.first, h.last]
  refine ⟨hdst, ⟨hsrc, hsrc'⟩, ?_, ?_, ⟨rfl, rfl⟩⟩
  · rw [ha, ha']
    exact hsides
  · rw [ha, ha']
    exact ⟨himage, himage'⟩

/-- **A regular window is split soundly.** -/
theorem Regular.isSound (hp : Placed c) (h : Regular c) : IsSound c (firstHalf c) (lastHalf c) := by
  have hpad := padding_le c
  have hroom := h.room
  have heven := h.src
  have hbeside : Beside c.dst (dstLeft c.dst) (dstRight c.dst) := by
    rw [dstRight_eq hp.dst]
    exact beside_halves h.dst
  have hright := dstRight_eq hp.dst
  have hcases : c.transform = 0 ∨ c.transform = 2 ∨ c.transform = 1 ∨ c.transform = 3 ∨
      c.transform = 4 ∨ c.transform = 7 := by
    have := hp.transform
    have := h.transform
    omega
  by_cases hturn : c.transform = HAL_TRANSFORM_ROT_90 ∨ c.transform = HAL_TRANSFORM_ROT_270
  · rw [cutSize, if_pos hturn] at hroom heven
    have hhalf : padding c ≤ c.src.h / 2 := by omega
    rcases hturn with ht | ht
    · apply (halves_rot90 ht).isSound (core_bottom hp.src hpad hhalf) (core_top hp.src hpad)
        (.inl hbeside) (inside_bottom hp.src hpad hhalf) (inside_top hp.src hpad hhalf)
      · exact .inr (.inr (.inr ⟨rfl, rfl, above_halves heven⟩))
      · exact (image_turned ht heven h.dst).1
      · rw [hright]
        exact (image_turned ht heven h.dst).2
    · apply (halves_rot270 ht).isSound (core_top hp.src hpad) (core_bottom hp.src hpad hhalf)
        (.inl hbeside) (inside_top hp.src hpad hhalf) (inside_bottom hp.src hpad hhalf)
      · exact .inr (.inr (.inl ⟨rfl, rfl, above_halves heven⟩))
      · exact (image_turned_back ht heven h.dst).1
      · rw [hright]
        exact (image_turned_back ht heven h.dst).2
  · rw [cutSize, if_neg hturn] at hroom heven
    have hhalf : padding c ≤ c.src.w / 2 := by omega
    have hturn' : c.transform ≠ 4 ∧ c.transform ≠ 7 := not_or.mp hturn
    by_cases h1 : c.transform = 1
    · apply (halves_flipH h1).isSound (core_left hp.src hpad) (core_right hp.src hpad hhalf)
        (.inr (.inl hbeside)) (inside_left hp.src hpad hhalf) (inside_right hp.src hpad hhalf)
      · exact .inl ⟨rfl, rfl, beside_halves heven⟩
      · rw [hright]
        exact (image_mirrored (.inl h1) heven h.dst).1
      · exact (image_mirrored (.inl h1) heven h.dst).2
    · by_cases h3 : c.transform = 3
      · apply (halves_rot180 h3).isSound (core_right hp.src hpad hhalf) (core_left hp.src hpad)
          (.inl hbeside) (inside_right hp.src hpad hhalf) (inside_left hp.src hpad hhalf)
        · exact .inr (.inl ⟨rfl, rfl, beside_halves heven⟩)
        · exact (image_mirrored (.inr h3) heven h.dst).2
        · rw [hright]
          exact (image_mirrored (.inr h3) heven h.dst).1
      · have hup : c.transform = 0 ∨ c.transform = 2 := by omega
        apply (halves_upright hturn'.1 h3 hturn'.2 h1).isSound (core_left hp.src hpad)
          (core_right hp.src hpad hhalf) (.inl hbeside) (inside_left hp.src hpad hhalf)
          (inside_right hp.src hpad hhalf)
        · exact .inl ⟨rfl, rfl, beside_halves heven⟩
        · exact (image_upright hup heven h.dst).1
        · rw [hright]
          exact (image_upright hup heven h.dst).2

/-! ### What a sound split implies -/

/-- The cut of a source whose parts are side by side. -/
theorem cut_of_width {a x x' : DeconFrame} {splitA splitB p : Nat}
    (hsides : Sides c.src splitA splitB x x')
    (hA : splitA = EXYNOS_SPLIT_LEFT ∨ splitA = EXYNOS_SPLIT_RIGHT)
    (hx : x.w = c.src.w / 2) (hx' : x'.w = c.src.w / 2) (ha : a.w = c.src.w / 2 + p)
    (hin : Inside a c.src) : c.src.w % 2 = 0 ∧ 2 * p ≤ c.src.w := by
  have hleft := hin.left
  have hright := hin.right
  have hsum : c.src.w / 2 + c.src.w / 2 = c.src.w := by
    rcases hsides with ⟨-, -, hs⟩ | ⟨-, -, hs⟩ | ⟨ht, -, -⟩ | ⟨ht, -, -⟩
    · have := hs.width
      omega
    · have := hs.width
      omega
    · rcases hA with hA | hA <;> rw [hA] at ht <;> cases ht
    · rcases hA with hA | hA <;> rw [hA] at ht <;> cases ht
  omega

/-- The cut of a source whose parts are one above the other. -/
theorem cut_of_height {a x x' : DeconFrame} {splitA splitB p : Nat}
    (hsides : Sides c.src splitA splitB x x')
    (hA : splitA = EXYNOS_SPLIT_TOP ∨ splitA = EXYNOS_SPLIT_BOTTOM)
    (hx : x.h = c.src.h / 2) (hx' : x'.h = c.src.h / 2) (ha : a.h = c.src.h / 2 + p)
    (hin : Inside a c.src) : c.src.h % 2 = 0 ∧ 2 * p ≤ c.src.h := by
  have htop := hin.top
  have hbottom := hin.bottom
  have hsum : c.src.h / 2 + c.src.h / 2 = c.src.h := by
    rcases hsides with ⟨ht, -, -⟩ | ⟨ht, -, -⟩ | ⟨-, -, hs⟩ | ⟨-, -, hs⟩
    · rcases hA with hA | hA <;> rw [hA] at ht <;> cases ht
    · rcases hA with hA | hA <;> rw [hA] at ht <;> cases ht
    · have := hs.height
      omega
    · have := hs.height
      omega
  omega

/-- A part that is half a frame and the padding is half a frame without it. -/
theorem sub_padding {n k p : Nat} (h : n = k + p) : n - p = k := by omega

/-- **A window that is split soundly is regular.** -/
theorem IsSound.regular (hp : Placed c) (h : IsSound c (firstHalf c) (lastHalf c)) : Regular c := by
  have hpad := padding_le c
  have hdst := h.dst
  have hsides := h.sides
  have hin := h.inside.1
  by_cases h4 : c.transform = 4
  · have hcut : cutSize c = c.src.h := if_pos (.inl h4)
    rw [(halves_rot90 h4).first, (halves_rot90 h4).last] at hdst hsides
    rw [(halves_rot90 h4).first] at hin
    obtain ⟨hsrc, hroom⟩ := cut_of_height hsides (.inr rfl) (sub_padding (srcBottom_h hp.src hpad))
      (sub_padding (srcTop_h hp.src hpad)) (srcBottom_h hp.src hpad) hin
    exact ⟨by omega, even_of_partition hp.width rfl rfl hdst, by rwa [hcut], by rwa [hcut]⟩
  · by_cases h7 : c.transform = 7
    · have hcut : cutSize c = c.src.h := if_pos (.inr h7)
      rw [(halves_rot270 h7).first, (halves_rot270 h7).last] at hdst hsides
      rw [(halves_rot270 h7).first] at hin
      obtain ⟨hsrc, hroom⟩ := cut_of_height hsides (.inl rfl) (sub_padding (srcTop_h hp.src hpad))
        (sub_padding (srcBottom_h hp.src hpad)) (srcTop_h hp.src hpad) hin
      exact ⟨by omega, even_of_partition hp.width rfl rfl hdst, by rwa [hcut], by rwa [hcut]⟩
    · have hcut : cutSize c = c.src.w := if_neg (not_or.mpr ⟨h4, h7⟩)
      by_cases h3 : c.transform = 3
      · rw [(halves_rot180 h3).first, (halves_rot180 h3).last] at hdst hsides
        rw [(halves_rot180 h3).first] at hin
        obtain ⟨hsrc, hroom⟩ := cut_of_width hsides (.inr rfl) (sub_padding (srcRight_w hp.src hpad))
          (sub_padding (srcLeft_w hp.src hpad)) (srcRight_w hp.src hpad) hin
        exact ⟨by omega, even_of_partition hp.width rfl rfl hdst, by rwa [hcut], by rwa [hcut]⟩
      · by_cases h1 : c.transform = 1
        · rw [(halves_flipH h1).first, (halves_flipH h1).last] at hdst hsides
          rw [(halves_flipH h1).first] at hin
          obtain ⟨hsrc, hroom⟩ := cut_of_width hsides (.inl rfl) (sub_padding (srcLeft_w hp.src hpad))
            (sub_padding (srcRight_w hp.src hpad)) (srcLeft_w hp.src hpad) hin
          exact ⟨by omega, even_of_partition hp.width rfl rfl hdst, by rwa [hcut], by rwa [hcut]⟩
        · have hup := halves_upright h4 h3 h7 h1
          have himage := h.image.1
          rw [hup.first, hup.last] at hdst hsides
          rw [hup.first] at hin himage
          obtain ⟨hsrc, hroom⟩ := cut_of_width hsides (.inl rfl)
            (sub_padding (srcLeft_w hp.src hpad)) (sub_padding (srcRight_w hp.src hpad))
            (srcLeft_w hp.src hpad) hin
          have heven := even_of_partition hp.width rfl rfl hdst
          refine ⟨?_, heven, by rwa [hcut], by rwa [hcut]⟩
          by_contra hflip
          have hflip' : c.transform = 5 ∨ c.transform = 6 := by omega
          -- an empty source is scaled, and has no room for the padding
          have hpos : 0 < c.src.w := by
            by_contra hzero
            have hscaled : padding c = 4 := by
              have hwidth := hp.width
              have hturn : ¬(c.transform = HAL_TRANSFORM_ROT_90 ∨ c.transform = HAL_TRANSFORM_ROT_270) :=
                not_or.mpr ⟨h4, h7⟩
              unfold padding
              rw [if_neg hturn, if_pos (.inl (by omega))]
            omega
          have hcore := core_left hp.src hpad
          exact not_image_left hflip' hsrc heven hpos hp.height (dstLeft c.dst) rfl (hcore ▸ himage)

end Transforms

/-! ### The function -/

/-- The halves, if there are any, are a sound split. -/
def Meets (assignedMPP : ExynosMPP) (config : WinConfig) : Prop :=
  ∀ first last, getVirtual8KOtfInfo assignedMPP config = some (first, last) →
    IsSound config first.config last.config

/-- The window is shown by two planes. -/
def IsSplit (assignedMPP : ExynosMPP) (config : WinConfig) : Prop :=
  (getVirtual8KOtfInfo assignedMPP config).isSome = true

theorem halves_of_isSome {m : ExynosMPP} {c : WinConfig} {first last : HalfInfo}
    (h : getVirtual8KOtfInfo m c = some (first, last)) :
    first.config = firstHalf c ∧ last.config = lastHalf c := by
  unfold getVirtual8KOtfInfo at h
  split at h
  · cases h
  · split at h
    · cases h
    · split at h
      · cases h
      · cases h
        exact ⟨rfl, rfl⟩

/-- **The two halves make up the window** exactly when it is not split or it is regular. -/
theorem split_meets_iff (assignedMPP : ExynosMPP) (config : WinConfig) (hp : Placed config) :
    Meets assignedMPP config ↔ (IsSplit assignedMPP config → Regular config) := by
  constructor
  · intro h hsplit
    obtain ⟨⟨first, last⟩, hinfo⟩ := Option.isSome_iff_exists.mp hsplit
    obtain ⟨hfirst, hlast⟩ := halves_of_isSome hinfo
    have hsound := h first last hinfo
    rw [hfirst, hlast] at hsound
    exact hsound.regular hp
  · intro h first last hinfo
    obtain ⟨hfirst, hlast⟩ := halves_of_isSome hinfo
    rw [hfirst, hlast]
    apply (h ?_).isSound hp
    unfold IsSplit
    rw [hinfo]
    rfl

/-! ### A window of 7680 by 4320 pixels and its neighbours -/

def windowOf (transform : Nat) (src dst : DeconFrame) : WinConfig where
  state := .buffer
  color := 0
  fd_idma := (3, -1, -1)
  bufferId := 0
  owner := none
  fd_lut := -1
  metaParcel := none
  acq_fence := 5
  rel_fence := -1
  planeAlpha := 1
  blending := 0
  assignedMPP := some 0
  format := 0
  transform := transform
  dataspace := 0
  hdrEnable := false
  compSrc := 0
  src := src
  dst := dst
  protection := false
  compressionInfo := ⟨0, 0, 0⟩
  vOtfEnable := false
  vOtfBufIndex := 0
  split := 0

def virtualMPP : ExynosMPP := ⟨-1, true, some (0, 1)⟩

theorem split_meets_iff_fullScreen :
    let frame : DeconFrame := ⟨0, 0, 7680, 4320, 7680, 4320⟩
    Placed (windowOf 0 frame frame) ∧ Meets virtualMPP (windowOf 0 frame frame) := by
  intro frame
  have hedges : HasEdges frame := ⟨by decide, by decide, by decide, by decide⟩
  have hp : Placed (windowOf 0 frame frame) := ⟨by decide, hedges, hedges, by decide, by decide⟩
  refine ⟨hp, (split_meets_iff virtualMPP _ hp).mpr ?_⟩
  intro _
  exact ⟨by decide, by decide, by decide, by decide⟩

/-- The last column of an odd window is shown by neither half. -/
theorem odd_window_loses_column :
    ¬Meets virtualMPP (windowOf 0 ⟨0, 0, 7681, 4320, 7681, 4320⟩ ⟨0, 0, 7681, 4320, 7681, 4320⟩) := by
  intro h
  obtain ⟨hdst, -⟩ := h _ _ rfl
  have hodd := even_of_partition (by decide) rfl rfl hdst
  exact absurd hodd (by decide)

end ExynosHal.Virtual8K
