/-
  ExynosHal/HalTransform.lean
  ===========================
  **What a HAL transform does to the plane.**

  A transform flips along the axes first and then turns by a quarter, clockwise
  with y downwards; half a turn is both flips, and three quarters are both flips
  and a quarter.
-/
import ExynosHal.HW2DCapability

namespace ExynosHal.HalTransform

open ExynosHal

/-! ### Motions -/

/-- Flips to the other side of the vertical and of the horizontal axis. -/
def flip (h v : Bool) (p : Int × Int) : Int × Int :=
  (if h then -p.1 else p.1, if v then -p.2 else p.2)

/-- A quarter of a turn. -/
def quarter (p : Int × Int) : Int × Int := (-p.2, p.1)

/-- A turn by a number of degrees that is a multiple of 90. -/
def turn (rot : Int) (p : Int × Int) : Int × Int := quarter^[(rot % 360 / 90).toNat] p

def hFlip (transform : BitVec 32) : Bool := transform &&& HAL_TRANSFORM_FLIP_H != 0
def vFlip (transform : BitVec 32) : Bool := transform &&& HAL_TRANSFORM_FLIP_V != 0

/-- The motion that a transform stands for. -/
def act (transform : BitVec 32) (p : Int × Int) : Int × Int :=
  let p := flip (hFlip transform) (vFlip transform) p
  if rotates transform then quarter p else p

/-- The flips as a transform. -/
def flips (h v : Bool) : BitVec 32 :=
  (if h then HAL_TRANSFORM_FLIP_H else 0) ||| (if v then HAL_TRANSFORM_FLIP_V else 0)

/-- The turn as a transform. -/
def turnBits (rot : Int) : BitVec 32 :=
  if rot % 360 = 90 then HAL_TRANSFORM_ROT_90
  else if rot % 360 = 180 then HAL_TRANSFORM_ROT_180
  else if rot % 360 = 270 then HAL_TRANSFORM_ROT_270
  else 0

/-! ### Composition -/

/-- **A turn after flips** is the transform whose flips are those of the turn, each undone
    where it is asked for once more. -/
theorem act_turnBits {rot : Int} (hrot : rot % 90 = 0) (h v : Bool) (p : Int × Int) :
    act (turnBits rot ^^^ flips h v) p = turn rot (flip h v p) := by
  have hcases : rot % 360 = 0 ∨ rot % 360 = 90 ∨ rot % 360 = 180 ∨ rot % 360 = 270 := by omega
  unfold turn turnBits
  rcases hcases with hr | hr | hr | hr <;> rw [hr] <;> cases h <;> cases v <;>
    simp [act, flip, flips, quarter, hFlip, vFlip, rotates, HAL_TRANSFORM_FLIP_H,
      HAL_TRANSFORM_FLIP_V, HAL_TRANSFORM_ROT_90, HAL_TRANSFORM_ROT_180, HAL_TRANSFORM_ROT_270]

end ExynosHal.HalTransform
