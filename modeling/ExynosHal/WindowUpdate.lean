/-
  ExynosHal/WindowUpdate.lean
  ===========================
  **The partial update of a frame.**

  `handleWindowUpdate` of `libhwc2.1/display/ExynosDisplay.cpp` with the
  functions it is made of: `windowUpdateExceptions`, `mergeDamageRect`,
  `canApplyWindowUpdate`, `getLayerRegion` and `setWindowUpdate`, over the window
  configs of `WindowConfig`.

  `composed` is the picture of a frame: what a pixel shows is some function of
  the windows that cover it, of their attributes and of the part of their content
  that lands on the pixel.  `MayDiffer` says where two frames can show different
  pictures (`composed_eq`), and `windowUpdate_covers` that the region contains
  all of it, as long as the damage of every layer is carried to the screen the
  way the window itself is.
-/
import Mathlib.Data.Rat.Floor
import Mathlib.Tactic.Linarith
import ExynosHal.Rect
import ExynosHal.WindowConfig

namespace ExynosHal.WindowUpdate

open ExynosHal.WindowConfig

/-! ### Data -/

def NO_ERROR : Int := 0
def INT_MAX : Int := 2 ^ 31 - 1
def HWC2_COMPOSITION_DEVICE : Int := 2

/-- What `handleWindowUpdate` reads of a layer.  The edges of the source crop are
    floating-point numbers in the source, exact fractions here. -/
structure Layer where
  m2mMPP : Option Nat
  layerBuffer : Option Nat
  lastLayerBuffer : Option Nat
  transform : Nat
  exynosCompositionType : Int
  windowIndex : Int
  displayFrame : Rect Int
  sourceCrop : Rect Rat
  damageRects : List (Rect Int)
deriving DecidableEq

structure Display (n : Nat) where
  xres : Nat
  yres : Nat
  /-- `exynosHWCControl.windowUpdate`. -/
  windowUpdate : Int
  geometryChanged : Nat
  cursorIndex : Int
  isVirtual : Bool
  exynosComposition : Bool
  clientComposition : Bool
  /-- `ExynosFormat::isYUV`, by the index of the format. -/
  isYUV : Nat → Bool
  layers : List Layer
  dpuData : DpuData n
  lastDpuData : DpuData n

inductive RegionType where
  | byDamage
  | byLayer
deriving DecidableEq, Repr

/-- `eDamageRegionFull` and its siblings. -/
inductive DamageRegion where
  | full
  | within
  | skip
deriving DecidableEq, Repr

/-! ### Rectangles -/

def width (r : Rect Int) : Int := r.right - r.left

def height (r : Rect Int) : Int := r.bottom - r.top

/-- The conversion of a floating-point number to `int`. -/
def toInt (q : Rat) : Int := if 0 ≤ q then ⌊q⌋ else ⌈q⌉

/-- The conversion of an `int` to `uint32_t`. -/
def toUInt32 (i : Int) : Nat := (i % 2 ^ 32).toNat

def expand (r1 r2 : Rect Int) : Rect Int := r1.hull r2

def adjustRect (rect : Rect Int) (width height : Int) : Rect Int :=
  let left := min (max rect.left 0) width
  let top := min (max rect.top 0) height
  { left := left
    top := top
    right := min (max rect.right left) width
    bottom := min (max rect.bottom top) height }

/-! ### Damage -/

/-- The translation of one damage rectangle to the screen by `getLayerRegion`;
    nothing for a rectangle that it does not take for damage. -/
def Layer.damageOnScreen (layer : Layer) (rect : Rect Int) : Option (Rect Int) :=
  if rect.left < 0 ∨ rect.top < 0 ∨ rect.right < 0 ∨ rect.bottom < 0 ∨
      rect.left ≥ rect.right ∨ rect.top ≥ rect.bottom ∨
      rect.right - rect.left > toInt (layer.sourceCrop.right - layer.sourceCrop.left) ∨
      rect.bottom - rect.top > toInt (layer.sourceCrop.bottom - layer.sourceCrop.top) then none
  else
    some (adjustRect
      { left := toInt ((layer.displayFrame.left + rect.left : Int) - layer.sourceCrop.left)
        top := toInt ((layer.displayFrame.top + rect.top : Int) - layer.sourceCrop.top)
        right := toInt ((layer.displayFrame.left + rect.right : Int) - layer.sourceCrop.left)
        bottom := toInt ((layer.displayFrame.top + rect.bottom : Int) - layer.sourceCrop.top) }
      INT_MAX INT_MAX)

def noArea : Rect Int := ⟨INT_MAX, INT_MAX, 0, 0⟩

def Layer.getLayerRegion (layer : Layer) (regionType : RegionType) : DamageRegion × Rect Int :=
  if layer.damageRects.length = 0 then (.full, noArea)
  else if layer.damageRects = [⟨0, 0, 0, 0⟩] then (.skip, noArea)
  else
    match regionType with
    | .byDamage =>
        match layer.damageRects.foldlM
          (fun area rect => (layer.damageOnScreen rect).map (expand area)) noArea with
        | none => (.full, noArea)
        | some area => (.within, area)
    | .byLayer =>
        if layer.lastLayerBuffer ≠ layer.layerBuffer then (.full, noArea) else (.skip, noArea)

/-- `canApplyWindowUpdate` of one window. -/
def canApplyWindowUpdate (lastConfig newConfig : WinConfig) : Int :=
  if lastConfig.state ≠ newConfig.state ∨ lastConfig.format ≠ newConfig.format ∨
      lastConfig.blending ≠ newConfig.blending ∨ lastConfig.planeAlpha ≠ newConfig.planeAlpha then
    -1
  else if lastConfig.dst.x ≠ newConfig.dst.x ∨ lastConfig.dst.y ≠ newConfig.dst.y ∨
      lastConfig.dst.w ≠ newConfig.dst.w ∨ lastConfig.dst.h ≠ newConfig.dst.h ∨
      lastConfig.src.x ≠ newConfig.src.x ∨ lastConfig.src.y ≠ newConfig.src.y ∨
      lastConfig.src.w ≠ newConfig.src.w ∨ lastConfig.src.h ≠ newConfig.src.h then
    1
  else 0

/-- The screen area of a `decon_frame`. -/
def area (frame : DeconFrame) : Rect Int :=
  ⟨frame.x, frame.y, frame.x + frame.w, frame.y + frame.h⟩

/-- What a layer in the given window adds to the merged rectangle; nothing when
    the update is cancelled. -/
def Layer.mergeInto (layer : Layer) (lastConfig newConfig : WinConfig) (merged : Rect Int) :
    Option (Rect Int) :=
  let ret := canApplyWindowUpdate lastConfig newConfig
  if ret < 0 then none
  else if ret > 0 then some (expand (expand merged layer.displayFrame) (area lastConfig.dst))
  else
    match layer.getLayerRegion .byDamage with
    | (.within, damage) => some (expand merged damage)
    | (.skip, _) => some merged
    | (.full, _) => some (expand merged layer.displayFrame)

/-- The window of a layer, if its index is one. -/
def Layer.window (layer : Layer) (n : Nat) : Option (Fin n) :=
  if h : 0 ≤ layer.windowIndex ∧ layer.windowIndex.toNat < n then
    some ⟨layer.windowIndex.toNat, h.2⟩
  else none

namespace Display

variable {n : Nat}

def mergeDamageRect (d : Display n) (mergeRect : Rect Int) : Option (Rect Int) :=
  d.layers.foldlM (fun merged layer =>
    (layer.window n).bind fun i =>
      layer.mergeInto (d.lastDpuData.configs i) (d.dpuData.configs i) merged) mergeRect

/-! ### The update -/

def windowUpdateExceptions (d : Display n) : Bool :=
  d.dpuData.enableReadback || d.windowUpdate != 1 || d.geometryChanged != 0 ||
    (decide (0 ≤ d.cursorIndex) && (d.layers[d.cursorIndex.toNat]?).any fun layer =>
      layer.exynosCompositionType == HWC2_COMPOSITION_DEVICE) ||
    d.isVirtual || d.exynosComposition || d.clientComposition ||
    (d.layers.any fun layer =>
      layer.m2mMPP.isSome || layer.layerBuffer.isNone || layer.transform != 0) ||
    ((List.finRange n).any fun i =>
      let config := d.dpuData.configs i
      let lastConfig := d.lastDpuData.configs i
      config.planeAlpha != lastConfig.planeAlpha ||
        (d.isYUV config.format &&
          (config.src.x % 2 != 0 || config.src.y % 2 != 0 ||
            config.src.w % 2 != 0 || config.src.h % 2 != 0 ||
            config.dst.x % 2 != 0 || config.dst.y % 2 != 0 ||
            config.dst.w % 2 != 0 || config.dst.h % 2 != 0)) ||
        (config.state == .buffer &&
          (config.src.w / config.dst.w != 1 || config.src.h / config.dst.h != 1)))

def setUpdateRegion (d : Display n) (enable : Bool) (x y : Int) (w h : Nat) : Display n :=
  { d with
    dpuData := { d.dpuData with
      enableWinUpdate := enable
      winUpdateRegion := { d.dpuData.winUpdateRegion with x := x, y := y, w := w, h := h } } }

/-- `setWindowUpdate`; nothing when the rectangle is not taken. -/
def setWindowUpdate (d : Display n) (mergeRect : Rect Int) : Option (Display n) :=
  if mergeRect.left = 0 ∧ mergeRect.right = d.xres ∧ mergeRect.top = 0 ∧
      mergeRect.bottom = d.yres then
    some (d.setUpdateRegion true 0 0 d.xres d.yres)
  else if mergeRect.left ≠ d.xres ∧ mergeRect.right ≠ 0 ∧ mergeRect.top ≠ d.yres ∧
      mergeRect.bottom ≠ 0 then
    some (d.setUpdateRegion true mergeRect.left mergeRect.top (toUInt32 (width mergeRect))
      (toUInt32 (height mergeRect)))
  else none

def handleWindowUpdate (d : Display n) : Display n :=
  let full := d.setUpdateRegion false 0 0 d.xres d.yres
  if full.windowUpdateExceptions then full
  else
    match full.mergeDamageRect ⟨d.xres, d.yres, 0, 0⟩ with
    | none => full
    | some mergedRect => (full.setWindowUpdate mergedRect).getD full

end Display

/-- A rectangle of `int`s. -/
structure Bounded (r : Rect Int) : Prop where
  left : -2 ^ 31 ≤ r.left
  top : -2 ^ 31 ≤ r.top
  right : r.right ≤ INT_MAX
  bottom : r.bottom ≤ INT_MAX

/-! ### The picture of a frame -/

/-- Everything a window shows is determined by, less the content of its buffer. -/
structure Appearance where
  state : WinState
  owner : Option Nat
  dst : Int × Int × Nat × Nat
  src : Int × Int × Nat × Nat
  format : Nat
  blending : Int
  planeAlpha : Rat
  transform : Nat
  dataspace : Nat
  hdrEnable : Bool
  color : Option Nat
  protection : Bool
  compression : Option (CompressionInfo × Nat)
deriving DecidableEq

/-- Nothing for a window that is not programmed. -/
def appearance (c : WinConfig) : Option Appearance :=
  if c.programmed then
    some {
      state := c.state
      owner := c.owner
      dst := c.compared.dst
      src := c.compared.src
      format := c.format
      blending := c.blending
      planeAlpha := c.planeAlpha
      transform := c.transform
      dataspace := c.dataspace
      hdrEnable := c.hdrEnable
      color := c.uncompared.color
      protection := c.protection
      compression := c.uncompared.compression }
  else none

def covers (c : WinConfig) (p : Int × Int) : Prop := c.programmed = true ∧ p ∈ area c.dst

instance (c : WinConfig) (p : Int × Int) : Decidable (covers c p) :=
  inferInstanceAs (Decidable (_ ∧ _))

/-- Source pixel `s` of a window lands on screen pixel `p`: its image under the map of the
    source rectangle to the destination meets the pixel. -/
def lands (c : WinConfig) (s p : Int × Int) : Prop :=
  ((s.1 - c.src.x) * c.dst.w < (p.1 + 1 - c.dst.x) * c.src.w ∧
    (p.1 - c.dst.x) * c.src.w < (s.1 + 1 - c.src.x) * c.dst.w) ∧
  ((s.2 - c.src.y) * c.dst.h < (p.2 + 1 - c.dst.y) * c.src.h ∧
    (p.2 - c.dst.y) * c.src.h < (s.2 + 1 - c.src.y) * c.dst.h)

instance (c : WinConfig) (s p : Int × Int) : Decidable (lands c s p) :=
  inferInstanceAs (Decidable (_ ∧ _))

/-- What a window adds to a pixel. -/
def contribution {C : Type} (c : WinConfig) (content : Int × Int → C) (p : Int × Int) :
    Option (Option Appearance × (Int × Int → Option C)) :=
  if covers c p then
    some (appearance c, fun s => if lands c s p then some (content s) else none)
  else none

/-- The pixel `p` of a frame, for any way `blend` to compose the windows. -/
def composed {n : Nat} {C D : Type}
    (blend : (Fin n → Option (Option Appearance × (Int × Int → Option C))) → D)
    (frame : DpuData n) (content : Fin n → Int × Int → C) (p : Int × Int) : D :=
  blend fun i => contribution (frame.configs i) (content i) p

/-- A source pixel that the damage of a layer admits to be new.  No rectangle at all says
    that nothing is known. -/
def Layer.Damaged (layer : Layer) (s : Int × Int) : Prop :=
  layer.damageRects = [] ∨ ∃ rect ∈ layer.damageRects, s ∈ rect

/-- The region that a layer adds covers what can change in its window. -/
structure Layer.Followed (layer : Layer) (screen : Rect Int) (last new : WinConfig) : Prop where
  inFrame : canApplyWindowUpdate last new > 0 ∨ (layer.getLayerRegion .byDamage).1 = .full →
    ∀ p ∈ screen, p ∈ area new.dst → p ∈ layer.displayFrame
  redrawn : canApplyWindowUpdate last new = 0 → appearance last ≠ appearance new →
    (layer.getLayerRegion .byDamage).1 = .full
  carried : canApplyWindowUpdate last new = 0 → (layer.getLayerRegion .byDamage).1 = .within →
    new.src.w = new.dst.w ∧ new.src.h = new.dst.h ∧
      layer.displayFrame.left - layer.sourceCrop.left = (new.dst.x - new.src.x : Int) ∧
      layer.displayFrame.top - layer.sourceCrop.top = (new.dst.y - new.src.y : Int)

namespace Display

variable {n : Nat}

/-- The contents of two frames differ at most in the damage of their layers. -/
def SameUndamaged {C : Type} (d : Display n) (last new : Fin n → Int × Int → C) : Prop :=
  ∀ i s, (∀ layer ∈ d.layers, layer.window n = some i → ¬ layer.Damaged s) → last i s = new i s

/-- A pixel that can change: an old or new place of a window that moved, appeared,
    disappeared or changed an attribute, or an image of a damaged source pixel. -/
inductive MayDiffer (d : Display n) (p : Int × Int) : Prop where
  | oldPlace (i : Fin n) :
      appearance (d.lastDpuData.configs i) ≠ appearance (d.dpuData.configs i) →
      covers (d.lastDpuData.configs i) p → MayDiffer d p
  | newPlace (i : Fin n) :
      appearance (d.lastDpuData.configs i) ≠ appearance (d.dpuData.configs i) →
      covers (d.dpuData.configs i) p → MayDiffer d p
  | damaged (i : Fin n) (layer : Layer) (s : Int × Int) : layer ∈ d.layers →
      layer.window n = some i → covers (d.dpuData.configs i) p → layer.Damaged s →
      lands (d.dpuData.configs i) s p → MayDiffer d p

/-- The pixels of the screen. -/
def screen (d : Display n) : Rect Int := ⟨0, 0, d.xres, d.yres⟩

def updateRegion (d : Display n) : Rect Int := area d.dpuData.winUpdateRegion

/-! ### When the region is enough -/

/-- The coordinates are `int`s. -/
structure InRange (d : Display n) : Prop where
  screen : (d.xres : Int) ≤ INT_MAX ∧ (d.yres : Int) ≤ INT_MAX
  displayFrame : ∀ layer ∈ d.layers, Bounded layer.displayFrame
  lastDst : ∀ i, Bounded (area (d.lastDpuData.configs i).dst)

/-- The update is given up whatever the damage is. -/
def Canceled (d : Display n) : Prop :=
  d.windowUpdateExceptions = true ∨ ∃ layer ∈ d.layers, layer.window n = none ∨
    ∃ i, layer.window n = some i ∧
      canApplyWindowUpdate (d.lastDpuData.configs i) (d.dpuData.configs i) < 0

/-- The damage of every layer is carried to the screen the way its window is, and a window
    that changed otherwise is redrawn as a whole. -/
structure Tracked (d : Display n) : Prop where
  unused : ∀ i, (∀ layer ∈ d.layers, layer.window n ≠ some i) →
    appearance (d.lastDpuData.configs i) = appearance (d.dpuData.configs i)
  followed : ∀ layer ∈ d.layers, ∀ i, layer.window n = some i →
    layer.Followed d.screen (d.lastDpuData.configs i) (d.dpuData.configs i)

end Display

section Pictures

variable {n : Nat} {d : Display n} {p : Int × Int} {last new : WinConfig}

/-- Windows that look the same lie at the same place and show the same part of their source. -/
theorem same_place (h : appearance last = appearance new) :
    (covers last p ↔ covers new p) ∧
      (covers new p → ∀ s, lands last s p ↔ lands new s p) := by
  cases hn : new.programmed
  · have hl : last.programmed = false := by
      cases hl : last.programmed
      · rfl
      · simp [appearance, hl, hn] at h
    simp [covers, hn, hl]
  · have hl : last.programmed = true := by
      cases hl : last.programmed
      · simp [appearance, hl, hn] at h
      · rfl
    simp only [appearance, hl, hn, if_true, Option.some.injEq, Appearance.mk.injEq,
      WinConfig.compared, Prod.mk.injEq] at h
    obtain ⟨-, -, ⟨hx, hy, hw, hh⟩, ⟨hsx, hsy, hsw, hsh⟩, -⟩ := h
    simp only [covers, hl, hn, area, hx, hy, hw, hh, lands, hsx, hsy, hsw, hsh]
    exact ⟨trivial, fun _ _ => trivial⟩

/-- Where nothing may differ the two frames compose to the same pixel. -/
theorem composed_eq {C D : Type}
    (blend : (Fin n → Option (Option Appearance × (Int × Int → Option C))) → D)
    {last new : Fin n → Int × Int → C} (hsame : d.SameUndamaged last new)
    (hp : ¬ d.MayDiffer p) :
    composed blend d.lastDpuData last p = composed blend d.dpuData new p := by
  apply congrArg blend
  funext i
  by_cases happ : appearance (d.lastDpuData.configs i) = appearance (d.dpuData.configs i)
  · obtain ⟨hcovers, hlands⟩ := same_place (p := p) happ
    simp only [contribution, hcovers, happ]
    split
    · rename_i hnew
      congr 2
      funext s
      simp only [hlands hnew s]
      split
      · rename_i hs
        rw [hsame i s fun layer hmem hwin hdam => hp (.damaged i layer s hmem hwin hnew hdam hs)]
      · rfl
    · rfl
  · have hlast : ¬ covers (d.lastDpuData.configs i) p := fun h => hp (.oldPlace i happ h)
    have hnew : ¬ covers (d.dpuData.configs i) p := fun h => hp (.newPlace i happ h)
    simp [contribution, hlast, hnew]

end Pictures

/-! ### Damage on the screen -/

section Damage

variable {layer : Layer} {last new : WinConfig} {s p : Int × Int} {screen : Rect Int}

theorem toInt_intCast (i : Int) : toInt (i : Rat) = i := by
  simp [toInt]

/-- The translation of an edge, when the window is shifted by whole pixels. -/
theorem toInt_shift {frame crop : Rat} {shift : Int} (h : frame - crop = shift) (edge : Int) :
    toInt (frame + edge - crop) = shift + edge := by
  have heq : frame + edge - crop = ((shift + edge : Int) : Rat) := by
    push_cast
    linarith
  rw [heq, toInt_intCast]

/-- Between sizes that agree a source pixel lands on one screen pixel. -/
theorem lands_unscaled (hw : new.src.w = new.dst.w) (hh : new.src.h = new.dst.h)
    (hp : p ∈ area new.dst) (h : lands new s p) :
    s.1 - new.src.x = p.1 - new.dst.x ∧ s.2 - new.src.y = p.2 - new.dst.y := by
  obtain ⟨hl, hr, ht, hb⟩ := hp
  obtain ⟨⟨h1, h2⟩, h3, h4⟩ := h
  simp only [area] at hl hr ht hb
  rw [hw] at h1 h2
  rw [hh] at h3 h4
  have hwpos : (0 : Int) < new.dst.w := by omega
  have hhpos : (0 : Int) < new.dst.h := by omega
  have h1' := lt_of_mul_lt_mul_right h1 hwpos.le
  have h2' := lt_of_mul_lt_mul_right h2 hwpos.le
  have h3' := lt_of_mul_lt_mul_right h3 hhpos.le
  have h4' := lt_of_mul_lt_mul_right h4 hhpos.le
  omega

theorem mem_adjustRect {r : Rect Int} (hp : p ∈ r) (hx : 0 ≤ p.1 ∧ p.1 < INT_MAX)
    (hy : 0 ≤ p.2 ∧ p.2 < INT_MAX) : p ∈ adjustRect r INT_MAX INT_MAX := by
  obtain ⟨hl, hr, ht, hb⟩ := hp
  refine ⟨?_, ?_, ?_, ?_⟩ <;> simp only [adjustRect] <;> omega

/-- A damaged pixel is in the translation of its rectangle. -/
theorem mem_damageOnScreen (hfollow : new.src.w = new.dst.w ∧ new.src.h = new.dst.h ∧
      layer.displayFrame.left - layer.sourceCrop.left = (new.dst.x - new.src.x : Int) ∧
      layer.displayFrame.top - layer.sourceCrop.top = (new.dst.y - new.src.y : Int))
    {rect out : Rect Int} (hout : layer.damageOnScreen rect = some out) (hs : s ∈ rect)
    (hp : p ∈ area new.dst) (hlands : lands new s p) (hx : 0 ≤ p.1 ∧ p.1 < INT_MAX)
    (hy : 0 ≤ p.2 ∧ p.2 < INT_MAX) : p ∈ out := by
  obtain ⟨hw, hh, hleft, htop⟩ := hfollow
  obtain ⟨hpx, hpy⟩ := lands_unscaled hw hh hp hlands
  simp only [Layer.damageOnScreen] at hout
  split at hout
  · cases hout
  · cases hout
    refine mem_adjustRect ?_ hx hy
    push_cast
    simp only [toInt_shift hleft, toInt_shift htop]
    obtain ⟨hl, hr, ht, hb⟩ := hs
    refine ⟨?_, ?_, ?_, ?_⟩ <;> simp only <;> omega

/-- What the loop over the damage of a layer collects. -/
theorem mem_getLayerRegion {out : Rect Int}
    (hregion : layer.getLayerRegion .byDamage = (.within, out)) (hdam : layer.Damaged s)
    (hmem : ∀ rect r, layer.damageOnScreen rect = some r → s ∈ rect → p ∈ r) : p ∈ out := by
  simp only [Layer.getLayerRegion] at hregion
  split at hregion
  · cases hregion
  · rename_i hlen
    split at hregion
    · cases hregion
    · split at hregion
      · cases hregion
      · rename_i collected hloop
        cases hregion
        rcases hdam with hnil | ⟨rect, hrect, hs⟩
        · simp [hnil] at hlen
        · refine Rect.mem_foldlM_of_mem ?_ hrect ?_ hloop
          · intro b r r' hr' hp
            obtain ⟨q, -, rfl⟩ := Option.map_eq_some_iff.mp hr'
            exact Rect.mem_hull_left q hp
          · intro r r' hr'
            obtain ⟨q, hq, rfl⟩ := Option.map_eq_some_iff.mp hr'
            exact Rect.mem_hull_right r (hmem rect q hq hs)

theorem not_damaged_of_skip {out : Rect Int}
    (h : layer.getLayerRegion .byDamage = (.skip, out)) : ¬ layer.Damaged s := by
  simp only [Layer.getLayerRegion] at h
  split at h
  · cases h
  · rename_i hlen
    split at h
    · rename_i hzero
      rintro (hnil | ⟨rect, hrect, hs⟩)
      · simp [hnil] at hlen
      · rw [hzero, List.mem_singleton] at hrect
        obtain ⟨hl, hr, -, -⟩ := hrect ▸ hs
        simp only at hl hr
        omega
    · split at h <;> cases h

/-- A layer takes nothing away from the merged rectangle. -/
theorem mem_mergeInto {merged merged' : Rect Int}
    (h : layer.mergeInto last new merged = some merged') (hp : p ∈ merged) : p ∈ merged' := by
  simp only [Layer.mergeInto] at h
  split at h
  · cases h
  · split at h
    · cases h
      exact Rect.mem_hull_left _ (Rect.mem_hull_left _ hp)
    · split at h
      · cases h
        exact Rect.mem_hull_left _ hp
      · cases h
        exact hp
      · cases h
        exact Rect.mem_hull_left _ hp

theorem Bounded.hull {r r' : Rect Int} (h : Bounded r) (h' : Bounded r') : Bounded (r.hull r') :=
  ⟨le_min h.left h'.left, le_min h.top h'.top, max_le h.right h'.right, max_le h.bottom h'.bottom⟩

theorem bounded_noArea : Bounded noArea := by
  constructor <;> decide

theorem bounded_damageOnScreen {rect out : Rect Int} (h : layer.damageOnScreen rect = some out) :
    Bounded out := by
  simp only [Layer.damageOnScreen] at h
  split at h
  · cases h
  · cases h
    constructor <;> simp only [adjustRect, INT_MAX] <;> omega

theorem bounded_getLayerRegion {out : Rect Int} {region : DamageRegion}
    (h : layer.getLayerRegion .byDamage = (region, out)) : Bounded out := by
  simp only [Layer.getLayerRegion] at h
  split at h
  · cases h
    exact bounded_noArea
  · split at h
    · cases h
      exact bounded_noArea
    · split at h
      · cases h
        exact bounded_noArea
      · rename_i hloop
        cases h
        refine Rect.foldlM_keeps ?_ hloop bounded_noArea
        intro b _ r r' hr' hr
        obtain ⟨q, hq, rfl⟩ := Option.map_eq_some_iff.mp hr'
        exact hr.hull (bounded_damageOnScreen hq)

theorem bounded_mergeInto {merged merged' : Rect Int}
    (h : layer.mergeInto last new merged = some merged') (hframe : Bounded layer.displayFrame)
    (hlast : Bounded (area last.dst)) (hmerged : Bounded merged) : Bounded merged' := by
  simp only [Layer.mergeInto] at h
  split at h
  · cases h
  · split at h
    · cases h
      exact (hmerged.hull hframe).hull hlast
    · split at h
      · rename_i hregion
        cases h
        exact hmerged.hull (bounded_getLayerRegion hregion)
      · cases h
        exact hmerged
      · cases h
        exact hmerged.hull hframe

theorem canApplyWindowUpdate_cases (last new : WinConfig) :
    canApplyWindowUpdate last new = -1 ∨ canApplyWindowUpdate last new = 1 ∨
      canApplyWindowUpdate last new = 0 ∧ last.state = new.state ∧
        area last.dst = area new.dst := by
  simp only [canApplyWindowUpdate]
  split
  · exact .inl rfl
  · rename_i hstate
    split
    · exact .inr (.inl rfl)
    · rename_i hplace
      simp only [not_or, ne_eq, not_not] at hstate hplace
      obtain ⟨hx, hy, hw, hh, -⟩ := hplace
      refine .inr (.inr ⟨rfl, hstate.1, ?_⟩)
      simp only [area, hx, hy, hw, hh]

theorem covers_of_same (hstate : last.state = new.state) (harea : area last.dst = area new.dst)
    (h : covers last p) : covers new p := by
  obtain ⟨hprogrammed, hp⟩ := h
  refine ⟨?_, harea ▸ hp⟩
  simpa only [WinConfig.programmed, hstate] using hprogrammed

/-- What a layer adds covers the old and the new place of its window. -/
theorem place_mergeInto (hfollow : layer.Followed screen last new)
    (hdiffer : appearance last ≠ appearance new) (hscreen : p ∈ screen)
    (hp : covers last p ∨ covers new p) {merged merged' : Rect Int}
    (h : layer.mergeInto last new merged = some merged') : p ∈ merged' := by
  simp only [Layer.mergeInto] at h
  rcases canApplyWindowUpdate_cases last new with hret | hret | ⟨hret, hstate, harea⟩
  · simp [hret] at h
  · simp only [hret, show ¬ (1 : Int) < 0 by decide, if_false, gt_iff_lt, zero_lt_one,
      if_true, Option.some.injEq] at h
    subst h
    rcases hp with hold | hnew
    · exact Rect.mem_hull_right _ hold.2
    · refine Rect.mem_hull_left _ (Rect.mem_hull_right _ ?_)
      exact hfollow.inFrame (.inl (by rw [hret]; decide)) p hscreen hnew.2
  · have hnew : covers new p := hp.elim (covers_of_same hstate harea) id
    have hfull := hfollow.redrawn hret hdiffer
    simp only [hret, gt_iff_lt, lt_self_iff_false, if_false] at h
    split at h
    · rename_i hregion
      simp [hregion] at hfull
    · rename_i hregion
      simp [hregion] at hfull
    · cases h
      exact Rect.mem_hull_right _ (hfollow.inFrame (.inr hfull) p hscreen hnew.2)

/-- What a layer adds covers the images of its damage. -/
theorem damage_mergeInto (hfollow : layer.Followed screen last new) (hscreen : p ∈ screen)
    (hbounds : screen.left = 0 ∧ screen.top = 0 ∧ screen.right ≤ INT_MAX ∧
      screen.bottom ≤ INT_MAX)
    (hp : covers new p) (hdam : layer.Damaged s) (hlands : lands new s p)
    {merged merged' : Rect Int} (h : layer.mergeInto last new merged = some merged') :
    p ∈ merged' := by
  obtain ⟨hl, hr, ht, hb⟩ := hscreen
  simp only [Layer.mergeInto] at h
  rcases canApplyWindowUpdate_cases last new with hret | hret | ⟨hret, -, -⟩
  · simp [hret] at h
  · simp only [hret, show ¬ (1 : Int) < 0 by decide, if_false, gt_iff_lt, zero_lt_one,
      if_true, Option.some.injEq] at h
    subst h
    refine Rect.mem_hull_left _ (Rect.mem_hull_right _ ?_)
    exact hfollow.inFrame (.inl (by rw [hret]; decide)) p ⟨hl, hr, ht, hb⟩ hp.2
  · simp only [hret, gt_iff_lt, lt_self_iff_false, if_false] at h
    split at h
    · rename_i damage hregion
      cases h
      have hcarried := hfollow.carried hret (by rw [hregion])
      refine Rect.mem_hull_right _ (mem_getLayerRegion hregion hdam fun rect r hr' hs => ?_)
      exact mem_damageOnScreen hcarried hr' hs hp.2 hlands ⟨by omega, by omega⟩
        ⟨by omega, by omega⟩
    · rename_i hregion
      exact absurd hdam (not_damaged_of_skip hregion)
    · rename_i hregion
      cases h
      exact Rect.mem_hull_right _ (hfollow.inFrame (.inr (by rw [hregion])) p
        ⟨hl, hr, ht, hb⟩ hp.2)

end Damage

/-! ### The region -/

section Region

variable {n : Nat} {d : Display n} {p : Int × Int}

/-- One step of the loop over the layers. -/
theorem mergeStep {layer : Layer} {merged merged' : Rect Int}
    (h : ((layer.window n).bind fun i => layer.mergeInto (d.lastDpuData.configs i)
      (d.dpuData.configs i) merged) = some merged') :
    ∃ i, layer.window n = some i ∧ layer.mergeInto (d.lastDpuData.configs i)
      (d.dpuData.configs i) merged = some merged' :=
  Option.bind_eq_some_iff.mp h

theorem mergeDamageRect_grows (layer : Layer) {merged merged' : Rect Int}
    (h : ((layer.window n).bind fun i => layer.mergeInto (d.lastDpuData.configs i)
      (d.dpuData.configs i) merged) = some merged') (hp : p ∈ merged) : p ∈ merged' := by
  obtain ⟨i, -, hi⟩ := mergeStep h
  exact mem_mergeInto hi hp

/-- A pixel that one of the layers adds is in the merged rectangle. -/
theorem mem_mergeDamageRect_of {layer : Layer} (hmem : layer ∈ d.layers)
    (hadd : ∀ i merged merged', layer.window n = some i → layer.mergeInto
      (d.lastDpuData.configs i) (d.dpuData.configs i) merged = some merged' → p ∈ merged')
    {start merged : Rect Int} (h : d.mergeDamageRect start = some merged) : p ∈ merged := by
  refine Rect.mem_foldlM_of_mem (fun b r r' hr' hp => mergeDamageRect_grows b hr' hp) hmem ?_ h
  intro r r' hr'
  obtain ⟨i, hi, hmerge⟩ := mergeStep hr'
  exact hadd i r r' hi hmerge

theorem mem_mergeDamageRect (hrange : d.InRange) (htracked : d.Tracked) (hp : p ∈ d.screen)
    (hdiffer : d.MayDiffer p) {start merged : Rect Int}
    (h : d.mergeDamageRect start = some merged) : p ∈ merged := by
  have hplace : ∀ i, appearance (d.lastDpuData.configs i) ≠ appearance (d.dpuData.configs i) →
      covers (d.lastDpuData.configs i) p ∨ covers (d.dpuData.configs i) p → p ∈ merged := by
    intro i happ hcovers
    obtain ⟨layer, hmem, hwin⟩ : ∃ layer ∈ d.layers, layer.window n = some i := by
      by_contra hnone
      exact happ (htracked.unused i fun layer hmem hwin => hnone ⟨layer, hmem, hwin⟩)
    refine mem_mergeDamageRect_of hmem (fun j r r' hj hr' => ?_) h
    cases hwin.symm.trans hj
    exact place_mergeInto (htracked.followed layer hmem i hwin) happ hp hcovers hr'
  cases hdiffer with
  | oldPlace i happ hcovers => exact hplace i happ (.inl hcovers)
  | newPlace i happ hcovers => exact hplace i happ (.inr hcovers)
  | damaged i layer s hmem hwin hcovers hdam hlands =>
      refine mem_mergeDamageRect_of hmem (fun j r r' hj hr' => ?_) h
      cases hwin.symm.trans hj
      exact damage_mergeInto (htracked.followed layer hmem i hwin) hp
        ⟨rfl, rfl, hrange.screen.1, hrange.screen.2⟩ hcovers hdam hlands hr'

theorem bounded_mergeDamageRect (hrange : d.InRange) {merged : Rect Int}
    (h : d.mergeDamageRect ⟨d.xres, d.yres, 0, 0⟩ = some merged) : Bounded merged := by
  have hstart : Bounded ⟨d.xres, d.yres, 0, 0⟩ := by
    constructor <;> simp only [INT_MAX] <;> omega
  refine Rect.foldlM_keeps (fun layer hmem r r' hr' hr => ?_) h hstart
  obtain ⟨i, -, hi⟩ := mergeStep hr'
  exact bounded_mergeInto hi (hrange.displayFrame layer hmem) (hrange.lastDst i) hr

/-- The region handed to the driver has the pixels of the merged rectangle. -/
theorem mem_updateRegion {merged : Rect Int} (hbounded : Bounded merged) (hp : p ∈ d.screen)
    (hmem : p ∈ merged) {d' : Display n} (h : d.setWindowUpdate merged = some d') :
    p ∈ d'.updateRegion := by
  simp only [Display.setWindowUpdate] at h
  split at h
  · cases h
    obtain ⟨hl, hr, ht, hb⟩ := hp
    refine ⟨hl, ?_, ht, ?_⟩
    · simpa [Display.updateRegion, area, Display.setUpdateRegion, Display.screen] using hr
    · simpa [Display.updateRegion, area, Display.setUpdateRegion, Display.screen] using hb
  · split at h
    · cases h
      obtain ⟨hl, hr, ht, hb⟩ := hmem
      have hleft := hbounded.left
      have htop := hbounded.top
      have hright := hbounded.right
      have hbottom := hbounded.bottom
      simp only [INT_MAX] at hright hbottom
      have hw : (toUInt32 (width merged) : Int) = merged.right - merged.left := by
        simp only [toUInt32, width]
        omega
      have hh : (toUInt32 (height merged) : Int) = merged.bottom - merged.top := by
        simp only [toUInt32, height]
        omega
      refine ⟨hl, ?_, ht, ?_⟩ <;>
        simp only [Display.updateRegion, area, Display.setUpdateRegion, hw, hh] <;> omega
    · cases h

/-- **The region of a partial update** holds every pixel of the screen that may differ. -/
theorem windowUpdate_covers (hrange : d.InRange) (hwhen : d.Canceled ∨ d.Tracked)
    (henabled : d.handleWindowUpdate.dpuData.enableWinUpdate = true) (hp : p ∈ d.screen)
    (hdiffer : d.MayDiffer p) : p ∈ d.handleWindowUpdate.updateRegion := by
  simp only [Display.handleWindowUpdate] at henabled ⊢
  split at henabled
  · cases henabled
  · rename_i hexceptions
    rw [if_neg hexceptions]
    split at henabled
    · cases henabled
    · rename_i merged hmerged
      have hbounded : Bounded merged := bounded_mergeDamageRect hrange hmerged
      have hmem : p ∈ merged := by
        rcases hwhen with (hexcluded | ⟨layer, hmem, hcancel⟩) | htracked
        · exact absurd hexcluded hexceptions
        · refine mem_mergeDamageRect_of (d := d) hmem (fun i r r' hi hr' => ?_) hmerged
          rcases hcancel with hnone | ⟨j, hj, hret⟩
          · simp [hnone] at hi
          · cases hj.symm.trans hi
            simp [Layer.mergeInto, hret] at hr'
        · exact mem_mergeDamageRect (d := d) hrange htracked hp hdiffer hmerged
      cases hset : (d.setUpdateRegion false 0 0 d.xres d.yres).setWindowUpdate merged with
      | none =>
          rw [hset] at henabled
          cases henabled
      | some d' => exact mem_updateRegion hbounded hp hmem hset

/-- A layer that is shown at `displayFrame` and whose damage is one rectangle. -/
def damagedLayer (displayFrame : Rect Int) (sourceCrop : Rect Rat) (damage : Rect Int) : Layer where
  m2mMPP := none
  layerBuffer := some 8
  lastLayerBuffer := some 7
  transform := 0
  exynosCompositionType := HWC2_COMPOSITION_DEVICE
  windowIndex := 0
  displayFrame := displayFrame
  sourceCrop := sourceCrop
  damageRects := [damage]

/-- A layer alone on the screen, in the same window as in the last frame. -/
def aloneOnScreen (layer : Layer) (src dst : DeconFrame) : Display 1 where
  xres := 1080
  yres := 2400
  windowUpdate := 1
  geometryChanged := 0
  cursorIndex := -1
  isVirtual := false
  exynosComposition := false
  clientComposition := false
  isYUV _ := false
  layers := [layer]
  dpuData := oneWindow { fullScreenWindow with src := src, dst := dst }
  lastDpuData := oneWindow { fullScreenWindow with src := src, dst := dst }

def unscaledFrame : Display 1 :=
  aloneOnScreen (damagedLayer ⟨10, 20, 110, 120⟩ ⟨0, 0, 100, 100⟩ ⟨5, 5, 9, 9⟩)
    ⟨0, 0, 100, 100, 100, 100⟩ ⟨10, 20, 100, 100, 1080, 2400⟩

theorem windowUpdate_covers_unscaled : (16, 27) ∈ unscaledFrame.handleWindowUpdate.updateRegion := by
  have hrange : unscaledFrame.InRange := by
    refine ⟨by decide, fun layer hmem => ?_, fun i => ?_⟩
    · cases List.mem_singleton.mp hmem
      constructor <;> decide
    · constructor <;> decide +revert
  have htracked : unscaledFrame.Tracked := by
    refine ⟨fun i _ => rfl, fun layer hmem i _ => ?_⟩
    cases List.mem_singleton.mp hmem
    have hret : canApplyWindowUpdate (unscaledFrame.lastDpuData.configs i)
        (unscaledFrame.dpuData.configs i) = 0 := by decide +kernel +revert
    have hregion : ((damagedLayer ⟨10, 20, 110, 120⟩ ⟨0, 0, 100, 100⟩
        ⟨5, 5, 9, 9⟩).getLayerRegion .byDamage).1 = .within := by decide +kernel
    refine ⟨?_, fun _ hdiffer => absurd rfl hdiffer, fun _ _ => ?_⟩
    · rintro (hmoved | hfull)
      · rw [hret] at hmoved
        exact absurd hmoved (by decide)
      · rw [hregion] at hfull
        cases hfull
    · refine ⟨rfl, rfl, ?_, ?_⟩ <;> decide +kernel +revert
  refine windowUpdate_covers hrange (.inr htracked) (by decide +kernel) (by decide +kernel) ?_
  refine .damaged 0 _ (6, 7) (List.mem_singleton.mpr rfl) (by decide) (by decide +kernel) ?_
    (by decide +kernel)
  exact .inr ⟨_, List.mem_singleton.mpr rfl, by decide +kernel⟩

/-- A layer shown at two thirds of its size: `150 / 100` is `1` in integers. -/
def scaledFrame : Display 1 :=
  aloneOnScreen (damagedLayer ⟨0, 0, 100, 100⟩ ⟨0, 0, 150, 150⟩ ⟨75, 75, 90, 90⟩)
    ⟨0, 0, 150, 150, 150, 150⟩ ⟨0, 0, 100, 100, 1080, 2400⟩

/-- Its damage at (75, 75) lands on pixel (50, 50), outside of the region that is updated. -/
theorem scaledFrame_missed :
    scaledFrame.handleWindowUpdate.dpuData.enableWinUpdate = true ∧
      (50, 50) ∈ scaledFrame.screen ∧ scaledFrame.MayDiffer (50, 50) ∧
      (50, 50) ∉ scaledFrame.handleWindowUpdate.updateRegion := by
  refine ⟨by decide +kernel, by decide +kernel, ?_, by decide +kernel⟩
  refine .damaged 0 _ (75, 75) (List.mem_singleton.mpr rfl) (by decide) (by decide +kernel) ?_
    (by decide +kernel)
  exact .inr ⟨_, List.mem_singleton.mpr rfl, by decide +kernel⟩

end Region

end ExynosHal.WindowUpdate
