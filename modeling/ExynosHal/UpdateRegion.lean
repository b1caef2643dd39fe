/-
  ExynosHal/UpdateRegion.lean
  ===========================
  **The region of a partial update lies on the screen.**

  `handleWindowUpdate` of `libhwc2.1/display/ExynosDisplay.cpp`, over the model in
  `WindowUpdate`, with the division by a window of width or height 0 in
  `windowUpdateExceptions` made visible (`tryHandleWindowUpdate`).

  Every layer adds rectangles to the merged rectangle (`added`): its display frame, the
  last place of its window, its damage.  The region is on the screen when they all are
  and they are not all empty.
-/
import ExynosHal.WindowUpdate

namespace ExynosHal.UpdateRegion

open ExynosHal.WindowConfig (WinConfig DeconFrame)
open ExynosHal.WindowUpdate

/-! ### The divisions -/

/-- A YUV window with an odd edge. -/
def oddYuv (isYUV : Nat → Bool) (config : WinConfig) : Bool :=
  isYUV config.format &&
    (config.src.x % 2 != 0 || config.src.y % 2 != 0 ||
      config.src.w % 2 != 0 || config.src.h % 2 != 0 ||
      config.dst.x % 2 != 0 || config.dst.y % 2 != 0 ||
      config.dst.w % 2 != 0 || config.dst.h % 2 != 0)

/-- The checks of one window; nothing for a division by zero. -/
def windowException (isYUV : Nat → Bool) (lastConfig config : WinConfig) : Option Bool :=
  if config.planeAlpha ≠ lastConfig.planeAlpha then some true
  else if oddYuv isYUV config then some true
  else if config.state = .buffer then
    if config.dst.w = 0 then none
    else if config.src.w / config.dst.w ≠ 1 then some true
    else if config.dst.h = 0 then none
    else some (config.src.h / config.dst.h != 1)
  else some false

/-- A loop that ends with the first exception. -/
def firstException {β : Type} (check : β → Option Bool) : List β → Option Bool
  | [] => some false
  | b :: l => (check b).bind fun exception => if exception then some true else firstException check l

section Frame

variable {n : Nat} (d : Display n)

/-- The checks of `windowUpdateExceptions` before the windows. -/
def frameException : Bool :=
  d.dpuData.enableReadback || d.windowUpdate != 1 || d.geometryChanged != 0 ||
    (decide (0 ≤ d.cursorIndex) && (d.layers[d.cursorIndex.toNat]?).any fun layer =>
      layer.exynosCompositionType == HWC2_COMPOSITION_DEVICE) ||
    d.isVirtual || d.exynosComposition || d.clientComposition ||
    (d.layers.any fun layer =>
      layer.m2mMPP.isSome || layer.layerBuffer.isNone || layer.transform != 0)

def tryWindowUpdateExceptions : Option Bool :=
  if frameException d then some true
  else
    firstException (fun i => windowException d.isYUV (d.lastDpuData.configs i) (d.dpuData.configs i))
      (List.finRange n)

/-- `handleWindowUpdate`; nothing for a division by zero. -/
def tryHandleWindowUpdate : Option (Display n) :=
  let full := d.setUpdateRegion false 0 0 d.xres d.yres
  (tryWindowUpdateExceptions full).map fun exception =>
    if exception then full
    else
      match full.mergeDamageRect ⟨d.xres, d.yres, 0, 0⟩ with
      | none => full
      | some mergedRect => (full.setWindowUpdate mergedRect).getD full

/-- The checks of one window when nothing is divided by zero. -/
def excluded (i : Fin n) : Bool :=
  let config := d.dpuData.configs i
  let lastConfig := d.lastDpuData.configs i
  config.planeAlpha != lastConfig.planeAlpha || oddYuv d.isYUV config ||
    (config.state == .buffer &&
      (config.src.w / config.dst.w != 1 || config.src.h / config.dst.h != 1))

/-- A buffer window of no width, or of no height and the right width, that the checks before
    the division let through. -/
def ZeroSized (i : Fin n) : Prop :=
  let config := d.dpuData.configs i
  config.planeAlpha = (d.lastDpuData.configs i).planeAlpha ∧ oddYuv d.isYUV config = false ∧
    config.state = .buffer ∧
    (config.dst.w = 0 ∨ config.src.w / config.dst.w = 1 ∧ config.dst.h = 0)

/-- The loop over the windows comes to one of size zero. -/
def DividesByZero : Prop :=
  frameException d = false ∧ ∃ i, ZeroSized d i ∧ ∀ j < i, excluded d j = false

end Frame

section Divisions

variable {n : Nat} {d : Display n}

theorem windowUpdateExceptions_eq :
    d.windowUpdateExceptions =
      (frameException d || (List.finRange n).any fun i => excluded d i) := rfl

/-- The check of a window gives up at a size of zero and agrees with `excluded` elsewhere. -/
theorem windowException_cases (i : Fin n) :
    (ZeroSized d i ∧
        windowException d.isYUV (d.lastDpuData.configs i) (d.dpuData.configs i) = none) ∨
      (¬ ZeroSized d i ∧
        windowException d.isYUV (d.lastDpuData.configs i) (d.dpuData.configs i) =
          some (excluded d i)) := by
  unfold windowException ZeroSized excluded
  by_cases halpha : (d.dpuData.configs i).planeAlpha = (d.lastDpuData.configs i).planeAlpha
  · cases hodd : oddYuv d.isYUV (d.dpuData.configs i)
    · by_cases hstate : (d.dpuData.configs i).state = .buffer
      · by_cases hw : (d.dpuData.configs i).dst.w = 0
        · simp [halpha, hodd, hstate, hw]
        · by_cases hratio : (d.dpuData.configs i).src.w / (d.dpuData.configs i).dst.w = 1
          · by_cases hh : (d.dpuData.configs i).dst.h = 0
            · simp [halpha, hodd, hstate, hw, hratio, hh]
            · simp [halpha, hodd, hstate, hw, hratio, hh]
          · simp [halpha, hodd, hstate, hw, hratio]
      · simp [halpha, hodd, hstate]
    · simp [halpha, hodd]
  · simp [halpha]

theorem firstException_eq_none {β : Type} {check : β → Option Bool} {l : List β} :
    firstException check l = none ↔
      ∃ before b after, l = before ++ b :: after ∧ check b = none ∧
        ∀ c ∈ before, check c = some false := by
  induction l with
  | nil => simp [firstException]
  | cons c l ih =>
      cases hc : check c with
      | none =>
          simp only [firstException, hc, Option.bind_none, true_iff]
          exact ⟨[], c, l, rfl, hc, fun _ h => nomatch h⟩
      | some exception =>
          cases exception with
          | true =>
              simp only [firstException, hc, Option.bind_some, if_true, reduceCtorEq, false_iff]
              rintro ⟨before, b, after, heq, hb, hbefore⟩
              cases before with
              | nil =>
                  cases heq
                  rw [hb] at hc
                  cases hc
              | cons c' before =>
                  cases heq
                  rw [hbefore c List.mem_cons_self] at hc
                  cases hc
          | false =>
              simp only [firstException, hc, Option.bind_some, Bool.false_eq_true, if_false]
              rw [ih]
              constructor
              · rintro ⟨before, b, after, rfl, hb, hbefore⟩
                exact ⟨c :: before, b, after, rfl, hb, List.forall_mem_cons.mpr ⟨hc, hbefore⟩⟩
              · rintro ⟨before, b, after, heq, hb, hbefore⟩
                cases before with
                | nil =>
                    cases heq
                    rw [hb] at hc
                    cases hc
                | cons c' before =>
                    cases heq
                    exact ⟨before, b, after, rfl, hb, fun x hx => hbefore x (List.mem_cons_of_mem _ hx)⟩

theorem firstException_eq_any {β : Type} {check : β → Option Bool} {bad : β → Bool} {l : List β}
    {exception : Bool} (hcheck : ∀ b, check b = none ∨ check b = some (bad b))
    (h : firstException check l = some exception) : l.any bad = exception := by
  induction l with
  | nil => exact Option.some.inj h
  | cons b l ih =>
      rcases hcheck b with hb | hb
      · simp [firstException, hb] at h
      · cases hbad : bad b with
        | true =>
            simp only [firstException, hb, hbad, Option.bind_some, if_true] at h
            rw [List.any_cons, hbad, Bool.true_or]
            exact Option.some.inj h
        | false =>
            simp only [firstException, hb, hbad, Option.bind_some, Bool.false_eq_true,
              if_false] at h
            rw [List.any_cons, hbad, Bool.false_or]
            exact ih h

end Divisions

section Loop

variable {n : Nat} {d : Display n}

/-- The windows before a given one. -/
theorem mem_before_iff {before after : List (Fin n)} {i : Fin n}
    (heq : List.finRange n = before ++ i :: after) (j : Fin n) : j ∈ before ↔ j < i := by
  have hsorted : (before ++ i :: after).Pairwise (· < ·) := by
    rw [← heq]
    exact List.pairwise_lt_finRange n
  obtain ⟨-, hafter, hlt⟩ := List.pairwise_append.mp hsorted
  constructor
  · intro hj
    exact hlt j hj i List.mem_cons_self
  · intro hj
    have hmem : j ∈ before ++ i :: after := by
      rw [← heq]
      exact List.mem_finRange j
    rcases List.mem_append.mp hmem with hbefore | hrest
    · exact hbefore
    · rcases List.mem_cons.mp hrest with rfl | hrest
      · exact absurd hj (Nat.lt_irrefl _)
      · exact absurd hj (Nat.lt_asymm ((List.pairwise_cons.mp hafter).1 j hrest))

theorem windowException_eq_none {i : Fin n} :
    windowException d.isYUV (d.lastDpuData.configs i) (d.dpuData.configs i) = none ↔
      ZeroSized d i := by
  rcases windowException_cases (d := d) i with ⟨hzero, hnone⟩ | ⟨hzero, hsome⟩
  · exact iff_of_true hnone hzero
  · rw [hsome]
    exact iff_of_false nofun hzero

/-- A window that is not excluded has passed its divisions. -/
theorem windowException_eq_false {i : Fin n} :
    windowException d.isYUV (d.lastDpuData.configs i) (d.dpuData.configs i) = some false ↔
      excluded d i = false := by
  rcases windowException_cases (d := d) i with ⟨⟨-, -, hstate, hsize⟩, hnone⟩ | ⟨-, hsome⟩
  · rw [hnone]
    apply iff_of_false nofun
    unfold excluded
    rcases hsize with hw | ⟨-, hh⟩
    · simp [hstate, hw]
    · simp [hstate, hh]
  · rw [hsome, Option.some.injEq]

theorem tryWindowUpdateExceptions_eq_none :
    tryWindowUpdateExceptions d = none ↔ DividesByZero d := by
  unfold tryWindowUpdateExceptions DividesByZero
  cases frameException d with
  | true => simp
  | false =>
      simp only [Bool.false_eq_true, if_false, true_and]
      rw [firstException_eq_none]
      constructor
      · rintro ⟨before, i, after, heq, hi, hbefore⟩
        refine ⟨i, windowException_eq_none.mp hi, ?_⟩
        intro j hj
        exact windowException_eq_false.mp (hbefore j ((mem_before_iff heq j).mpr hj))
      · rintro ⟨i, hzero, hall⟩
        obtain ⟨before, after, heq⟩ := List.append_of_mem (List.mem_finRange i)
        refine ⟨before, i, after, heq, windowException_eq_none.mpr hzero, ?_⟩
        intro j hj
        exact windowException_eq_false.mpr (hall j ((mem_before_iff heq j).mp hj))

/-- Where nothing is divided by zero the function is the one of `WindowUpdate`. -/
theorem tryHandleWindowUpdate_eq (h : ¬ DividesByZero d) :
    tryHandleWindowUpdate d = some d.handleWindowUpdate := by
  cases hexc : tryWindowUpdateExceptions d with
  | none => exact absurd (tryWindowUpdateExceptions_eq_none.mp hexc) h
  | some exception =>
      have hsame : d.windowUpdateExceptions = exception := by
        rw [windowUpdateExceptions_eq]
        unfold tryWindowUpdateExceptions at hexc
        cases hframe : frameException d with
        | true =>
            rw [hframe, if_pos rfl] at hexc
            exact Option.some.inj hexc
        | false =>
            rw [hframe] at hexc
            simp only [Bool.false_eq_true, if_false] at hexc
            rw [Bool.false_or]
            refine firstException_eq_any (fun i => ?_) hexc
            rcases windowException_cases (d := d) i with ⟨-, hnone⟩ | ⟨-, hsome⟩
            · exact Or.inl hnone
            · exact Or.inr hsome
      have htry : tryWindowUpdateExceptions (d.setUpdateRegion false 0 0 d.xres d.yres) =
          some exception := hexc
      have hfull : (d.setUpdateRegion false 0 0 d.xres d.yres).windowUpdateExceptions =
          exception := hsame
      unfold tryHandleWindowUpdate Display.handleWindowUpdate
      dsimp only
      rw [htry, hfull]
      rfl

theorem tryHandleWindowUpdate_eq_none (h : DividesByZero d) : tryHandleWindowUpdate d = none := by
  have hnone : tryWindowUpdateExceptions (d.setUpdateRegion false 0 0 d.xres d.yres) = none :=
    tryWindowUpdateExceptions_eq_none.mpr h
  unfold tryHandleWindowUpdate
  dsimp only
  rw [hnone]
  rfl

end Loop

/-! ### What the layers add -/

/-- The rectangles that a layer adds to the merged rectangle. -/
def Layer.added (layer : Layer) (lastConfig newConfig : WinConfig) : List (Rect Int) :=
  if canApplyWindowUpdate lastConfig newConfig > 0 then [layer.displayFrame, area lastConfig.dst]
  else if layer.damageRects.length = 0 then [layer.displayFrame]
  else if layer.damageRects = [⟨0, 0, 0, 0⟩] then []
  else (layer.damageRects.mapM layer.damageOnScreen).getD [layer.displayFrame]

/-- The rectangles that all layers add. -/
def added {n : Nat} (d : Display n) : List (Rect Int) :=
  d.layers.flatMap fun layer =>
    match layer.window n with
    | some i => Layer.added layer (d.lastDpuData.configs i) (d.dpuData.configs i)
    | none => []

/-- The rectangle that `handleWindowUpdate` starts with. -/
def turnedScreen {n : Nat} (d : Display n) : Rect Int := ⟨d.xres, d.yres, 0, 0⟩

/-- A rectangle that was hulled with the turned-around screen. -/
structure Wide (r : Rect Int) : Prop where
  left : r.left ≤ INT_MAX
  top : r.top ≤ INT_MAX
  right : 0 ≤ r.right
  bottom : 0 ≤ r.bottom

section Adding

variable {layer : Layer} {last new : WinConfig} {r : Rect Int}

theorem Wide.hull (h : Wide r) (s : Rect Int) : Wide (r.hull s) where
  left := (min_le_left _ _).trans h.left
  top := (min_le_left _ _).trans h.top
  right := h.right.trans (le_max_left _ _)
  bottom := h.bottom.trans (le_max_left _ _)

theorem Wide.foldl (h : Wide r) (l : List (Rect Int)) : Wide (l.foldl Rect.hull r) := by
  induction l generalizing r with
  | nil => exact h
  | cons s l ih => exact ih (h.hull s)

/-- The empty area adds nothing. -/
theorem Wide.hull_noArea (h : Wide r) : r.hull noArea = r := by
  obtain ⟨hl, ht, hr, hb⟩ := h
  unfold Rect.hull noArea
  rw [min_eq_left hl, min_eq_left ht, max_eq_left hr, max_eq_left hb]

/-- A loop that translates and collects is a translation and then a collection. -/
theorem foldlM_map {f : Rect Int → Option (Rect Int)} {l : List (Rect Int)} {r : Rect Int} :
    l.foldlM (fun area rect => (f rect).map (expand area)) r =
      (l.mapM f).map fun rects => rects.foldl Rect.hull r := by
  induction l generalizing r with
  | nil => rfl
  | cons s l ih =>
      rw [List.foldlM_cons, List.mapM_cons]
      cases hs : f s with
      | none => rfl
      | some t =>
          cases hl : l.mapM f with
          | none =>
              have := ih (r := expand r t)
              rw [hl] at this
              exact this
          | some rects =>
              have := ih (r := expand r t)
              rw [hl] at this
              exact this

/-- A layer that does not cancel the update adds its rectangles. -/
theorem mergeInto_eq (hret : 0 ≤ canApplyWindowUpdate last new) (h : Wide r) :
    layer.mergeInto last new r = some ((Layer.added layer last new).foldl Rect.hull r) := by
  unfold Layer.mergeInto Layer.added
  rw [if_neg (Int.not_lt.mpr hret)]
  by_cases hpos : canApplyWindowUpdate last new > 0
  · rw [if_pos hpos, if_pos hpos]
    rfl
  · rw [if_neg hpos, if_neg hpos]
    unfold Layer.getLayerRegion
    by_cases hlen : layer.damageRects.length = 0
    · rw [if_pos hlen, if_pos hlen]
      rfl
    · rw [if_neg hlen, if_neg hlen]
      by_cases hskip : layer.damageRects = [⟨0, 0, 0, 0⟩]
      · rw [if_pos hskip, if_pos hskip]
        rfl
      · rw [if_neg hskip, if_neg hskip]
        dsimp only
        rw [foldlM_map]
        cases layer.damageRects.mapM layer.damageOnScreen with
        | none => rfl
        | some rects =>
            apply congrArg some
            show r.hull (rects.foldl Rect.hull noArea) = rects.foldl Rect.hull r
            rw [← Rect.foldl_hull, h.hull_noArea]

end Adding

section Merging

variable {n : Nat} {d : Display n}

/-- The loop over the layers, as long as none cancels the update. -/
theorem foldlM_mergeInto {l : List Layer}
    (hl : ∀ layer ∈ l, ∃ i, layer.window n = some i ∧
      0 ≤ canApplyWindowUpdate (d.lastDpuData.configs i) (d.dpuData.configs i))
    {r : Rect Int} (hr : Wide r) :
    l.foldlM (fun merged layer => (layer.window n).bind fun i =>
        layer.mergeInto (d.lastDpuData.configs i) (d.dpuData.configs i) merged) r =
      some ((l.flatMap fun layer =>
        match layer.window n with
        | some i => Layer.added layer (d.lastDpuData.configs i) (d.dpuData.configs i)
        | none => []).foldl Rect.hull r) := by
  induction l generalizing r with
  | nil => rfl
  | cons layer l ih =>
      obtain ⟨i, hi, hret⟩ := hl layer List.mem_cons_self
      rw [List.foldlM_cons, List.flatMap_cons, List.foldl_append, hi]
      dsimp only [Option.bind_some]
      rw [mergeInto_eq hret hr]
      exact ih (fun other hother => hl other (List.mem_cons_of_mem _ hother)) (hr.foldl _)

theorem wide_turned (hrange : d.InRange) : Wide (turnedScreen d) :=
  ⟨hrange.screen.1, hrange.screen.2, Int.le_refl 0, Int.le_refl 0⟩

theorem mergeDamageRect_eq (hrange : d.InRange) (h : ¬ d.Canceled) :
    d.mergeDamageRect (turnedScreen d) = some ((added d).foldl Rect.hull (turnedScreen d)) := by
  apply foldlM_mergeInto
  · intro layer hlayer
    cases hi : layer.window n with
    | none => exact absurd (Or.inr ⟨layer, hlayer, Or.inl hi⟩) h
    | some i =>
        refine ⟨i, rfl, Int.not_lt.mp fun hneg => h ?_⟩
        exact Or.inr ⟨layer, hlayer, Or.inr ⟨i, hi, hneg⟩⟩
  · exact wide_turned hrange

/-- A layer that cancels the update leaves no merged rectangle. -/
theorem mergeDamageRect_canceled {layer : Layer} (hlayer : layer ∈ d.layers)
    (h : layer.window n = none ∨ ∃ i, layer.window n = some i ∧
      canApplyWindowUpdate (d.lastDpuData.configs i) (d.dpuData.configs i) < 0)
    (start : Rect Int) : d.mergeDamageRect start = none := by
  cases hmerged : d.mergeDamageRect start with
  | none => rfl
  | some merged =>
      -- every point would be in the merged rectangle
      have hmem : ((merged.right, 0) : Int × Int) ∈ merged := by
        refine mem_mergeDamageRect_of hlayer (fun i r r' hi hr' => ?_) hmerged
        rcases h with hnone | ⟨j, hj, hneg⟩
        · rw [hnone] at hi
          cases hi
        · cases hj.symm.trans hi
          simp [Layer.mergeInto, hneg] at hr'
      exact absurd hmem.2.1 (Int.lt_irrefl _)

theorem handleWindowUpdate_canceled (h : d.Canceled) :
    d.handleWindowUpdate = d.setUpdateRegion false 0 0 d.xres d.yres := by
  unfold Display.handleWindowUpdate
  dsimp only
  split
  · rfl
  · rename_i hexceptions
    rcases h with hexc | ⟨layer, hlayer, hcancel⟩
    · exact absurd hexc hexceptions
    · have hnone : (d.setUpdateRegion false 0 0 d.xres d.yres).mergeDamageRect
          ⟨d.xres, d.yres, 0, 0⟩ = none := mergeDamageRect_canceled hlayer hcancel _
      rw [hnone]

theorem handleWindowUpdate_merged (hrange : d.InRange) (h : ¬ d.Canceled) :
    d.handleWindowUpdate =
      ((d.setUpdateRegion false 0 0 d.xres d.yres).setWindowUpdate
        ((added d).foldl Rect.hull (turnedScreen d))).getD
          (d.setUpdateRegion false 0 0 d.xres d.yres) := by
  have hexceptions : ¬ (d.setUpdateRegion false 0 0 d.xres d.yres).windowUpdateExceptions = true :=
    fun hexc => h (Or.inl hexc)
  have hsame : (d.setUpdateRegion false 0 0 d.xres d.yres).mergeDamageRect
      ⟨d.xres, d.yres, 0, 0⟩ = d.mergeDamageRect (turnedScreen d) := rfl
  unfold Display.handleWindowUpdate
  dsimp only
  rw [if_neg hexceptions, hsame, mergeDamageRect_eq hrange h]

end Merging

/-! ### One side of the region -/

/-- No rectangle leaves the screen. -/
def Inside (res : Nat) (sides : List (Int × Int)) : Prop := ∀ s ∈ sides, 0 ≤ s.1 ∧ s.2 ≤ res

/-- There is something between the first and the last edge. -/
def Spans (sides : List (Int × Int)) : Prop := ∃ s ∈ sides, ∃ t ∈ sides, s.1 < t.2

/-- All rectangles begin behind the screen, or all end before it. -/
def Misses (res : Nat) (sides : List (Int × Int)) : Prop :=
  (∀ s ∈ sides, (res : Int) ≤ s.1) ∨ ∀ s ∈ sides, s.2 ≤ 0

/-- The rectangles reach from one edge of the screen to the other and not further. -/
def Fills (res : Nat) (sides : List (Int × Int)) : Prop :=
  Inside res sides ∧ (res = 0 ∨ (∃ s ∈ sides, s.1 ≤ 0) ∧ ∃ s ∈ sides, (res : Int) ≤ s.2)

/-- `first` and `last` are the edges of the bounding box of some sides, hulled with the
    turned-around screen. -/
structure Hulls (res : Nat) (sides : List (Int × Int)) (first last : Int) : Prop where
  le_first : ∀ c, c ≤ first ↔ c ≤ res ∧ ∀ s ∈ sides, c ≤ s.1
  last_le : ∀ c, last ≤ c ↔ 0 ≤ c ∧ ∀ s ∈ sides, s.2 ≤ c

namespace Hulls

variable {res : Nat} {sides : List (Int × Int)} {first last : Int}

theorem inside (h : Hulls res sides first last) : (0 ≤ first ∧ last ≤ res) ↔ Inside res sides := by
  rw [h.le_first, h.last_le]
  constructor
  · rintro ⟨⟨-, hfirst⟩, -, hlast⟩ s hs
    exact ⟨hfirst s hs, hlast s hs⟩
  · intro hin
    exact ⟨⟨by omega, fun s hs => (hin s hs).1⟩, by omega, fun s hs => (hin s hs).2⟩

theorem first_le (h : Hulls res sides first last) : first ≤ res := ((h.le_first first).mp le_rfl).1

theorem le_last (h : Hulls res sides first last) : 0 ≤ last := ((h.last_le last).mp le_rfl).1

/-- The first edge is before `c` because of the screen or because of a rectangle. -/
theorem first_lt (h : Hulls res sides first last) (c : Int) :
    first < c ↔ (res : Int) < c ∨ ∃ s ∈ sides, s.1 < c := by
  rw [← Int.not_le, h.le_first]
  simp only [not_and_or, not_forall, Int.not_le, exists_prop]

theorem lt_last (h : Hulls res sides first last) (c : Int) :
    c < last ↔ c < 0 ∨ ∃ s ∈ sides, c < s.2 := by
  rw [← Int.not_le, h.last_le]
  simp only [not_and_or, not_forall, Int.not_le, exists_prop]

theorem spans (h : Hulls res sides first last) (hin : Inside res sides) :
    first < last ↔ Spans sides := by
  constructor
  · intro hlt
    obtain ⟨h0, hres⟩ := h.inside.mpr hin
    rcases (h.first_lt last).mp hlt with hout | ⟨s, hs, hslt⟩
    · omega
    · rcases (h.lt_last s.1).mp hslt with hneg | ⟨t, ht, htlt⟩
      · have := (hin s hs).1
        omega
      · exact ⟨s, hs, t, ht, htlt⟩
  · rintro ⟨s, hs, t, ht, hlt⟩
    have hfirst := ((h.le_first first).mp le_rfl).2 s hs
    have hlast := ((h.last_le last).mp le_rfl).2 t ht
    omega

theorem misses (h : Hulls res sides first last) : (first = res ∨ last = 0) ↔ Misses res sides := by
  have hfirst : first = res ↔ (res : Int) ≤ first := by
    have := h.first_le
    omega
  have hlast : last = 0 ↔ last ≤ 0 := by
    have := h.le_last
    omega
  rw [hfirst, hlast, h.le_first, h.last_le]
  unfold Misses
  simp only [le_refl, true_and]

theorem fills (h : Hulls res sides first last) : (first = 0 ∧ last = res) ↔ Fills res sides := by
  have hres : (res : Int) ≤ 0 ↔ res = 0 := by omega
  have hfirst : first ≤ 0 ↔ res = 0 ∨ ∃ s ∈ sides, s.1 ≤ 0 := by
    have hlt := h.first_lt (0 + 1)
    simp only [Int.lt_add_one_iff] at hlt
    rw [hlt, hres]
  have hlast : (res : Int) ≤ last ↔ res = 0 ∨ ∃ s ∈ sides, (res : Int) ≤ s.2 := by
    have hlt := h.lt_last (res - 1)
    simp only [Int.sub_one_lt_iff] at hlt
    rw [hlt, hres]
  unfold Fills
  rw [← h.inside, or_and_left, ← hfirst, ← hlast]
  omega

end Hulls

/-! ### The region -/

section OnScreen

variable {n : Nat} (d : Display n)

def sidesX : List (Int × Int) := (added d).map fun r => (r.left, r.right)

def sidesY : List (Int × Int) := (added d).map fun r => (r.top, r.bottom)

/-- The region handed to the driver has pixels and lies on the screen. -/
structure RegionOnScreen : Prop where
  nonempty : 0 < d.dpuData.winUpdateRegion.w ∧ 0 < d.dpuData.winUpdateRegion.h
  left : 0 ≤ d.dpuData.winUpdateRegion.x
  top : 0 ≤ d.dpuData.winUpdateRegion.y
  right : d.dpuData.winUpdateRegion.x + d.dpuData.winUpdateRegion.w ≤ d.xres
  bottom : d.dpuData.winUpdateRegion.y + d.dpuData.winUpdateRegion.h ≤ d.yres

/-- The update comes to its end, and an enabled update has a region on the screen. -/
def UpdateSafe : Prop :=
  ∃ d', tryHandleWindowUpdate d = some d' ∧
    (d'.dpuData.enableWinUpdate = true → RegionOnScreen d')

/-- The merged rectangle is not taken for a region. -/
def Refused : Prop :=
  ¬ (Fills d.xres (sidesX d) ∧ Fills d.yres (sidesY d)) ∧
    (Misses d.xres (sidesX d) ∨ Misses d.yres (sidesY d))

/-- What the layers add is on the screen, and something of it has pixels. -/
structure AddedOnScreen : Prop where
  insideX : Inside d.xres (sidesX d)
  insideY : Inside d.yres (sidesY d)
  spansX : Spans (sidesX d)
  spansY : Spans (sidesY d)

variable {d}

theorem hulls_x : Hulls d.xres (sidesX d) ((added d).foldl Rect.hull (turnedScreen d)).left
    ((added d).foldl Rect.hull (turnedScreen d)).right where
  le_first c := by
    rw [Rect.le_foldl_edge (e := Rect.left) (fun _ _ => rfl)]
    simp [sidesX, turnedScreen]
  last_le c := by
    rw [Rect.foldl_edge_le (e := Rect.right) (fun _ _ => rfl)]
    simp [sidesX, turnedScreen]

theorem hulls_y : Hulls d.yres (sidesY d) ((added d).foldl Rect.hull (turnedScreen d)).top
    ((added d).foldl Rect.hull (turnedScreen d)).bottom where
  le_first c := by
    rw [Rect.le_foldl_edge (e := Rect.top) (fun _ _ => rfl)]
    simp [sidesY, turnedScreen]
  last_le c := by
    rw [Rect.foldl_edge_le (e := Rect.bottom) (fun _ _ => rfl)]
    simp [sidesY, turnedScreen]

/-- A side of the region, stored as an unsigned number, is on the screen. -/
theorem side_on_screen {res : Nat} {first last : Int} (hres : (res : Int) ≤ INT_MAX)
    (hfirst : first ≤ res) (hlast : 0 ≤ last) (hmax : last ≤ INT_MAX) :
    (0 ≤ first ∧ 0 < toUInt32 (last - first) ∧ first + toUInt32 (last - first) ≤ res) ↔
      (0 ≤ first ∧ last ≤ res) ∧ first < last := by
  unfold toUInt32
  unfold INT_MAX at hres hmax
  omega

/-- What `setWindowUpdate` stores. -/
theorem setWindowUpdate_cases (d : Display n) (merged : Rect Int) :
    (merged.left = 0 ∧ merged.right = d.xres ∧ merged.top = 0 ∧ merged.bottom = d.yres ∧
        d.setWindowUpdate merged = some (d.setUpdateRegion true 0 0 d.xres d.yres)) ∨
      (¬ ((merged.left = 0 ∧ merged.right = d.xres) ∧ merged.top = 0 ∧ merged.bottom = d.yres) ∧
        ((merged.left = d.xres ∨ merged.right = 0) ∨ merged.top = d.yres ∨ merged.bottom = 0) ∧
        d.setWindowUpdate merged = none) ∨
      (¬ ((merged.left = d.xres ∨ merged.right = 0) ∨ merged.top = d.yres ∨ merged.bottom = 0) ∧
        d.setWindowUpdate merged = some (d.setUpdateRegion true merged.left merged.top
          (toUInt32 (width merged)) (toUInt32 (height merged)))) := by
  unfold Display.setWindowUpdate
  split
  · rename_i hfull
    exact Or.inl ⟨hfull.1, hfull.2.1, hfull.2.2.1, hfull.2.2.2, rfl⟩
  · rename_i hfull
    split
    · rename_i htaken
      right
      right
      refine ⟨?_, rfl⟩
      rintro ((h | h) | h | h)
      · exact htaken.1 h
      · exact htaken.2.1 h
      · exact htaken.2.2.1 h
      · exact htaken.2.2.2 h
    · rename_i htaken
      right
      left
      refine ⟨fun h => hfull ⟨h.1.1, h.1.2, h.2.1, h.2.2⟩, ?_, rfl⟩
      apply Decidable.byContradiction
      intro hno
      simp only [not_or] at hno
      exact htaken ⟨hno.1.1, hno.1.2, hno.2.1, hno.2.2⟩

end OnScreen

section Safe

variable {n : Nat} {d : Display n}

/-- The merged rectangle as a region. -/
theorem stored_onScreen_iff (hrange : d.InRange) (h : ¬ d.Canceled) :
    RegionOnScreen ((d.setUpdateRegion false 0 0 d.xres d.yres).setUpdateRegion true
        ((added d).foldl Rect.hull (turnedScreen d)).left
        ((added d).foldl Rect.hull (turnedScreen d)).top
        (toUInt32 (width ((added d).foldl Rect.hull (turnedScreen d))))
        (toUInt32 (height ((added d).foldl Rect.hull (turnedScreen d))))) ↔
      AddedOnScreen d := by
  have hbounded := bounded_mergeDamageRect hrange (mergeDamageRect_eq hrange h)
  have hx := side_on_screen hrange.screen.1 (hulls_x (d := d)).first_le hulls_x.le_last
    hbounded.right
  have hy := side_on_screen hrange.screen.2 (hulls_y (d := d)).first_le hulls_y.le_last
    hbounded.bottom
  rw [hulls_x.inside] at hx
  rw [hulls_y.inside] at hy
  constructor
  · rintro ⟨⟨hw, hh⟩, hleft, htop, hright, hbottom⟩
    obtain ⟨hinX, hltX⟩ := hx.mp ⟨hleft, hw, hright⟩
    obtain ⟨hinY, hltY⟩ := hy.mp ⟨htop, hh, hbottom⟩
    exact ⟨hinX, hinY, (hulls_x.spans hinX).mp hltX, (hulls_y.spans hinY).mp hltY⟩
  · rintro ⟨hinX, hinY, hspansX, hspansY⟩
    obtain ⟨hleft, hw, hright⟩ := hx.mpr ⟨hinX, (hulls_x.spans hinX).mpr hspansX⟩
    obtain ⟨htop, hh, hbottom⟩ := hy.mpr ⟨hinY, (hulls_y.spans hinY).mpr hspansY⟩
    exact ⟨⟨hw, hh⟩, hleft, htop, hright, hbottom⟩

/-- The screen as a region, stored for a merged rectangle that is the screen. -/
theorem stored_full (hx : (d.xres : Int) ≤ INT_MAX) (hy : (d.yres : Int) ≤ INT_MAX)
    {merged : Rect Int} (hleft : merged.left = 0)
    (hright : merged.right = d.xres) (htop : merged.top = 0) (hbottom : merged.bottom = d.yres) :
    d.setUpdateRegion true 0 0 d.xres d.yres =
      d.setUpdateRegion true merged.left merged.top (toUInt32 (width merged))
        (toUInt32 (height merged)) := by
  have hw : toUInt32 (width merged) = d.xres := by
    unfold toUInt32 width
    unfold INT_MAX at hx
    omega
  have hh : toUInt32 (height merged) = d.yres := by
    unfold toUInt32 height
    unfold INT_MAX at hy
    omega
  rw [hw, hh, hleft, htop]

/-- An update that nothing cancels is refused or has the merged rectangle as its region. -/
theorem merged_safe_iff (hrange : d.InRange) (h : ¬ d.Canceled) :
    (d.handleWindowUpdate.dpuData.enableWinUpdate = true → RegionOnScreen d.handleWindowUpdate) ↔
      Refused d ∨ AddedOnScreen d := by
  have hstored := stored_onScreen_iff hrange h
  have hx := hulls_x (d := d)
  have hy := hulls_y (d := d)
  have hrefused : Refused d ↔ _ ∧ _ := Iff.rfl
  rw [← hx.fills, ← hy.fills, ← hx.misses, ← hy.misses] at hrefused
  rw [handleWindowUpdate_merged hrange h]
  rcases setWindowUpdate_cases (d.setUpdateRegion false 0 0 d.xres d.yres)
      ((added d).foldl Rect.hull (turnedScreen d)) with
    ⟨hleft, hright, htop, hbottom, hset⟩ | ⟨hfull, hmiss, hset⟩ | ⟨hmiss, hset⟩
  · have hno : ¬ Refused d := fun hr => (hrefused.mp hr).1 ⟨⟨hleft, hright⟩, htop, hbottom⟩
    have hsame := stored_full (d := d.setUpdateRegion false 0 0 d.xres d.yres) hrange.screen.1
      hrange.screen.2 hleft hright htop hbottom
    rw [hset, Option.getD_some, or_iff_right hno, ← hstored, hsame]
    exact ⟨fun hsafe => hsafe rfl, fun hon _ => hon⟩
  · rw [hset, Option.getD_none]
    exact iff_of_true (fun henabled => nomatch henabled) (Or.inl (hrefused.mpr ⟨hfull, hmiss⟩))
  · have hno : ¬ Refused d := fun hr => hmiss (hrefused.mp hr).2
    rw [hset, Option.getD_some, or_iff_right hno, ← hstored]
    exact ⟨fun hsafe => hsafe rfl, fun hon _ => hon⟩

/-- **The region of a partial update.**  The update divides by no zero and an enabled update
    has a region with pixels on the screen, if and only if the loop over the windows comes to
    none of size zero, and the update is cancelled or refused or what the layers add is on
    the screen. -/
theorem updateRegion_safe (hrange : d.InRange) :
    UpdateSafe d ↔ ¬ DividesByZero d ∧ (d.Canceled ∨ Refused d ∨ AddedOnScreen d) := by
  by_cases hzero : DividesByZero d
  · apply iff_of_false
    · rintro ⟨d', hsome, -⟩
      rw [tryHandleWindowUpdate_eq_none hzero] at hsome
      cases hsome
    · exact fun h => h.1 hzero
  · have hsafe : UpdateSafe d ↔
        (d.handleWindowUpdate.dpuData.enableWinUpdate = true →
          RegionOnScreen d.handleWindowUpdate) := by
      unfold UpdateSafe
      rw [tryHandleWindowUpdate_eq hzero]
      constructor
      · rintro ⟨d', hsome, hon⟩
        rw [Option.some.inj hsome]
        exact hon
      · intro hon
        exact ⟨_, rfl, hon⟩
    rw [hsafe]
    by_cases hcanceled : d.Canceled
    · rw [handleWindowUpdate_canceled hcanceled]
      exact iff_of_true (fun henabled => nomatch henabled) ⟨hzero, Or.inl hcanceled⟩
    · rw [merged_safe_iff hrange hcanceled, and_iff_right hzero, or_iff_right hcanceled]

end Safe

/-! ### Frames of one layer -/

/-- A layer whose damage is a hundred pixels on the screen. -/
theorem updateRegion_safe_inner :
    UpdateSafe unscaledFrame ↔ ¬ DividesByZero unscaledFrame ∧
      (unscaledFrame.Canceled ∨ Refused unscaledFrame ∨ AddedOnScreen unscaledFrame) :=
  updateRegion_safe
    { screen := by decide
      displayFrame := by
        intro layer hlayer
        obtain rfl := List.mem_singleton.mp hlayer
        exact ⟨by decide, by decide, by decide, by decide⟩
      lastDst := by
        intro i
        constructor <;> decide +revert }

/-- A layer of which 50 columns are left of the screen, with unknown damage; its window is
    cut off at the edge. -/
def leftFrame : Display 1 :=
  aloneOnScreen { damagedLayer ⟨-50, 20, 50, 120⟩ ⟨0, 0, 100, 100⟩ ⟨0, 0, 0, 0⟩ with damageRects := [] }
    ⟨50, 0, 50, 100, 100, 100⟩ ⟨0, 20, 50, 100, 1080, 2400⟩

/-- A layer in a window without columns. -/
def flatFrame : Display 1 :=
  aloneOnScreen (damagedLayer ⟨10, 20, 10, 120⟩ ⟨0, 0, 100, 100⟩ ⟨5, 5, 9, 9⟩)
    ⟨0, 0, 100, 100, 100, 100⟩ ⟨10, 20, 0, 100, 1080, 2400⟩

/-- The region of the first frame begins left of the screen, and the second one divides by
    zero. -/
theorem region_leaves_screen :
    (leftFrame.handleWindowUpdate.dpuData.enableWinUpdate = true ∧
        leftFrame.handleWindowUpdate.dpuData.winUpdateRegion.x = -50) ∧
      ¬ UpdateSafe leftFrame ∧
      tryHandleWindowUpdate flatFrame = none ∧ ¬ UpdateSafe flatFrame := by
  have hnone : tryHandleWindowUpdate flatFrame = none := by
    apply tryHandleWindowUpdate_eq_none
    refine ⟨by decide +kernel, 0, ⟨by decide +kernel, by decide +kernel, by decide +kernel,
      Or.inl (by decide +kernel)⟩, ?_⟩
    intro j hj
    exact absurd hj (Nat.not_lt_zero _)
  have hleft : leftFrame.handleWindowUpdate.dpuData.enableWinUpdate = true ∧
      leftFrame.handleWindowUpdate.dpuData.winUpdateRegion.x = -50 := by decide +kernel
  refine ⟨hleft, ?_, hnone, ?_⟩
  · rintro ⟨d', hsome, hon⟩
    have hzero : ¬ DividesByZero leftFrame := by
      intro h
      rw [tryHandleWindowUpdate_eq_none h] at hsome
      cases hsome
    rw [tryHandleWindowUpdate_eq hzero] at hsome
    obtain rfl := Option.some.inj hsome
    have hpos := (hon hleft.1).left
    rw [hleft.2] at hpos
    exact absurd hpos (by decide)
  · rintro ⟨d', hsome, -⟩
    rw [hnone] at hsome
    cases hsome

end ExynosHal.UpdateRegion
