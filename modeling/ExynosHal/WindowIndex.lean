/-
  ExynosHal/WindowIndex.lean
  ==========================
  **The windows of the layers and of the composition targets.**

  `ExynosResourceManager::assignWindow`, which follows the assignment of the MPPs
  and writes nothing but `mWindowIndex`.
-/
import ExynosHal.ResourceManager

namespace ExynosHal.WindowIndex

open ExynosHal.Assignment ExynosHal.ResourceManager

/-- The window indices that are written, and `windowIndex`. -/
structure Windows where
  index : Source → Option Nat
  windowIndex : Nat

/-- A window for `x`, which `o` shows: the dedicated channel has the top window. -/
def Windows.give (d : Display) (maxDeconWin : Nat) (o : Option MppId) (x : Source) (w : Windows) :
    Windows :=
  if o.any fun o => (d.mpp o).dedicated then
    { w with index := Function.update w.index x (some (maxDeconWin - 1)) }
  else ⟨Function.update w.index x (some w.windowIndex), w.windowIndex + 1⟩

/-- A target takes the place of the last layer of its range. -/
def assignTargetWindow (d : Display) (s : State) (maxDeconWin i : Nat) (w : Windows) (x : Source) :
    Windows :=
  if (s.info x).hasCompositionLayer = false ∨ (s.info x).firstIndex < 0 ∨ (s.info x).lastIndex < 0 then w
  else if (i : Int) ≠ (s.info x).lastIndex then w
  else w.give d maxDeconWin (s.otfMPP x) x

def assignLayerWindow (d : Display) (s : State) (maxDeconWin : Nat) (w : Windows) (i : Nat) :
    Windows :=
  match s.validateType i with
  | .device => w.give d maxDeconWin (s.otfMPP (.layer i)) (.layer i)
  | .client => assignTargetWindow d s maxDeconWin i w .client
  | .exynos => assignTargetWindow d s maxDeconWin i w .exynos
  | .invalid => w

def assignWindow (d : Display) (s : State) (baseWindowIndex maxDeconWin : Nat) : Windows :=
  let w : Windows := ⟨fun _ => none, baseWindowIndex⟩
  if d.useDpu = false then w
  else (List.range d.layerNum).foldl (assignLayerWindow d s maxDeconWin) w

end ExynosHal.WindowIndex
