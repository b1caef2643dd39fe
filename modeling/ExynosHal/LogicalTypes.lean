/-
  ExynosHal/LogicalTypes.lean
  ===========================
  **The types of the MPPs.**

  An MPP keeps the physical and the logical type it was made with.  One condition of
  `addExynosCompositionLayer` breaks this: it assigns `mLogicalType` where it means
  to compare it, before it gives up a composition that sandwiches a layer of high
  priority.  `Trace` collects these places of a run.
-/
import ExynosHal.AssignmentMoves
import ExynosHal.WindowIndex

namespace ExynosHal.LogicalTypes

open Function (update)
open ExynosHal.Assignment ExynosHal.CompositionRange ExynosHal.ResourceManager
open ExynosHal.AssignmentMoves

/-! ### Traces -/

/-- A composition that is about to be given up: in this state a layer of high
    priority lies strictly inside the exynos range, which MPP `mpp` serves. -/
structure Sandwiching where
  state : State
  mpp : MppId

/-- From `s₀` to a state by steps that keep all types and by the assignments to
    `mLogicalType` that are listed. -/
inductive Trace (s₀ : State) : List Sandwiching → State → Prop where
  | start : Trace s₀ [] s₀
  | keep {l : List Sandwiching} {s s' : State} : Trace s₀ l s → s'.logicalType = s.logicalType →
      Trace s₀ l s'
  | assign {l : List Sandwiching} {s : State} {m : MppId} {highPriority : List Nat} :
      Trace s₀ l s → isHighInside s highPriority = true →
      Trace s₀ (⟨s, m⟩ :: l) (setLogicalType s m .g2dRGB)

namespace Trace

variable {s₀ s s' : State} {l l' : List Sandwiching}

theorem trans (h : Trace s₀ l s) (h' : Trace s l' s') : Trace s₀ (l' ++ l) s' := by
  induction h' with
  | start => exact h
  | keep _ ht ih => exact ih.keep ht
  | assign _ hin ih => exact ih.assign hin

/-- All moves but the assignment keep the types. -/
theorem moves (d : Display) (s₀ : State) :
    MoveRule d (fun _ => True) (fun _ => True) (fun s => ∃ l, Trace s₀ l s) where
  account s s' h hs := by
    obtain ⟨l, h⟩ := h
    refine ⟨l, h.keep ?_⟩
    unfold State.logicalType
    rw [hs.mpp]
  reset s m h := h.imp fun _ h => h.keep (State.resetAssignedState_logicalType s m)
  releaseM2m s i h := by
    obtain ⟨l, h⟩ := h
    refine ⟨l, h.keep ?_⟩
    unfold State.releaseM2m
    split
    · rfl
    · exact State.resetAssignedStateOf_logicalType s _ _
  releaseOtf s i h := by
    obtain ⟨l, h⟩ := h
    refine ⟨l, h.keep ?_⟩
    unfold State.releaseOtf
    split
    · rfl
    · exact State.resetAssignedState_logicalType s _
  client _ h := h.imp fun _ h => h.keep rfl
  exynos _ h := h.imp fun _ h => h.keep rfl
  forget _ h := h.imp fun _ h => h.keep rfl
  disable s m h := by
    obtain ⟨l, h⟩ := h
    refine ⟨l, h.keep (funext fun m' => ?_)⟩
    unfold State.logicalType disableMpp
    dsimp only
    by_cases hm : m' = m
    · rw [hm, Function.update_self]
    · rw [Function.update_of_ne hm]
  otf _ _ := trivial
  otfOf _ _ _ _ _ := trivial
  m2m _ _ := trivial
  m2mOf _ _ _ _ _ := trivial
  assignOtf s o x h _ _ := h.imp fun _ h => h.keep (State.assignM2m_logicalType d s o x)
  assignM2m s m x h _ := h.imp fun _ h => h.keep (State.assignM2m_logicalType d s m x)
  retype s m hp h _ _ hin := by
    obtain ⟨l, h⟩ := h
    exact ⟨⟨s, m⟩ :: l, h.assign hin⟩

end Trace

/-! ### Operations -/

/-- The operations of the assignment algorithms. -/
inductive Operation where
  | addClientCompositionLayer (k : Nat)
  | removeClientCompositionLayer (k : Nat)
  | addExynosCompositionLayer (k : Nat)
  | assignLayers (priority : OverlayPriority)
  | assignCompositionTarget (x : Source)
  /-- Writes window indices only. -/
  | assignWindow (baseWindowIndex maxDeconWin : Nat)
  | resetAssignedResources
  | setResourcePriority
  | updateExynosComposition
  | updateClientComposition
  | assignResource

def Operation.run (d : Display) (s : State) : Operation → State
  | .addClientCompositionLayer k => (CompositionRange.addClientCompositionLayer d s k).1
  | .removeClientCompositionLayer k => (CompositionRange.removeClientCompositionLayer s k).1
  | .addExynosCompositionLayer k => (CompositionRange.addExynosCompositionLayer d s k).1
  | .assignLayers p => (ResourceManager.assignLayers d s p).1
  | .assignCompositionTarget x => (ResourceManager.assignCompositionTarget d s x).1
  | .assignWindow _ _ => s
  | .resetAssignedResources => ResourceManager.resetAssignedResources d s
  | .setResourcePriority => (ResourceManager.setResourcePriority d s).1
  | .updateExynosComposition => ResourceManager.updateExynosComposition d s
  | .updateClientComposition => (ResourceManager.updateClientComposition d s).1
  | .assignResource => (ResourceManager.assignResource d s).1

end ExynosHal.LogicalTypes
