/-
  ExynosHal/MppLinks.lean
  =======================
  **Who an MPP works for.**

  A layer that leaves the overlay resets its OTF MPP as a whole, with all sources
  of it.  No other layer loses its MPP by that, because an OTF MPP takes one source:
  `Exclusive` is the invariant, and every assignment keeps it.
-/
import ExynosHal.AssignmentMoves
import ExynosHal.ClientRange

namespace ExynosHal.MppLinks

open Function (update)
open ExynosHal.Assignment ExynosHal.CompositionRange ExynosHal.ResourceManager
open ExynosHal.AssignmentMoves ExynosHal.ClientRange ExynosHal.TransitionSystem

/-! ### Exclusive OTF MPPs -/

/-- The device: an OTF MPP takes one source and is not an M2M MPP. -/
structure SingleOtf (d : Display) : Prop where
  maxSrcLayerNum : ∀ o ∈ d.otfMPPs, (d.mpp o).maxSrcLayerNum = 1
  m2m : ∀ m ∈ d.m2mMPPs, m ∉ d.otfMPPs
  blending : ∀ m, d.blendingMPP = some m → m ∉ d.otfMPPs

/-- **A source with an OTF MPP has it for itself.** -/
structure Exclusive (d : Display) (s : State) : Prop where
  otf : ∀ x o, s.otfMPP x = some o → (s.mpp o).assignedSources = [x] ∧ o ∈ d.otfMPPs
  m2m : ∀ x m, s.m2mMPP x = some m → m ∉ d.otfMPPs
  idle : ∀ m, (s.mpp m).assigned = false → (s.mpp m).assignedSources = []

namespace Exclusive

variable {d : Display} {s : State}

/-- Less links to the same MPPs. -/
theorem weaken {s' : State} (h : Exclusive d s) (hmpp : s'.mpp = s.mpp)
    (hotf : ∀ x o, s'.otfMPP x = some o → s.otfMPP x = some o)
    (hm2m : ∀ x m, s'.m2mMPP x = some m → s.m2mMPP x = some m) : Exclusive d s' where
  otf x o ho := hmpp ▸ h.otf x o (hotf x o ho)
  m2m x m hm := h.m2m x m (hm2m x m hm)
  idle m hm := by rw [hmpp] at hm ⊢; exact h.idle m hm

theorem resetAssignedState (h : Exclusive d s) (m : MppId) :
    Exclusive d (s.resetAssignedState m) where
  otf x o ho := by
    simp only [State.resetAssignedState] at ho ⊢
    split at ho
    · cases ho
    · next hx =>
      obtain ⟨hsources, hmem⟩ := h.otf x o ho
      by_cases hom : o = m
      · subst hom
        exact absurd ⟨by rw [hsources]; exact List.mem_singleton_self x, ho⟩ hx
      · rw [Function.update_of_ne hom]
        exact ⟨hsources, hmem⟩
  m2m x m' hm := by
    simp only [State.resetAssignedState] at hm
    split at hm
    · cases hm
    · exact h.m2m x m' hm
  idle m' hm := by
    simp only [State.resetAssignedState] at hm ⊢
    by_cases hmm : m' = m
    · rw [hmm, Function.update_self]
    · rw [Function.update_of_ne hmm] at hm ⊢
      exact h.idle m' hm

/-- Only an M2M MPP gives up a single source. -/
theorem resetAssignedStateOf (h : Exclusive d s) {m : MppId} (hm : m ∉ d.otfMPPs) (x : Source) :
    Exclusive d (s.resetAssignedStateOf m x) where
  otf y o ho := by
    obtain ⟨hsources, hmem⟩ := h.otf y o ho
    have hom : o ≠ m := fun heq => hm (heq ▸ hmem)
    simp only [State.resetAssignedStateOf]
    rw [Function.update_of_ne hom]
    exact ⟨hsources, hmem⟩
  m2m y m' hm' := by
    simp only [State.resetAssignedStateOf] at hm'
    split at hm'
    · by_cases hy : y = x
      · rw [hy, Function.update_self] at hm'
        cases hm'
      · rw [Function.update_of_ne hy] at hm'
        exact h.m2m y m' hm'
    · exact h.m2m y m' hm'
  idle m' hm' := by
    simp only [State.resetAssignedStateOf] at hm' ⊢
    by_cases hmm : m' = m
    · subst hmm
      rw [Function.update_self] at hm' ⊢
      split at hm'
      · next hnil => rw [if_pos hnil]
      · next hcons =>
        have hnil : (s.mpp m').assignedSources = [] := h.idle m' hm'
        exact absurd (by simp [hnil]) hcons
    · rw [Function.update_of_ne hmm] at hm' ⊢
      exact h.idle m' hm'

theorem releaseM2m (h : Exclusive d s) (i : Nat) : Exclusive d (s.releaseM2m i) := by
  unfold State.releaseM2m
  split
  · exact h
  · next m hm =>
    refine (h.resetAssignedStateOf (h.m2m _ m hm) (.layer i)).weaken rfl (fun _ _ ho => ho) ?_
    intro x m' hm'
    dsimp only at hm'
    by_cases hx : x = .layer i
    · rw [hx, Function.update_self] at hm'
      cases hm'
    · rwa [Function.update_of_ne hx] at hm'

theorem releaseOtf (h : Exclusive d s) (i : Nat) : Exclusive d (s.releaseOtf i) := by
  unfold State.releaseOtf
  split
  · exact h
  · next o _ =>
    refine (h.resetAssignedState o).weaken rfl ?_ fun _ _ hm => hm
    intro x o' ho'
    dsimp only at ho'
    by_cases hx : x = .layer i
    · rw [hx, Function.update_self] at ho'
      cases ho'
    · rwa [Function.update_of_ne hx] at ho'

/-- An MPP with room for a source has none. -/
theorem no_sources (h : Exclusive d s) (hd : SingleOtf d) {o : MppId} (ho : o ∈ d.otfMPPs)
    (hroom : HasRoom d s o) : (s.mpp o).assignedSources = [] := by
  cases ha : (s.mpp o).assigned with
  | false => exact h.idle o ha
  | true =>
      have hlt := hroom ha
      rw [hd.maxSrcLayerNum o ho] at hlt
      exact List.length_eq_zero_iff.mp (Nat.lt_one_iff.mp hlt)

theorem assignOtf (h : Exclusive d s) (hd : SingleOtf d) {o : MppId} (ho : o ∈ d.otfMPPs)
    (hroom : HasRoom d s o) (x : Source) : Exclusive d (s.assignOtf d o x) := by
  have hnone := h.no_sources hd ho hroom
  have hsources : ((s.assignOtf d o x).mpp o).assignedSources = [x] := by
    simp [State.assignOtf, State.addSource, hd.maxSrcLayerNum o ho, hnone]
  have hother : ∀ m, m ≠ o → (s.assignOtf d o x).mpp m = s.mpp m :=
    fun m hm => Function.update_of_ne hm _ _
  refine ⟨fun y o' ho' => ?_, h.m2m, fun m hm => ?_⟩
  · by_cases hy : y = x
    · subst hy
      have heq : o' = o := by
        simp only [State.assignOtf, Function.update_self] at ho'
        exact (Option.some.inj ho').symm
      rw [heq]
      exact ⟨hsources, ho⟩
    · simp only [State.assignOtf] at ho'
      rw [Function.update_of_ne hy] at ho'
      obtain ⟨hs, hmem⟩ := h.otf y o' ho'
      have hne : o' ≠ o := by
        rintro rfl
        rw [hnone] at hs
        cases hs
      rw [hother o' hne]
      exact ⟨hs, hmem⟩
  · by_cases hmo : m = o
    · subst hmo
      simp [State.assignOtf, State.addSource] at hm
    · rw [hother m hmo] at hm ⊢
      exact h.idle m hm

theorem assignM2m (h : Exclusive d s) {m : MppId} (hm : m ∉ d.otfMPPs) (x : Source) :
    Exclusive d (s.assignM2m d m x) := by
  have hother : ∀ m', m' ≠ m → (s.assignM2m d m x).mpp m' = s.mpp m' :=
    fun m' hm' => Function.update_of_ne hm' _ _
  refine ⟨fun y o ho => ?_, fun y m' hm' => ?_, fun m' hm' => ?_⟩
  · obtain ⟨hs, hmem⟩ := h.otf y o ho
    rw [hother o fun heq => hm (heq ▸ hmem)]
    exact ⟨hs, hmem⟩
  · by_cases hy : y = x
    · subst hy
      simp only [State.assignM2m, Function.update_self] at hm'
      exact Option.some.inj hm' ▸ hm
    · simp only [State.assignM2m] at hm'
      rw [Function.update_of_ne hy] at hm'
      exact h.m2m y m' hm'
  · by_cases hmm : m' = m
    · subst hmm
      simp [State.assignM2m, State.addSource] at hm'
    · rw [hother m' hmm] at hm' ⊢
      exact h.idle m' hm'

/-- A change to an MPP that is not about its sources. -/
theorem changeMpp (h : Exclusive d s) {m : MppId} {p : MppState} (ha : p.assigned = (s.mpp m).assigned)
    (hs : p.assignedSources = (s.mpp m).assignedSources) :
    Exclusive d { s with mpp := update s.mpp m p } := by
  have hsources : ∀ m', (update s.mpp m p m').assignedSources = (s.mpp m').assignedSources := by
    intro m'
    by_cases hmm : m' = m
    · rw [hmm, Function.update_self, hs]
    · rw [Function.update_of_ne hmm]
  refine ⟨fun x o ho => ?_, h.m2m, fun m' hm' => ?_⟩
  · dsimp only
    rw [hsources]
    exact h.otf x o ho
  · dsimp only at hm' ⊢
    rw [hsources]
    apply h.idle
    by_cases hmm : m' = m
    · rw [hmm, Function.update_self, ha] at hm'
      rw [hmm, hm']
    · rwa [Function.update_of_ne hmm] at hm'

/-- **All moves of an assignment keep it.** -/
theorem moves (hd : SingleOtf d) :
    MoveRule d (· ∈ d.otfMPPs) (· ∉ d.otfMPPs) (Exclusive d) where
  account _ _ h hs := h.weaken hs.mpp (fun _ _ ho => hs.otfMPP ▸ ho) fun _ _ hm => hs.m2mMPP ▸ hm
  reset _ m h := h.resetAssignedState m
  releaseM2m _ i h := h.releaseM2m i
  releaseOtf _ i h := h.releaseOtf i
  client s h := by
    refine h.weaken rfl (fun x o ho => ?_) fun _ _ hm => hm
    simp only [State.initializeClient] at ho
    by_cases hx : x = .client
    · rw [hx, Function.update_self] at ho
      cases ho
    · rwa [Function.update_of_ne hx] at ho
  exynos s h := by
    refine ⟨fun x o ho => ?_, fun x m hm => ?_, h.idle⟩
    · simp only [State.initializeExynos] at ho
      by_cases hx : x = .exynos
      · rw [hx, Function.update_self] at ho
        cases ho
      · rw [Function.update_of_ne hx] at ho
        exact h.otf x o ho
    · simp only [State.initializeExynos] at hm
      by_cases hx : x = .exynos
      · rw [hx, Function.update_self] at hm
        rcases Option.or_eq_some_iff.mp hm with hm | ⟨-, hm⟩
        · exact h.m2m _ m hm
        · exact hd.blending m hm
      · rw [Function.update_of_ne hx] at hm
        exact h.m2m x m hm
  forget s h := by
    refine h.weaken rfl (fun x o ho => ?_) fun x m hm => ?_
    · cases x with
      | layer => cases ho
      | client => exact ho
      | exynos => exact ho
    · cases x with
      | layer => cases hm
      | client => exact hm
      | exynos => exact hm
  disable _ _ h := h.changeMpp rfl rfl
  otf _ ho := ho
  otfOf _ x o h ho := (h.otf x o ho).2
  m2m := hd.m2m
  m2mOf _ x m h hm := h.m2m x m hm
  assignOtf _ _ x h ho hroom := h.assignOtf hd ho hroom x
  assignM2m _ _ x h hm := h.assignM2m hm x
  retype _ _ _ h _ _ _ := h.changeMpp rfl rfl

/-- Before anything is linked. -/
theorem initial (hs : ∀ m, (s.mpp m).assignedSources = []) (hotf : ∀ x, s.otfMPP x = none)
    (hm2m : ∀ x, s.m2mMPP x = none) : Exclusive d s where
  otf x o ho := by rw [hotf x] at ho; cases ho
  m2m x m hm := by rw [hm2m x] at hm; cases hm
  idle m _ := hs m

/-- The MPP of a layer that is released serves no one else, so that the links of the
    others stay. -/
theorem release_other (h : Exclusive d s) {i : Nat} {x : Source} (hx : x ≠ .layer i) :
    (s.resetAssignedResource i).otfMPP x = s.otfMPP x
      ∧ (s.resetAssignedResource i).m2mMPP x = s.m2mMPP x := by
  have hfirst : (s.releaseM2m i).otfMPP x = s.otfMPP x
      ∧ (s.releaseM2m i).m2mMPP x = s.m2mMPP x := by
    unfold State.releaseM2m
    split
    · exact ⟨rfl, rfl⟩
    · refine ⟨rfl, ?_⟩
      dsimp only
      rw [Function.update_of_ne hx]
      simp only [State.resetAssignedStateOf]
      split
      · exact Function.update_of_ne hx _ _
      · rfl
  have hkept := h.releaseM2m i
  unfold State.resetAssignedResource
  rw [← hfirst.1, ← hfirst.2]
  generalize s.releaseM2m i = s' at hkept
  unfold State.releaseOtf
  split
  · exact ⟨rfl, rfl⟩
  · next o ho =>
    have hsources := (hkept.otf _ o ho).1
    have hout : x ∉ (s'.mpp o).assignedSources := by
      rw [hsources, List.mem_singleton]
      exact hx
    dsimp only
    rw [Function.update_of_ne hx]
    simp only [State.resetAssignedState]
    exact ⟨if_neg fun hc => hout hc.1, if_neg fun hc => hout hc.1⟩

end Exclusive

theorem phone_singleOtf (layers : List Layer) (n : Nat) : SingleOtf (phone layers n) where
  maxSrcLayerNum o ho := by
    have h : ∀ o ∈ [0, 1, 2], ((phone [] 0).mpp o).maxSrcLayerNum = 1 := by decide
    exact h o ho
  m2m m hm := by
    have h : ∀ m ∈ [9], m ∉ [0, 1, 2] := by decide
    exact h m hm
  blending m hm := by
    obtain rfl := Option.some.inj hm
    show 9 ∉ [0, 1, 2]
    decide

end ExynosHal.MppLinks
