/-
  ExynosHal/ScalerFences.lean
  ===========================
  **The fences of one execute of the blending scaler.**

  `AcrylicCompositorMSCL3830::execute` and `queueBuffer` of
  `libacryl/acrylic_mscl3830.cpp`, with `AcrylicCompositorMSCL3830Pre::execute`.
  A canvas owns its acquire fence until `setFence` closes it.  The driver takes
  a fence and gives another one in the same field, `reserved`, of a buffer that
  is zero where nothing was written to it.
-/
import ExynosHal.Ledger

namespace ExynosHal.ScalerFences

open ExynosHal

/-! ### Canvases and the driver -/

/-- `mFence` of the target canvas and of the layers, and the descriptors of the process. -/
structure Compositor where
  target : Int
  layer0 : Int
  layer1 : Option Int
  owned : Ledger Int
deriving DecidableEq, Repr

def Compositor.layerCount (c : Compositor) : Nat := c.layer1.elim 1 fun _ => 2

/-- `VIDIOC_QBUF`: `none` if it fails, else the release fence if there is one. -/
abbrev QueueAnswer := Option (Option Nat)

/-- A fence field; `-1` stands for no fence. -/
def fenceOf : Option Nat → Int
  | none => -1
  | some fd => fd

/-- A descriptor is a fence field that is not negative. -/
def descriptors (l : List Int) : List Int := l.filter (0 ≤ ·)

def obtainFence (L : Ledger Int) (f : Int) : Ledger Int := if 0 ≤ f then L.obtain f else L

/-- `if (fence >= 0) close(fence)`, as in `AcrylicCanvas::setFence`. -/
def closeFence (L : Ledger Int) (f : Int) : Ledger Int := if 0 ≤ f then L.release f else L

/-- What the kernel answers during an `execute`. -/
structure Answers where
  /-- `prepareQBuf` of the pre-compositor. -/
  preQueue : Bool
  preSource : QueueAnswer
  preTarget : QueueAnswer
  /-- `validateAllLayers` to `prepareExecute`, none of which touches a fence. -/
  prepare : Bool
  source : QueueAnswer
  target : QueueAnswer
  /-- The copy of the release fence of the source for `fence[j]`. -/
  dup : Nat → Option Nat

/-! ### The pre-compositor -/

/-- `AcrylicCompositorMSCL3830Pre::queueBuffer`: the fence that the canvas has after it. -/
def preQueueBuffer (L : Ledger Int) (canvas : Int) : QueueAnswer → Bool × Int × Ledger Int
  | none => (false, canvas, L)
  | some release => (true, fenceOf release, closeFence (obtainFence L (fenceOf release)) canvas)

/-- `mPreCompositor.execute(getLayer(1), getCanvas())`. -/
def preExecute (c : Compositor) (layer1 : Int) (a : Answers) : Bool × Compositor :=
  if a.preQueue then
    let source := preQueueBuffer c.owned layer1 a.preSource
    if source.1 then
      let target := preQueueBuffer source.2.2 c.target a.preTarget
      (target.1, { c with layer1 := some source.2.1, target := target.2.1, owned := target.2.2 })
    else (false, c)
  else (false, c)

/-! ### The two queues -/

structure Queued where
  success : Bool
  /-- `mFence` of the canvas. -/
  canvas : Int
  /-- `*fence`. -/
  fence : Int
  owned : Ledger Int

/-- The buffer is queued with a fence flag. -/
def asksFence (canvas : Int) (blend : Option Int) (needReleaseFence : Bool) : Bool :=
  0 ≤ canvas || blend.any (0 ≤ ·) || needReleaseFence

/-- `buffer.reserved` is taken for a fence after the buffer was queued. -/
def takesFence (canvas : Int) (blend : Option Int) (needReleaseFence : Bool) : Bool :=
  0 ≤ canvas || blend.any (· ≠ 0) || needReleaseFence

/-- `queueBuffer(canvas, dir, fence, needReleaseFence)`; `blend` is the fence of the second
    layer, if there is one and `dir` is `SOURCE`. -/
def queueCanvas (L : Ledger Int) (canvas : Int) (blend : Option Int) (needReleaseFence : Bool)
    (answer : QueueAnswer) : Queued :=
  if 0 ≤ canvas ∧ blend.any (0 ≤ ·) then ⟨false, canvas, -1, L⟩
  else match answer with
    | none => ⟨false, -1, -1, closeFence L canvas⟩
    | some release =>
        let asks := asksFence canvas blend needReleaseFence
        -- `memset` is all that writes the field if there is no fence flag
        let reserved := if asks then fenceOf release else 0
        let L := if asks then obtainFence L (fenceOf release) else L
        ⟨true, -1, if takesFence canvas blend needReleaseFence then reserved else -1,
          closeFence L canvas⟩

structure Result where
  success : Bool
  /-- What was written to `fence[]`. -/
  fences : List Int
  compositor : Compositor

/-- `setFence(-1)` for the canvas and every layer. -/
def Compositor.clearFences (c : Compositor) : Compositor where
  target := -1
  layer0 := -1
  layer1 := c.layer1.map fun _ => -1
  owned :=
    let L := closeFence (closeFence c.owned c.target) c.layer0
    c.layer1.elim L (closeFence L)

/-- The release fences that are handed out, and the ledger with the other ones closed. -/
def handOut (L : Ledger Int) (num_fences : Nat) (source target : Int) (dup : Nat → Option Nat) :
    List Int × Ledger Int :=
  match num_fences with
  | 0 => ([], closeFence (closeFence L source) target)
  | 1 => ([source], closeFence L target)
  | 2 => ([source, target], L)
  | n + 3 =>
      let copies := (List.range' 2 (n + 1)).map fun j =>
        fenceOf (if 0 ≤ source then dup j else none)
      (source :: target :: copies, copies.foldl obtainFence L)

/-- The target, once the source is queued with the release fence `source`. -/
def queueTarget (c : Compositor) (num_fences : Nat) (source : Int) (a : Answers) : Result :=
  let target := queueCanvas c.owned c.target none (1 < num_fences) a.target
  let c := { c with target := target.canvas, owned := target.owned }
  if target.success then
    let out := handOut c.owned num_fences source target.fence a.dup
    ⟨true, out.1, { c with owned := out.2 }.clearFences⟩
  else ⟨false, [], { c with owned := closeFence c.owned source }.clearFences⟩

def queueBuffer (c : Compositor) (num_fences : Nat) (a : Answers) : Result :=
  let max_fences := c.layerCount + 1
  if max_fences < num_fences then ⟨false, [], c⟩
  else
    let source := queueCanvas c.owned c.layer0 c.layer1 (0 < num_fences) a.source
    let c := { c with layer0 := source.canvas, owned := source.owned }
    if source.success then queueTarget c num_fences source.fence a
    else ⟨false, [], c.clearFences⟩

/-- The second layer is copied to the target first if `copies`, that is, if the target
    rectangles of the two layers differ. -/
def copied (c : Compositor) (copies : Bool) (a : Answers) : Bool × Compositor :=
  match c.layer1 with
  | some layer1 => if copies then preExecute c layer1 a else (true, c)
  | none => (true, c)

/-- `execute(fence, num_fences)`. -/
def execute (c : Compositor) (copies : Bool) (num_fences : Nat) (a : Answers) : Result :=
  let r := copied c copies a
  if r.1 && a.prepare then queueBuffer r.2 num_fences a else ⟨false, [], r.2⟩

/-! ### What is to hold -/

/-- The fences with the canvas and the layers. -/
def Compositor.fences (c : Compositor) : List Int := c.target :: c.layer0 :: c.layer1.toList

/-- Before `execute`: the process owns the acquire fences it was given. -/
def given (target layer0 : Int) (layer1 : Option Int) : Compositor where
  target := target
  layer0 := layer0
  layer1 := layer1
  owned := ⟨descriptors (target :: layer0 :: layer1.toList), []⟩

/-- Nothing was closed that was not owned, what is left of the acquire fences and of the
    fences of the driver is stored, each once, and after success no acquire fence is left. -/
structure Result.IsSound (r : Result) : Prop where
  clean : r.compositor.owned.IsClean
  stored : r.compositor.owned.held.Perm (descriptors (r.fences ++ r.compositor.fences))
  closed : r.success = true → descriptors r.compositor.fences = []

/-- The source is queued with no acquire fence and for no release fence while there is a second
    layer, and `0` stands for a fence: the field that was not written, or the fence of the
    second layer, which is then taken for none although the driver gives a release fence. -/
def Compositor.Confuses (c : Compositor) (num_fences : Nat) (a : Answers) : Prop :=
  num_fences = 0 ∧ c.layer0 < 0 ∧
    ∃ blend ∈ c.layer1, ∃ release ∈ a.source, blend < 0 ∨ blend = 0 ∧ release ≠ none

/-- The fence of the second layer when the source is queued. -/
def blendFence (layer1 : Int) (copies : Bool) (a : Answers) : Int :=
  if copies then a.preSource.elim layer1 fenceOf else layer1

/-- The same for what an `execute` was given: it gets to the source. -/
def Confuses (layer0 : Int) (layer1 : Option Int) (copies : Bool) (num_fences : Nat)
    (a : Answers) : Prop :=
  num_fences = 0 ∧ layer0 < 0 ∧ a.prepare = true ∧
    (copies = true → a.preQueue = true ∧ a.preSource.isSome ∧ a.preTarget.isSome) ∧
    ∃ f ∈ layer1, ∃ release ∈ a.source,
      blendFence f copies a < 0 ∨ blendFence f copies a = 0 ∧ release ≠ none

/-! ### The ledger and fence fields -/

def Owns (L : Ledger Int) (l : List Int) : Prop := L.Holds (descriptors l)

variable {L : Ledger Int} {f : Int} {l : List Int}

theorem descriptors_cons_of_neg (hf : f < 0) : descriptors (f :: l) = descriptors l :=
  List.filter_cons_of_neg (by simpa using hf)

theorem descriptors_cons_of_nonneg (hf : 0 ≤ f) : descriptors (f :: l) = f :: descriptors l :=
  List.filter_cons_of_pos (by simpa using hf)

theorem Owns.perm {l' : List Int} (h : Owns L l) (hl : l.Perm l') : Owns L l' :=
  Ledger.Holds.perm h (hl.filter _)

theorem Owns.drop (h : Owns L (f :: l)) (hf : f < 0) : Owns L l := by
  unfold Owns at h
  rwa [descriptors_cons_of_neg hf] at h

theorem Owns.add (h : Owns L l) (hf : f < 0) : Owns L (f :: l) := by
  unfold Owns
  rwa [descriptors_cons_of_neg hf]

theorem Owns.obtain (h : Owns L l) (f : Int) : Owns (obtainFence L f) (f :: l) := by
  unfold obtainFence
  split
  next hf =>
    unfold Owns
    rw [descriptors_cons_of_nonneg hf]
    exact Ledger.Holds.obtain h f
  next hf => exact h.add (Int.not_le.mp hf)

theorem Owns.close (h : Owns L (f :: l)) : Owns (closeFence L f) l := by
  unfold closeFence
  split
  next hf =>
    unfold Owns at h
    rw [descriptors_cons_of_nonneg hf] at h
    exact h.release
  next hf => exact h.drop (Int.not_le.mp hf)

theorem closeFence_of_neg (hf : f < 0) : closeFence L f = L := if_neg (Int.not_le.mpr hf)

/-- A close of `0` that is not owned. -/
theorem Owns.close_zero (h : Owns L l) (h0 : (0 : Int) ∉ l) : ¬(closeFence L 0).IsClean :=
  Ledger.Holds.release_wrong h fun hm => h0 (List.mem_of_mem_filter hm)

theorem closeFence_not_isClean (h : ¬L.IsClean) : ¬(closeFence L f).IsClean := by
  unfold closeFence
  split
  · exact Ledger.release_not_isClean h
  · exact h

theorem Owns.addNone (h : Owns L l) : Owns L (-1 :: l) := h.add (by decide)

theorem Owns.obtainAll (h : Owns L l) (fs : List Int) :
    Owns (fs.foldl obtainFence L) (fs ++ l) := by
  induction fs generalizing L l with
  | nil => exact h
  | cons f fs ih => exact (ih (h.obtain f)).perm List.perm_middle

/-! ### What one queue does -/

section Queue

variable {canvas : Int} {blend : Option Int} {need : Bool}

/-- The two tests differ only over the fence of the second layer. -/
theorem asksFence_ne (h : asksFence canvas blend need ≠ takesFence canvas blend need) :
    canvas < 0 ∧ need = false ∧ ∃ f ∈ blend, f ≤ 0 ∧ asksFence canvas blend need = decide (f = 0) := by
  unfold asksFence takesFence at *
  by_cases hc : 0 ≤ canvas
  · simp [hc] at h
  cases need with
  | true => simp at h
  | false =>
    cases blend with
    | none => simp at h
    | some f =>
      refine ⟨by omega, rfl, f, rfl, ?_⟩
      simp only [hc, Option.any_some] at h ⊢
      by_cases hf : 0 ≤ f
      · by_cases h0 : f = 0
        · simp [h0]
        · simp [hf, h0] at h
      · have h0 : f ≠ 0 := by omega
        simp [hf, h0]
        omega

/-- Where `0` is not taken for a fence, the canvas gives up its fence for the one of the driver. -/
theorem queueCanvas_owns (need : Bool) (answer : QueueAnswer) (h : Owns L (canvas :: l))
    (hplain : canvas < 0 → need = false →
      ∀ f ∈ blend, ∀ release ∈ answer, ¬(f < 0 ∨ f = 0 ∧ release ≠ none)) :
    let r := queueCanvas L canvas blend need answer
    Owns r.owned (r.fence :: r.canvas :: l) := by
  unfold queueCanvas
  split
  · exact h.addNone
  cases answer with
  | none => exact h.close.addNone.addNone
  | some release =>
    dsimp only
    by_cases heq : asksFence canvas blend need = takesFence canvas blend need
    · rw [← heq]
      by_cases hasks : asksFence canvas blend need = true
      · simp only [if_pos hasks]
        exact ((h.obtain _).perm (.swap ..)).close.addNone.perm (.swap ..)
      · simp only [if_neg hasks]
        exact h.close.addNone.addNone
    · obtain ⟨hc, hneed, f, hf, hle, hasks⟩ := asksFence_ne heq
      have hno := hplain hc hneed f hf release rfl
      have h0 : f = 0 := by
        by_contra hne
        exact hno (.inl (by omega))
      have hrel : release = none := by
        by_contra hne
        exact hno (.inr ⟨h0, hne⟩)
      have htakes : takesFence canvas blend need = false := by
        rw [decide_eq_true h0] at hasks
        rw [hasks] at heq
        exact (Bool.eq_false_iff.mpr (Ne.symm heq))
      rw [decide_eq_true h0] at hasks
      simp only [hasks, htakes, if_true, hrel]
      exact (h.perm (.refl _)).close.addNone.addNone

theorem queueCanvas_failed (L : Ledger Int) (canvas : Int) (blend : Option Int) (need : Bool)
    (answer : QueueAnswer) (h : (queueCanvas L canvas blend need answer).success = false) :
    (queueCanvas L canvas blend need answer).fence = -1 := by
  unfold queueCanvas at h ⊢
  split at h
  next hboth => rw [if_pos hboth]
  next hboth =>
    rw [if_neg hboth]
    cases answer with
    | none => rfl
    | some release => exact nomatch h

theorem queueCanvas_canvas (L : Ledger Int) (canvas : Int) (need : Bool) (answer : QueueAnswer) :
    (queueCanvas L canvas none need answer).canvas = -1 := by
  unfold queueCanvas
  rw [if_neg (by simp)]
  cases answer <;> rfl

theorem queueCanvas_target (need : Bool) (answer : QueueAnswer) (h : Owns L (canvas :: l)) :
    let r := queueCanvas L canvas none need answer
    Owns r.owned (r.fence :: r.canvas :: l) :=
  queueCanvas_owns need answer h fun _ _ _ hf => nomatch hf

end Queue

theorem handOut_owns {source target : Int} (h : Owns L (source :: target :: l)) (n : Nat)
    (dup : Nat → Option Nat) :
    let out := handOut L n source target dup
    Owns out.2 (out.1 ++ l) := by
  match n with
  | 0 => exact h.close.close
  | 1 => exact (h.perm (.swap ..)).close
  | 2 => exact h
  | n + 3 =>
    have hcopies := h.obtainAll ((List.range' 2 (n + 1)).map fun j =>
      fenceOf (if 0 ≤ source then dup j else none))
    refine hcopies.perm ?_
    exact (List.perm_append_comm_assoc _ [source, target] l)

theorem clearFences_owns {c : Compositor} (h : Owns c.owned (c.fences ++ l)) :
    Owns c.clearFences.owned (c.clearFences.fences ++ l) := by
  obtain ⟨target, layer0, layer1, owned⟩ := c
  have hrest := (h.close).close
  cases layer1 with
  | none => exact hrest.addNone.addNone
  | some layer1 => exact hrest.close.addNone.addNone.addNone

theorem clearFences_fences (c : Compositor) : descriptors c.clearFences.fences = [] := by
  obtain ⟨target, layer0, layer1, owned⟩ := c
  cases layer1 <;> rfl

theorem queueTarget_owns {c : Compositor} {source : Int} (num_fences : Nat) (a : Answers)
    (h : Owns c.owned (source :: (c.fences ++ l))) :
    let r := queueTarget c num_fences source a
    Owns r.compositor.owned (r.fences ++ (r.compositor.fences ++ l)) ∧
      descriptors r.compositor.fences = [] := by
  have htarget := queueCanvas_target (1 < num_fences) a.target (h.perm (.swap ..))
  have hfailed := queueCanvas_failed c.owned c.target none (1 < num_fences) a.target
  unfold queueTarget
  generalize queueCanvas c.owned c.target none (1 < num_fences) a.target = r at htarget hfailed
  dsimp only at htarget ⊢
  have hsource : Owns r.owned (source :: r.fence :: (r.canvas :: c.layer0 :: c.layer1.toList ++ l)) :=
    htarget.perm (show List.Perm ([r.fence, r.canvas] ++ source :: _) _ from List.perm_middle)
  split
  · have hout := handOut_owns hsource num_fences a.dup
    generalize handOut r.owned num_fences source r.fence a.dup = out at hout
    refine ⟨?_, clearFences_fences _⟩
    exact (clearFences_owns (hout.perm (List.perm_append_comm_assoc ..))).perm
      (List.perm_append_comm_assoc ..)
  next hfail =>
    rw [hfailed (Bool.eq_false_iff.mpr hfail)] at hsource
    refine ⟨?_, clearFences_fences _⟩
    exact clearFences_owns (hsource.close.drop (by decide))

theorem queueBuffer_owns {c : Compositor} (num_fences : Nat) (a : Answers)
    (h : Owns c.owned c.fences) (hplain : ¬c.Confuses num_fences a) :
    let r := queueBuffer c num_fences a
    Owns r.compositor.owned (r.fences ++ r.compositor.fences) ∧
      (r.success = true → descriptors r.compositor.fences = []) := by
  have hsource := queueCanvas_owns (0 < num_fences) a.source (h.perm (.swap ..)) fun hc hneed f hf release hrel hzero =>
      hplain ⟨by simpa using hneed, hc, f, hf, release, hrel, hzero⟩
  have hfailed := queueCanvas_failed c.owned c.layer0 c.layer1 (0 < num_fences) a.source
  unfold queueBuffer
  generalize queueCanvas c.owned c.layer0 c.layer1 (0 < num_fences) a.source = r at hsource hfailed
  dsimp only at hsource ⊢
  split
  · exact ⟨h, fun hok => nomatch hok⟩
  have hnext : Owns r.owned (r.fence :: (c.target :: r.canvas :: c.layer1.toList)) :=
    hsource.perm (.cons _ (.swap ..))
  split
  · have htarget := queueTarget_owns (c := { c with layer0 := r.canvas, owned := r.owned })
      (l := []) num_fences a (by simpa [Compositor.fences] using hnext)
    simp only [List.append_nil] at htarget
    exact ⟨htarget.1, fun _ => htarget.2⟩
  next hfail =>
    rw [hfailed (Bool.eq_false_iff.mpr hfail)] at hnext
    have hclear := clearFences_owns (c := { c with layer0 := r.canvas, owned := r.owned })
      (l := []) (by simpa [Compositor.fences] using hnext.drop (by decide))
    rw [List.append_nil] at hclear
    exact ⟨hclear, fun _ => clearFences_fences _⟩

theorem given_owns (target layer0 : Int) (layer1 : Option Int) :
    Owns (given target layer0 layer1).owned (given target layer0 layer1).fences :=
  ⟨.refl _, rfl⟩

theorem preQueueBuffer_owns {canvas : Int} (h : Owns L (canvas :: l)) (answer : QueueAnswer) :
    let r := preQueueBuffer L canvas answer
    Owns r.2.2 (r.2.1 :: l) := by
  cases answer with
  | none => exact h
  | some release => exact ((h.obtain _).perm (.swap ..)).close

theorem copied_owns {c : Compositor} (copies : Bool) (a : Answers) (h : Owns c.owned c.fences) :
    let r := copied c copies a
    Owns r.2.owned r.2.fences := by
  obtain ⟨target, layer0, layer1, owned⟩ := c
  cases layer1 with
  | none => exact h
  | some layer1 =>
    unfold copied preExecute
    dsimp only
    have hsource := preQueueBuffer_owns (l := [target, layer0])
      (h.perm (show List.Perm ([target, layer0] ++ layer1 :: []) _ from List.perm_middle)) a.preSource
    generalize preQueueBuffer owned layer1 a.preSource = source at hsource
    dsimp only at hsource
    have htarget := preQueueBuffer_owns (hsource.perm (.swap ..)) a.preTarget
    generalize preQueueBuffer source.2.2 target a.preTarget = r at htarget
    split
    next =>
      split
      next =>
        split
        · exact htarget.perm (.cons _ (.swap ..))
        · exact h
      next => exact h
    next => exact h

/-- Outside the confused case every fence is accounted for. -/
theorem execute_isSound {c : Compositor} {copies : Bool} {num_fences : Nat} {a : Answers}
    (h : Owns c.owned c.fences)
    (hplain : (copied c copies a).1 = true → a.prepare = true →
      ¬(copied c copies a).2.Confuses num_fences a) :
    (execute c copies num_fences a).IsSound := by
  have hcopied := copied_owns copies a h
  unfold execute
  generalize copied c copies a = r at hcopied hplain
  dsimp only at hcopied ⊢
  split
  next hgo =>
    obtain ⟨hok, hprepare⟩ := Bool.and_eq_true_iff.mp hgo
    obtain ⟨howns, hclosed⟩ := queueBuffer_owns num_fences a hcopied (hplain hok hprepare)
    exact ⟨howns.clean, howns.held, hclosed⟩
  next => exact ⟨hcopied.clean, hcopied.held, fun hok => nomatch hok⟩

/-! ### The confused case -/

theorem handOut_zero_not_isClean {target : Int} (h : Owns L (target :: l))
    (hl : ∀ f ∈ l, f < 0) (dup : Nat → Option Nat) : ¬(handOut L 0 0 target dup).2.IsClean := by
  have h0 : (0 : Int) ∉ l := fun hm => absurd (hl 0 hm) (by decide)
  show ¬(closeFence (closeFence L 0) target).IsClean
  by_cases ht : target = 0
  · subst ht
    exact h.close.close_zero h0
  · refine closeFence_not_isClean (h.close_zero ?_)
    rw [List.mem_cons, not_or]
    exact ⟨fun h => ht h.symm, h0⟩

theorem clearFences_not_isClean {c : Compositor} (h : ¬c.owned.IsClean) :
    ¬c.clearFences.owned.IsClean := by
  obtain ⟨target, layer0, layer1, owned⟩ := c
  have hrest := closeFence_not_isClean (f := layer0) (closeFence_not_isClean (f := target) h)
  cases layer1 with
  | none => exact hrest
  | some layer1 => exact closeFence_not_isClean hrest

/-- The release fence `0` of the source is closed although no one owns it. -/
theorem queueTarget_zero {c : Compositor} (a : Answers) (h : Owns c.owned c.fences)
    (h0 : c.layer0 < 0) (h1 : ∀ f ∈ c.layer1, f < 0) :
    ¬(queueTarget c 0 0 a).compositor.owned.IsClean := by
  have htarget := queueCanvas_target (1 < 0) a.target h
  have hcanvas := queueCanvas_canvas c.owned c.target (1 < 0) a.target
  have hfailed := queueCanvas_failed c.owned c.target none (1 < 0) a.target
  unfold queueTarget
  generalize queueCanvas c.owned c.target none (1 < 0) a.target = r at htarget hfailed hcanvas
  dsimp only at htarget hfailed hcanvas ⊢
  have hneg : ∀ f ∈ r.canvas :: c.layer0 :: c.layer1.toList, f < 0 := by
    intro f hf
    rcases List.mem_cons.mp hf with rfl | hf
    · rw [hcanvas]; decide
    rcases List.mem_cons.mp hf with rfl | hf
    · exact h0
    · exact h1 f (Option.mem_toList.mp hf)
  split
  · exact clearFences_not_isClean (handOut_zero_not_isClean htarget hneg a.dup)
  next hfail =>
    rw [hfailed (Bool.eq_false_iff.mpr hfail)] at htarget
    refine clearFences_not_isClean (htarget.close_zero fun hm => ?_)
    rcases List.mem_cons.mp hm with hm | hm
    · exact absurd hm (by decide)
    · exact absurd (hneg 0 hm) (by decide)

/-- A release fence that is not kept is never closed. -/
theorem queueTarget_lost {c : Compositor} {fd : Nat} (a : Answers)
    (h : Owns c.owned (c.fences ++ [(fd : Int)])) : ¬(queueTarget c 0 (-1) a).IsSound := by
  intro hsound
  have hlost := (queueTarget_owns 0 a h.addNone).1.held
  generalize queueTarget c 0 (-1) a = r at hlost hsound
  have hlen := (hsound.stored.symm.trans hlost).length_eq
  rw [← List.append_assoc] at hlen
  simp [descriptors, List.filter_append] at hlen

theorem queueCanvas_unwritten {canvas blend : Int} (release : Option Nat) (hc : canvas < 0)
    (hb : blend < 0) :
    queueCanvas L canvas (some blend) false (some release) = ⟨true, -1, 0, L⟩ := by
  have hc' : ¬0 ≤ canvas := Int.not_le.mpr hc
  have hb' : ¬0 ≤ blend := Int.not_le.mpr hb
  have hb0 : blend ≠ 0 := Int.ne_of_lt hb
  simp [queueCanvas, asksFence, takesFence, hc', hb', hb0, closeFence_of_neg hc]

theorem queueCanvas_lost {canvas : Int} (fd : Nat) (hc : canvas < 0) :
    queueCanvas L canvas (some 0) false (some (some fd)) = ⟨true, -1, -1, L.obtain fd⟩ := by
  have hc' : ¬0 ≤ canvas := Int.not_le.mpr hc
  simp [queueCanvas, asksFence, takesFence, hc', closeFence_of_neg hc, fenceOf, obtainFence]

theorem queueBuffer_not_isSound {c : Compositor} {num_fences : Nat} {a : Answers}
    (h : Owns c.owned c.fences) (hconf : c.Confuses num_fences a) :
    ¬(queueBuffer c num_fences a).IsSound := by
  obtain ⟨target, layer0, layer1, owned⟩ := c
  obtain ⟨rfl, h0, blend, hblend, release, hrelease, hzero⟩ := hconf
  cases hblend
  have hsource : a.source = some release := hrelease
  have howns : Owns owned [target, -1, blend] :=
    ((h.perm (.swap ..)).drop h0).addNone.perm (.swap ..)
  unfold queueBuffer
  dsimp only at h0 ⊢
  rw [if_neg (Nat.not_lt_zero _), show decide (0 < 0) = false from rfl, hsource]
  rcases hzero with hneg | ⟨rfl, hrel⟩
  · rw [queueCanvas_unwritten release h0 hneg, if_pos rfl]
    refine fun hsound => queueTarget_zero a howns (show (-1 : Int) < 0 by decide) (fun f hf => ?_) hsound.clean
    cases hf
    exact hneg
  · obtain ⟨fd, rfl⟩ := Option.ne_none_iff_exists'.mp hrel
    rw [queueCanvas_lost fd h0, if_pos rfl]
    exact queueTarget_lost a ((howns.obtain fd).perm (List.perm_append_singleton _ _).symm)

theorem confuses_iff (target layer0 : Int) (layer1 : Option Int) (copies : Bool)
    (num_fences : Nat) (a : Answers) :
    Confuses layer0 layer1 copies num_fences a ↔
      let r := copied (given target layer0 layer1) copies a
      r.1 = true ∧ a.prepare = true ∧ r.2.Confuses num_fences a := by
  cases layer1 with
  | none => simp [Confuses, Compositor.Confuses, copied, given]
  | some layer1 =>
    cases copies with
    | false => simp [Confuses, Compositor.Confuses, copied, given, blendFence, and_left_comm]
    | true =>
      cases hpre : a.preQueue <;> cases hs : a.preSource <;> cases ht : a.preTarget <;>
        simp [Confuses, Compositor.Confuses, copied, given, blendFence, preExecute, preQueueBuffer,
          and_left_comm, hpre, hs, ht]

/-- **Fence ownership of an execute** fails exactly where `0` stands for a fence. -/
theorem execute_isSound_iff (target layer0 : Int) (layer1 : Option Int) (copies : Bool)
    (num_fences : Nat) (a : Answers) :
    (execute (given target layer0 layer1) copies num_fences a).IsSound ↔
      ¬Confuses layer0 layer1 copies num_fences a := by
  rw [confuses_iff target layer0 layer1 copies num_fences a]
  have hgiven := given_owns target layer0 layer1
  constructor
  · rintro hsound ⟨hok, hprepare, hconf⟩
    refine queueBuffer_not_isSound (copied_owns copies a hgiven) hconf ?_
    unfold execute at hsound
    dsimp only at hsound
    rwa [hok, hprepare] at hsound
  · intro hplain
    exact execute_isSound hgiven fun hok hprepare hconf => hplain ⟨hok, hprepare, hconf⟩

/-- Every call of the kernel succeeds, without a release fence. -/
def accepting : Answers where
  preQueue := true
  preSource := some none
  preTarget := some none
  prepare := true
  source := some none
  target := some none
  dup := fun _ => none

/-- Two layers without a fence, no release fence requested: descriptor `0` is closed. -/
theorem twoLayers_close_zero :
    ¬(execute (given (-1) (-1) (some (-1))) false 0 accepting).IsSound ∧
      (execute (given (-1) (-1) (some (-1))) false 0 accepting).compositor.owned.wrong = [0] :=
  ⟨fun h => absurd h.clean (by decide), by decide⟩

end ExynosHal.ScalerFences
