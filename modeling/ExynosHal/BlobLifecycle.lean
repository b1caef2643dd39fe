/-
  ExynosHal/BlobLifecycle.lean
  ============================
  **Every property blob has one owner.**

  A blob is held by a mode state (in its current or its old place) or by the state
  of the partial region, or it is queued in the request of the frames; a request of
  its own destroys what it queued when it goes.  `Owned` counts the places of every
  blob, and each call keeps the counts right where it is regular.

  The calls that are not lose blobs (`blobs_astray`): the metadata of an HDR frame
  is held by nobody, a test that fails before its commit forgets the blob that it
  made, clearing the mode forgets the old blob, and a destroy call that fails ends
  the loop over the queue, which then keeps what was destroyed already.
-/
import ExynosHal.DrmModes

namespace ExynosHal.BlobLifecycle

open ExynosHal.TransitionSystem ExynosHal.DrmModes

/-! ### Counting blobs -/

/-- Each blob that was made is destroyed or in the list, and only once. -/
def Accounted (d : Device) (l : List Nat) : Prop :=
  ∀ b, b ≠ 0 → d.destroyed.count b + l.count b = if b ≤ d.blobs.length then 1 else 0

/-- Lists of the same blobs; 0 is none. -/
def SameBlobs (l l' : List Nat) : Prop :=
  ∀ b, b ≠ 0 → l.count b = l'.count b

section Counts

variable {d d' : Device} {l l' : List Nat} {answers : Nat → Errno} {blob : Nat}

theorem Accounted.congr (h : Accounted d l) (hl : SameBlobs l l') : Accounted d l' := by
  intro b hb
  rw [← hl b hb]
  exact h b hb

theorem Accounted.device (h : Accounted d l) (hblobs : d'.blobs = d.blobs)
    (hdestroyed : d'.destroyed = d.destroyed) : Accounted d' l := by
  intro b hb
  rw [hblobs, hdestroyed]
  exact h b hb

theorem Accounted.create (h : Accounted d l) (data : BlobData) :
    Accounted { d with blobs := d.blobs ++ [data] } ((d.blobs.length + 1) :: l) := by
  intro b hb
  have hcount := h b hb
  simp only [List.count_cons, List.length_append, List.length_singleton, beq_iff_eq]
  by_cases hnew : d.blobs.length + 1 = b
  · subst hnew
    rw [if_neg (Nat.not_succ_le_self _)] at hcount
    rw [if_pos rfl, if_pos (Nat.le_refl _)]
    omega
  · rw [if_neg hnew]
    have hiff : b ≤ d.blobs.length + 1 ↔ b ≤ d.blobs.length := by omega
    simp only [hiff]
    exact hcount

/-- A blob that is destroyed leaves the list. -/
theorem Accounted.destroy (h : Accounted d (blob :: l)) (e : Errno)
    (he : blob ≠ 0 → e = 0) : Accounted (DestroyPropertyBlob d blob e).1 l := by
  unfold DestroyPropertyBlob
  split
  · rename_i hzero
    intro b hb
    have hcount := h b hb
    rw [List.count_cons_of_ne (by rw [hzero]; exact fun h => hb h.symm)] at hcount
    exact hcount
  · rename_i hne
    rw [if_pos (he hne)]
    intro b hb
    have hcount := h b hb
    simp only [List.count_cons] at hcount ⊢
    omega

theorem Accounted.dropped (h : Accounted d (blob :: l)) (he : blob ≠ 0 → answers blob = 0) :
    Accounted (d.dropped blob answers) l :=
  h.destroy (answers blob) he

/-- All destroy calls for the list succeed, or the first one fails. -/
def AllOrNone (answers : Nat → Errno) (l : List Nat) : Prop :=
  (∀ b ∈ l, b ≠ 0 → answers b = 0) ∨
    ∃ b, l.find? (fun b => b ≠ 0) = some b ∧ answers b ≠ 0

theorem destroyEach_all (hall : ∀ b ∈ l, b ≠ 0 → answers b = 0) (h : Accounted d (l ++ l')) :
    (destroyEach d answers l).2 = 0 ∧ Accounted (destroyEach d answers l).1 l' := by
  induction l generalizing d with
  | nil => exact ⟨rfl, h⟩
  | cons b l ih =>
    have hb := hall b List.mem_cons_self
    have hret : (DestroyPropertyBlob d b (answers b)).2 = 0 := by
      unfold DestroyPropertyBlob
      split
      · rfl
      · rw [if_pos (hb ‹_›)]
        rfl
    simp only [destroyEach, hret, ne_eq, not_true_eq_false, if_false]
    exact ih (fun b' hb' => hall b' (List.mem_cons_of_mem _ hb')) (h.destroy _ hb)

theorem destroyEach_first (hfirst : l.find? (fun b => b ≠ 0) = some blob)
    (hfail : answers blob ≠ 0) :
    (destroyEach d answers l).2 ≠ 0 ∧ (destroyEach d answers l).1 = d := by
  induction l with
  | nil => cases hfirst
  | cons b l ih =>
    by_cases hzero : b = 0
    · subst hzero
      have hskip : destroyEach d answers (0 :: l) = destroyEach d answers l := rfl
      rw [hskip]
      exact ih (by simpa using hfirst)
    · have hb : b = blob := by simpa [hzero] using hfirst
      subst hb
      have hret : ret (answers b) ≠ 0 := fun h => hfail (ret_eq_zero.mp h)
      have hone : DestroyPropertyBlob d b (answers b) = (d, ret (answers b)) := by
        simp only [DestroyPropertyBlob, if_neg hzero, if_neg hfail]
      simp only [destroyEach, hone]
      rw [if_pos hret]
      exact ⟨hret, rfl⟩

/-- The reset of a request takes all of its queue or nothing. -/
theorem Accounted.reset {req : DrmModeAtomicReq} (h : Accounted d (req.mOldBlobs ++ l))
    (hall : AllOrNone answers req.mOldBlobs) :
    Accounted (req.reset d answers).1 ((req.reset d answers).2.mOldBlobs ++ l) := by
  simp only [DrmModeAtomicReq.reset, DrmModeAtomicReq.destroyOldBlobs]
  rcases hall with hall | ⟨blob, hfirst, hfail⟩
  · obtain ⟨hret, hd⟩ := destroyEach_all hall h
    rw [if_neg (fun hne => hne hret)]
    exact hd
  · obtain ⟨hret, hd⟩ := destroyEach_first (d := d) hfirst hfail
    rw [if_pos hret]
    simp only [hd]
    exact h

end Counts

/-! ### The owners -/

/-- The blobs that the states name as their current ones. -/
def current (s : Interface) : List Nat :=
  [s.mActiveModeState.blob_id, s.mDesiredModeState.blob_id, s.mPartialRegionState.blob_id]

/-- The blobs that the states hold. -/
def held (s : Interface) : List Nat :=
  current s ++ [s.mActiveModeState.old_blob_id, s.mDesiredModeState.old_blob_id]

/-- What was made and is not destroyed is held or queued, once. -/
def Owned (s : Interface) : Prop :=
  Accounted s.device (s.mDrmReq.mOldBlobs ++ held s)

/-! ### When the calls are regular -/

/-- A window makes a metadata blob, if the setup of the windows comes to it. -/
def windowsMake : List Window → Bool
  | [] => false
  | w :: ws =>
    (w.before = 0 && w.metaParcel.isSome && w.create = 0) ||
      (!(w.before < 0 || w.before = 0 && w.after < 0) && windowsMake ws)

/-- No window's setup fails. -/
def windowsOk (ws : List Window) : Bool :=
  ws.all fun w => !(w.before < 0 || w.before = 0 && w.after < 0)

/-- The mode commit of a frame goes through, if there is one. -/
def modeSetOk (s : Interface) (f : Frame) : Bool :=
  !s.mDesiredModeState.needs_modeset || (f.modeset.addsOk && f.modeset.commit = 0)

/-- The region's blob, if there is one and the frame needs and gets a new one. -/
def replacedRegion (s : Interface) (f : Frame) : List Nat :=
  if f.partial_region_property && regionChanges s (clipRect f.win_update_region) &&
      f.createRegion = 0 && s.mPartialRegionState.blob_id ≠ 0 then
    [s.mPartialRegionState.blob_id]
  else []

/-- The region is set up without an error. -/
def regionOk (s : Interface) (f : Frame) : Bool :=
  !f.partial_region_property ||
    (!regionChanges s (clipRect f.win_update_region) || f.createRegion = 0) && f.addRegion = 0

/-- The frame comes as far as its windows. -/
def windowsReached (s : Interface) (f : Frame) : Bool :=
  f.writeback = 0 && regionOk s f && f.out_fence_ptr = 0

/-- The frame makes a metadata blob. -/
def metaMade (s : Interface) (f : Frame) : Bool :=
  modeSetOk s f && windowsReached s f && f.hdr_output_meta && windowsMake f.windows

/-- The frame goes to the driver. -/
def goesOut (s : Interface) (f : Frame) : Bool :=
  modeSetOk s f && windowsReached s f && windowsOk f.windows && f.commit = 0

/-- The queue of `mDrmReq` when the frame is over. -/
def frameQueue (s : Interface) (f : Frame) : List Nat :=
  s.mDrmReq.mOldBlobs ++
    (if modeSetOk s f && f.writeback = 0 then replacedRegion s f else []) ++
    if goesOut s f && s.mDesiredModeState.needs_modeset then
      [s.mActiveModeState.old_blob_id, s.mDesiredModeState.old_blob_id]
    else []

/-- The destroy call for the blob succeeds, if there is one. -/
def Destroys (a : ModeAnswers) (blob : Nat) : Prop :=
  blob ≠ 0 → a.destroys blob = 0

/-- A request that makes a blob for a mode. -/
def makesBlob (s : Interface) (config : Nat) (a : ModeAnswers) : Bool :=
  !sameMode s config && s.mDesiredModeState.mode.id ≠ config && a.create = 0

/-- An immediate request destroys what it has to: the old blob, or its own if it fails. -/
def ImmediateOk (s : Interface) (config : Nat) (a : ModeAnswers) : Prop :=
  sameMode s config = false → a.create = 0 →
    if a.addsOk ∧ a.commit = 0 then Destroys a s.mActiveModeState.old_blob_id
    else Destroys a (s.device.blobs.length + 1)

/-- A call that keeps track of the blobs. -/
def RegularCall (modes : List DrmMode) (s : Interface) : Call → Prop
  | .setActiveConfigWithConstraints config test a =>
    (findMode modes config).isSome → makesBlob s config a →
      (test = true → a.addsOk) ∧
        if test = true ∧ a.commit ≠ 0 then Destroys a (s.device.blobs.length + 1)
        else Destroys a s.mDesiredModeState.old_blob_id
  | .setActiveConfig config a => (findMode modes config).isSome → ImmediateOk s config a
  | .setActiveDrmMode mode a => ImmediateOk s mode.id a
  | .clearActiveDrmMode a => s.mActiveModeState.blob_id ≠ 0 →
      s.mActiveModeState.old_blob_id = 0 ∧ a.destroys s.mActiveModeState.blob_id = 0
  | .resetConfigRequestState => True
  | .deliverWinConfigData f => metaMade s f = false ∧ AllOrNone f.destroys (frameQueue s f)

/-! ### Requests -/

section Requests

variable {modes : List DrmMode} {s : Interface} {config : Nat} {mode : DrmMode} {a : ModeAnswers}

theorem Owned.constraints (h : Owned s) (test : Bool)
    (hreg : RegularCall modes s (.setActiveConfigWithConstraints config test a)) :
    Owned (setActiveConfigWithConstraints modes s config test a).1 := by
  rcases setActiveConfigWithConstraints_cases modes s config test a with
    ⟨r, heq, -⟩ | ⟨mode, d, blob, used, hfind, hsame, hblob, -, hcases⟩
  · rw [heq]
    exact h
  · have hfound : (findMode modes config).isSome := by
      rw [hfind]
      rfl
    rcases requestBlob_cases s mode config a.create with ⟨hid, he, hb⟩ | ⟨-, he, hb⟩ | ⟨hid, hb⟩
    · -- a blob is made
      rw [hb] at hblob
      cases hblob
      obtain ⟨hadds, hdestroys⟩ := hreg hfound (by simp [makesBlob, hsame, hid, he])
      have hmade := h.create (.mode (ToDrmModeModeInfo mode))
      have hstored : ∀ d needs, d.blobs = (s.device.withMode mode).blobs →
          d.destroyed = s.device.destroyed → Destroys a s.mDesiredModeState.old_blob_id →
          Owned (stored s d needs mode (s.device.blobs.length + 1) a.destroys) := by
        intro d needs hblobs hdestroyed hold
        have hd : Accounted d _ := hmade.device hblobs hdestroyed
        unfold stored
        rw [if_pos (Nat.succ_ne_zero _)]
        apply Accounted.dropped _ hold
        apply hd.congr
        intro b _
        simp only [held, current, List.count_cons, List.count_append, List.count_nil,
          List.cons_append, List.nil_append]
        omega
      rcases hcases with ⟨rfl, hbad, -⟩ | ⟨rfl, -, hcommit, heq⟩ | ⟨rfl, -, hcommit, heq⟩ |
        ⟨rfl, heq⟩
      · exact absurd (hadds rfl) hbad
      · rw [heq]
        rw [if_pos ⟨rfl, hcommit⟩] at hdestroys
        exact Accounted.dropped (hmade.device rfl rfl) hdestroys
      · rw [heq]
        rw [if_neg (fun h => h.2 hcommit)] at hdestroys
        exact hstored _ _ rfl rfl hdestroys
      · rw [heq]
        rw [if_neg (fun h => nomatch h.1)] at hdestroys
        exact hstored _ _ rfl rfl hdestroys
    · rw [hb] at hblob
      simp only [Prod.mk.injEq] at hblob
      exact absurd (ret_eq_zero.mp hblob.2.2) he
    · -- the mode is desired already
      rw [hb] at hblob
      cases hblob
      rcases hcases with ⟨-, -, r, -, heq⟩ | ⟨-, -, -, heq⟩ | ⟨-, -, -, heq⟩ | ⟨-, heq⟩
      · rw [heq]
        exact h
      · rw [heq]
        exact h.device rfl rfl
      · rw [heq]
        exact h.device rfl rfl
      · rw [heq]
        exact h.device rfl rfl

theorem Owned.setActiveDrmMode (h : Owned s) (hreg : ImmediateOk s mode.id a) :
    Owned (setActiveDrmMode s mode a).1 := by
  rcases setActiveDrmMode_cases s mode a with ⟨-, heq⟩ | ⟨hsame, hcases⟩
  · rw [heq]
    exact h
  · have hmade := h.create (.mode (ToDrmModeModeInfo mode))
    rcases hcases with ⟨-, heq⟩ | ⟨hcreate, hadds, r, heq⟩ | ⟨hcreate, -, hcommit, heq⟩ |
      ⟨hcreate, hadds, hcommit, heq⟩
    · rw [heq]
      exact h
    · rw [heq]
      have hdestroys := hreg hsame hcreate
      rw [if_neg (fun h => hadds h.1)] at hdestroys
      exact Accounted.dropped hmade hdestroys
    · rw [heq]
      have hdestroys := hreg hsame hcreate
      rw [if_neg (fun h => hcommit h.2)] at hdestroys
      exact Accounted.dropped (hmade.device rfl rfl) hdestroys
    · rw [heq]
      have hdestroys := hreg hsame hcreate
      rw [if_pos ⟨hadds, hcommit⟩] at hdestroys
      apply Accounted.dropped _ hdestroys
      apply Accounted.congr (l := (s.device.blobs.length + 1) :: (s.mDrmReq.mOldBlobs ++ held s))
      · exact hmade.device rfl rfl
      · intro b _
        simp only [held, current, List.count_cons, List.count_append, List.count_nil,
          List.cons_append, List.nil_append]
        omega

theorem Owned.setActiveConfig (h : Owned s)
    (hreg : RegularCall modes s (.setActiveConfig config a)) :
    Owned (setActiveConfig modes s config a).1 := by
  unfold DrmModes.setActiveConfig
  cases hfind : findMode modes config with
  | none => exact h
  | some mode =>
    have hid : mode.id = config := by
      have := List.find?_some hfind
      simpa using this
    have hok : ImmediateOk s mode.id a := by
      rw [hid]
      exact hreg (by rw [hfind]; rfl)
    exact h.setActiveDrmMode hok

theorem Owned.clearActiveDrmMode (h : Owned s)
    (hreg : RegularCall modes s (.clearActiveDrmMode a)) : Owned (clearActiveDrmMode s a).1 := by
  obtain ⟨s', hs'⟩ : ∃ s', s' = if s.mActiveModeState.blob_id ≠ 0 then
      { s with
        device := (DestroyPropertyBlob s.device s.mActiveModeState.blob_id
          (a.destroys s.mActiveModeState.blob_id)).1
        mActiveModeState := {} }
    else s := ⟨_, rfl⟩
  have howned : Owned s' := by
    rw [hs']
    split
    · rename_i hne
      obtain ⟨hold, hdestroys⟩ := hreg hne
      apply Accounted.destroy _ _ (fun _ => hdestroys)
      apply h.congr
      intro b hb
      simp only [held, current, hold, List.count_cons, List.count_append, List.count_nil,
        List.cons_append, List.nil_append, beq_iff_eq, Ne.symm hb, if_false]
      omega
    · exact h
  unfold DrmModes.clearActiveDrmMode
  simp only [← hs']
  split
  · exact howned
  · split
    · exact howned
    · apply Accounted.device howned
      · exact close_blobs
      · rw [close_of_nil]
        · rfl
        · simp only [mOldBlobs_atomicAddProperty]

end Requests

/-! ### Frames -/

section Frames

variable {s s' : Interface} {f : Frame}

/-- A step of a frame: it leaves the mode states, and queues the blobs of the list. -/
structure Queues (s s' : Interface) (l : List Nat) : Prop where
  active : s'.mActiveModeState = s.mActiveModeState
  desired : s'.mDesiredModeState = s.mDesiredModeState
  queue : s'.mDrmReq.mOldBlobs = s.mDrmReq.mOldBlobs ++ l
  owned : Owned s → Owned s'

theorem Queues.refl (s : Interface) : Queues s s [] :=
  ⟨rfl, rfl, (List.append_nil _).symm, fun h => h⟩

/-- A commit, or another property. -/
theorem Queues.frame {d : Device} {req : DrmModeAtomicReq} (hblobs : d.blobs = s.device.blobs)
    (hdestroyed : d.destroyed = s.device.destroyed) (hreq : req.mOldBlobs = s.mDrmReq.mOldBlobs) :
    Queues s { s with device := d, mDrmReq := req } [] := by
  refine ⟨rfl, rfl, ?_, ?_⟩
  · rw [List.append_nil]
    exact hreq
  · intro h
    unfold Owned
    rw [hreq]
    exact Accounted.device h hblobs hdestroyed

theorem Queues.trans {s'' : Interface} {l l' : List Nat} (h : Queues s s' l)
    (h' : Queues s' s'' l') : Queues s s'' (l ++ l') :=
  ⟨h'.active.trans h.active, h'.desired.trans h.desired, by
    rw [h'.queue, h.queue, List.append_assoc], fun ho => h'.owned (h.owned ho)⟩

theorem renewRegion_queues (s : Interface) (rect : DrmClipRect) (e : Errno) :
    Queues s (renewRegion s rect e).1
      (if e = 0 ∧ s.mPartialRegionState.blob_id ≠ 0 then [s.mPartialRegionState.blob_id] else []) := by
  rcases renewRegion_cases s rect e with ⟨he, heq⟩ | ⟨he, heq⟩
  · have hmade : Owned s → Accounted _ _ := fun h => h.create (.partial_region rect)
    rw [heq]
    by_cases hzero : s.mPartialRegionState.blob_id = 0
    · simp only [hzero, ne_eq, not_true_eq_false, and_false, if_false]
      refine ⟨rfl, rfl, ?_, ?_⟩
      · exact (List.append_nil _).symm
      · intro h
        apply (hmade h).congr
        intro b hb
        simp only [held, current, hzero, List.count_cons, List.count_append, List.count_nil,
          List.cons_append, List.nil_append, beq_iff_eq, Ne.symm hb, if_false]
        omega
    · simp only [he, ne_eq, hzero, not_false_eq_true, and_self, if_true]
      refine ⟨rfl, rfl, rfl, ?_⟩
      · intro h
        apply (hmade h).congr
        intro b _
        simp only [held, current, DrmModeAtomicReq.addOldBlob, List.count_cons, List.count_append,
          List.count_nil, List.cons_append, List.nil_append]
        omega
  · rw [heq, if_neg (fun h => he h.1)]
    exact Queues.refl s

theorem renewRegion_ret (s : Interface) (rect : DrmClipRect) (e : Errno) :
    (renewRegion s rect e).2 = ret e := by
  rcases renewRegion_cases s rect e with ⟨he, heq⟩ | ⟨-, heq⟩
  · rw [heq, he]
    rfl
  · rw [heq]

/-- The region's blob is replaced where the frame has another region. -/
theorem setupPartialRegion_queues (s : Interface) (f : Frame) :
    Queues s (setupPartialRegion s f).1 (replacedRegion s f) ∧
      ((setupPartialRegion s f).2 < 0 ↔ regionOk s f = false) := by
  unfold setupPartialRegion replacedRegion regionOk
  cases hprop : f.partial_region_property with
  | false => exact ⟨Queues.refl s, by simp [NO_ERROR]⟩
  | true =>
    have hadd : ∀ s₀ : Interface, Queues s₀ { s₀ with
        mDrmReq := (s₀.mDrmReq.atomicAddProperty .partial_region_property
          s₀.mPartialRegionState.blob_id f.addRegion).1 } [] := fun s₀ =>
      Queues.frame rfl rfl (mOldBlobs_atomicAddProperty _ _ _)
    cases hchanges : regionChanges s (clipRect f.win_update_region) with
    | false =>
      have hgo : ¬(NO_ERROR : Int) < 0 := by decide
      simp only [Bool.not_true, Bool.false_eq_true, if_false, proceed, if_neg hgo,
        atomicAddProperty_ret, ret_neg]
      exact ⟨hadd s, by simp⟩
    | true =>
      have hqueues := renewRegion_queues s (clipRect f.win_update_region) f.createRegion
      simp only [Bool.not_true, Bool.false_eq_true, if_false, if_true, Bool.true_and,
        Bool.false_or, Bool.and_eq_true, decide_eq_true_eq]
      rcases proceed_cases (renewRegion s (clipRect f.win_update_region) f.createRegion) (fun s =>
          ({ s with mDrmReq := (s.mDrmReq.atomicAddProperty .partial_region_property
              s.mPartialRegionState.blob_id f.addRegion).1 },
            (s.mDrmReq.atomicAddProperty .partial_region_property s.mPartialRegionState.blob_id
              f.addRegion).2)) with ⟨hneg, heq⟩ | ⟨hok, heq⟩
      · rw [heq]
        refine ⟨hqueues, ?_⟩
        rw [renewRegion_ret, ret_neg] at hneg
        simp [renewRegion_ret, ret_neg, hneg]
      · rw [heq]
        rw [renewRegion_ret, ret_neg] at hok
        refine ⟨?_, ?_⟩
        · have hboth := hqueues.trans (hadd _)
          rw [List.append_nil] at hboth
          exact hboth
        · simp [atomicAddProperty_ret, ret_neg, Decidable.not_not.mp hok]

/-- A window that makes no metadata blob leaves the blobs. -/
theorem setupWindow_queues (s : Interface) (f : Frame) (w : Window)
    (h : ¬(f.hdr_output_meta = true ∧ w.before = 0 ∧ w.metaParcel.isSome ∧ w.create = 0)) :
    Queues s (setupWindow s f w).1 [] := by
  unfold setupWindow
  split
  · exact Queues.refl s
  · split
    · rename_i hbefore hprop
      rcases setFrameStaticMeta_cases s w with ⟨-, heq⟩ | ⟨info, hinfo, hcreate, -⟩
      · rw [heq]
        exact Queues.refl s
      · exfalso
        apply h
        exact ⟨hprop, Decidable.byContradiction hbefore, by rw [hinfo]; rfl, hcreate⟩
    · exact Queues.refl s

theorem setupWindow_ret (s : Interface) (f : Frame) (w : Window) :
    (setupWindow s f w).2 < 0 ↔ (w.before < 0 || w.before = 0 && w.after < 0) = true := by
  unfold setupWindow
  split
  · rename_i hne
    simp [hne]
  · rename_i hzero
    have hbefore : w.before = 0 := Decidable.byContradiction hzero
    split <;> simp [hbefore]

theorem setupWindows_queues (f : Frame) (ws : List Window)
    (h : (f.hdr_output_meta && windowsMake ws) = false) :
    Queues s (setupWindows s f ws).1 [] ∧ ((setupWindows s f ws).2 < 0 ↔ windowsOk ws = false) := by
  induction ws generalizing s with
  | nil => exact ⟨Queues.refl s, by simp [setupWindows, windowsOk, NO_ERROR]⟩
  | cons w ws ih =>
    have hone : Queues s (setupWindow s f w).1 [] := by
      apply setupWindow_queues
      rintro ⟨hprop, hbefore, hinfo, hcreate⟩
      simp [hprop, windowsMake, hbefore, hinfo, hcreate] at h
    rcases proceed_cases (setupWindow s f w) (fun s => setupWindows s f ws) with
      ⟨hneg, heq⟩ | ⟨hok, heq⟩
    · have hbad := (setupWindow_ret s f w).mp hneg
      simp only [setupWindows, heq]
      refine ⟨hone, ?_⟩
      simp only [hneg, windowsOk, List.all_cons, hbad, Bool.not_true, Bool.false_and]
    · have hgood : (w.before < 0 || w.before = 0 && w.after < 0) = false := by
        rw [← Bool.not_eq_true, ← setupWindow_ret s f w]
        exact hok
      have hrest : (f.hdr_output_meta && windowsMake ws) = false := by
        simp only [windowsMake, hgood, Bool.not_false, Bool.true_and] at h
        cases hprop : f.hdr_output_meta with
        | false => rfl
        | true =>
          rw [hprop, Bool.true_and, Bool.or_eq_false_iff] at h
          exact h.2
      obtain ⟨hqueues, hret⟩ := ih (s := (setupWindow s f w).1) hrest
      simp only [setupWindows, heq]
      refine ⟨hone.trans hqueues, ?_⟩
      simp only [hret, windowsOk, List.all_cons, hgood, Bool.not_false, Bool.true_and]

/-- What comes before the commit of a frame. -/
theorem setupFrame_queues (s : Interface) (f : Frame)
    (hmeta : (windowsReached s f && f.hdr_output_meta && windowsMake f.windows) = false) :
    Queues s (setupFrame s f).1 (if f.writeback = 0 then replacedRegion s f else []) ∧
      ((setupFrame s f).2 < 0 ↔ (windowsReached s f && windowsOk f.windows) = false) := by
  unfold setupFrame
  unfold windowsReached at hmeta ⊢
  by_cases hwriteback : f.writeback = 0
  · have hgo : ¬ret f.writeback < 0 := by
      rw [ret_neg]
      exact not_not_intro hwriteback
    obtain ⟨hregion, hret⟩ := setupPartialRegion_queues s f
    simp only [hwriteback, decide_true, Bool.true_and, if_true] at hmeta ⊢
    rw [hwriteback] at hgo
    rcases proceed_cases (s, ret 0) (fun s => proceed (setupPartialRegion s f) fun s =>
        proceed (s, ret f.out_fence_ptr) fun s => setupWindows s f f.windows) with
      ⟨hneg, -⟩ | ⟨-, heq⟩
    · exact absurd hneg hgo
    · rw [heq]
      rcases proceed_cases (setupPartialRegion s f) (fun s => proceed (s, ret f.out_fence_ptr)
          fun s => setupWindows s f f.windows) with ⟨hneg, heq'⟩ | ⟨hok, heq'⟩
      · simp only [heq']
        refine ⟨hregion, ?_⟩
        simp only [hneg, hret.mp hneg, Bool.false_and]
      · have hregionOk : regionOk s f = true := by
          rw [← Bool.not_eq_false, ← hret]
          exact hok
        simp only [heq']
        simp only [hregionOk, Bool.true_and] at hmeta ⊢
        rcases proceed_cases ((setupPartialRegion s f).1, ret f.out_fence_ptr)
            (fun s => setupWindows s f f.windows) with ⟨hneg, heq''⟩ | ⟨hfence, heq''⟩
        · simp only [heq'']
          have hbad : ¬f.out_fence_ptr = 0 := ret_neg.mp hneg
          refine ⟨hregion, ?_⟩
          simp only [hneg, hbad, decide_false, Bool.false_and]
        · have hgood : f.out_fence_ptr = 0 := Decidable.byContradiction fun h =>
            hfence (ret_neg.mpr h)
          simp only [hgood, decide_true, Bool.true_and] at hmeta heq'' ⊢
          rw [heq'']
          obtain ⟨hwindows, hwret⟩ :=
            setupWindows_queues (s := (setupPartialRegion s f).1) f f.windows hmeta
          refine ⟨?_, hwret⟩
          have hboth := hregion.trans hwindows
          rw [List.append_nil] at hboth
          exact hboth
  · have hneg : ret f.writeback < 0 := ret_neg.mpr hwriteback
    simp only [proceed, if_pos hneg, hwriteback, decide_false, Bool.false_and, if_false]
    exact ⟨Queues.refl s, by simp [hneg]⟩

/-- The desired mode becomes the active one, and both old blobs are queued. -/
theorem applyDesired_owned (h : Owned s) :
    Owned (applyDesired s) ∧ (applyDesired s).mDrmReq.mOldBlobs = s.mDrmReq.mOldBlobs ++
      if s.mDesiredModeState.needs_modeset then
        [s.mActiveModeState.old_blob_id, s.mDesiredModeState.old_blob_id] else [] := by
  unfold applyDesired
  split
  · refine ⟨?_, ?_⟩
    · apply Accounted.congr h
      intro b hb
      simp only [ModeState.apply, ModeState.setMode, DrmModeAtomicReq.addOldBlob, held, current,
        List.count_cons, List.count_append, List.count_nil, List.cons_append, List.nil_append,
        beq_iff_eq, Ne.symm hb, if_false]
      omega
    · simp only [ModeState.apply, ModeState.setMode, DrmModeAtomicReq.addOldBlob, List.append_assoc,
        List.cons_append, List.nil_append]
  · exact ⟨h, (List.append_nil _).symm⟩

/-- A frame after the commit of its mode. -/
theorem finishFrame_owned (h : Owned s)
    (hmeta : (windowsReached s f && f.hdr_output_meta && windowsMake f.windows) = false)
    (r : Interface × Int) (hr : proceed (setupFrame s f) (fun s => proceed (commitFrame s f)
      fun s => (applyDesired s, NO_ERROR)) = r) :
    Owned r.1 ∧ r.1.mDrmReq.mOldBlobs = s.mDrmReq.mOldBlobs ++
      (if f.writeback = 0 then replacedRegion s f else []) ++
      if windowsReached s f && windowsOk f.windows && f.commit = 0 &&
          s.mDesiredModeState.needs_modeset then
        [s.mActiveModeState.old_blob_id, s.mDesiredModeState.old_blob_id] else [] := by
  obtain ⟨hsetup, hret⟩ := setupFrame_queues s f hmeta
  rcases proceed_cases (setupFrame s f) (fun s => proceed (commitFrame s f)
    fun s => (applyDesired s, NO_ERROR)) with ⟨hneg, heq⟩ | ⟨hok, heq⟩
  · rw [heq] at hr
    subst hr
    refine ⟨hsetup.owned h, ?_⟩
    simp only [hret.mp hneg, Bool.false_and, Bool.false_eq_true, if_false, List.append_nil]
    exact hsetup.queue
  · have hgood : (windowsReached s f && windowsOk f.windows) = true := by
      rw [← Bool.not_eq_false, ← hret]
      exact hok
    have hcommit : Queues (setupFrame s f).1 (commitFrame (setupFrame s f).1 f).1 [] :=
      Queues.frame rfl rfl rfl
    have hboth := hsetup.trans hcommit
    rw [List.append_nil] at hboth
    rcases proceed_cases (commitFrame (setupFrame s f).1 f)
      (fun s => (applyDesired s, NO_ERROR)) with ⟨hneg, heq'⟩ | ⟨hgo, heq'⟩
    · rw [heq, heq'] at hr
      subst hr
      have hbad : ¬f.commit = 0 := ret_neg.mp hneg
      refine ⟨hboth.owned h, ?_⟩
      simp only [hbad, decide_false, Bool.and_false, Bool.false_and, Bool.false_eq_true, if_false,
        List.append_nil]
      exact hboth.queue
    · rw [heq, heq'] at hr
      subst hr
      have hzero : f.commit = 0 := Decidable.byContradiction fun hne => hgo (ret_neg.mpr hne)
      obtain ⟨howned, hqueue⟩ := applyDesired_owned (hboth.owned h)
      refine ⟨howned, ?_⟩
      simp only [hgood, hzero, decide_true, Bool.true_and]
      rw [hqueue, hboth.queue, hboth.active, hboth.desired]

end Frames

/-! ### The blobs over a run -/

section Runs

variable {modes : List DrmMode} {s : Interface}

theorem deliverFrame_owned (h : Owned s) (f : Frame) (hmeta : metaMade s f = false) :
    Owned (deliverFrame s f).1 ∧
      (deliverFrame s f).1.mDrmReq.mOldBlobs = frameQueue s f := by
  rw [deliverFrame_eq]
  unfold metaMade at hmeta
  unfold frameQueue goesOut
  cases hneeds : s.mDesiredModeState.needs_modeset with
  | false =>
    have hok : modeSetOk s f = true := by simp [modeSetOk, hneeds]
    have hgo : ¬(NO_ERROR : Int) < 0 := by decide
    simp only [hok, Bool.true_and] at hmeta ⊢
    obtain ⟨howned, hqueue⟩ := finishFrame_owned h hmeta _ rfl
    simp only [proceed, Bool.false_eq_true, if_false, if_neg hgo, Bool.and_false] at hqueue ⊢
    refine ⟨howned, ?_⟩
    rw [hqueue, hneeds]
    simp only [Bool.and_false, Bool.false_eq_true, if_false, decide_eq_true_eq]
  | true =>
    rcases deliverModeSet_cases s f.modeset with ⟨hadds, r, hneg, heq⟩ | ⟨hadds, heq⟩
    · have hbad : modeSetOk s f = false := by simp [modeSetOk, hneeds, hadds]
      simp only [if_true, heq, proceed, if_pos hneg, hbad, Bool.false_and, Bool.false_eq_true,
        if_false, List.append_nil]
      exact ⟨h, trivial⟩
    · have hlogged : Owned { s with
          device := s.device.logged false s.mDesiredModeState.blob_id f.modeset.commit } :=
        Accounted.device h rfl rfl
      by_cases hcommit : f.modeset.commit = 0
      · have hok : modeSetOk s f = true := by simp [modeSetOk, hneeds, hadds, hcommit]
        have hgo : ¬ret f.modeset.commit < 0 := by
          rw [hcommit]
          decide
        simp only [hok, Bool.true_and] at hmeta ⊢
        obtain ⟨howned, hqueue⟩ := finishFrame_owned hlogged hmeta _ rfl
        rw [if_pos trivial, heq, proceed, if_neg hgo]
        refine ⟨howned, ?_⟩
        rw [hqueue]
        simp only [hneeds, decide_eq_true_eq]
        rfl
      · have hbad : modeSetOk s f = false := by simp [modeSetOk, hneeds, hcommit]
        have hneg : ret f.modeset.commit < 0 := ret_neg.mpr hcommit
        simp only [if_true, heq, proceed, if_pos hneg, hbad, Bool.false_and, Bool.false_eq_true,
          if_false, List.append_nil]
        exact ⟨hlogged, trivial⟩

theorem Owned.deliver (h : Owned s) (f : Frame)
    (hreg : RegularCall modes s (.deliverWinConfigData f)) : Owned (deliverWinConfigData s f).1 := by
  obtain ⟨hmeta, hall⟩ := hreg
  obtain ⟨howned, hqueue⟩ := deliverFrame_owned h f hmeta
  rw [← hqueue] at hall
  exact Accounted.reset howned hall

theorem Owned.next (h : Owned s) (c : Call) (hreg : RegularCall modes s c) :
    Owned (exec modes s c).1 := by
  cases c with
  | setActiveConfigWithConstraints config test a => exact h.constraints test hreg
  | setActiveConfig config a => exact h.setActiveConfig hreg
  | setActiveDrmMode mode a => exact h.setActiveDrmMode hreg
  | clearActiveDrmMode a => exact h.clearActiveDrmMode hreg
  | resetConfigRequestState => exact h
  | deliverWinConfigData f => exact h.deliver f hreg

def RegularlyReached (modes : List DrmMode) : Interface → Prop :=
  Reachable (fun s => ∃ crtc, s = { crtcId := crtc })
    (guarded (RegularCall modes) (ofFun fun s c => (exec modes s c).1))

theorem Owned.start (crtc : Nat) : Owned { crtcId := crtc } := by
  intro b hb
  have hnone : ¬b ≤ 0 := fun h => hb (Nat.le_zero.mp h)
  simp only [held, current, List.count_nil, List.count_cons, List.cons_append, List.nil_append,
    List.length_nil, beq_iff_eq, Ne.symm hb, hnone, if_false]

theorem RegularlyReached.owned (h : RegularlyReached modes s) : Owned s := by
  refine Reachable.invariant ?_ ?_ h
  · rintro s ⟨crtc, rfl⟩
    exact Owned.start crtc
  · rintro s c s' hs ⟨hreg, rfl⟩
    exact hs.next c hreg

/-- **Property blobs.** In a run of regular calls a blob is destroyed at most once, no blob that a
    state holds or a request has queued was destroyed, and every blob that was made is held,
    queued or destroyed. -/
theorem blobs_tracked (h : RegularlyReached modes s) (b : Nat) (hb : b ≠ 0) :
    s.device.destroyed.count b ≤ 1 ∧
      (b ∈ s.mDrmReq.mOldBlobs ++ held s → b ∉ s.device.destroyed) ∧
      (b ≤ s.device.blobs.length →
        b ∈ held s ∨ b ∈ s.mDrmReq.mOldBlobs ∨ b ∈ s.device.destroyed) := by
  have hcount := h.owned b hb
  have hone : s.device.destroyed.count b + (s.mDrmReq.mOldBlobs ++ held s).count b ≤ 1 := by
    rw [hcount]
    split <;> omega
  refine ⟨by omega, ?_, ?_⟩
  · intro hin hdestroyed
    have hpos := List.count_pos_iff.mpr hin
    have hpos' := List.count_pos_iff.mpr hdestroyed
    omega
  · intro hle
    rw [if_pos hle] at hcount
    by_cases hdestroyed : b ∈ s.device.destroyed
    · exact Or.inr (Or.inr hdestroyed)
    · rw [List.count_eq_zero_of_not_mem hdestroyed] at hcount
      have hin : b ∈ s.mDrmReq.mOldBlobs ++ held s := List.count_pos_iff.mp (by omega)
      rcases List.mem_append.mp hin with hin | hin
      · exact Or.inr (Or.inl hin)
      · exact Or.inl hin

end Runs

/-! ### Blobs that go astray -/

def panelModes : List DrmMode := [{ id := 1 }, { id := 2 }, { id := 3 }]

def runCalls (calls : List Call) : Interface :=
  calls.foldl (fun s c => (exec panelModes s c).1) {}

/-- A frame of a part of the screen. -/
def regionFrame (x : Nat) : Frame :=
  { partial_region_property := true, win_update_region := ⟨x, 0, 8, 8, 0, 0⟩ }

/-- Two modes, and two frames with different regions. -/
def regularCalls : List Call :=
  [.setActiveConfig 1 {}, .setActiveConfigWithConstraints 2 false {},
    .deliverWinConfigData (regionFrame 0), .deliverWinConfigData (regionFrame 8)]

/-- The region blob of the first frame is destroyed, once, by the second one. -/
theorem firstRegion_tracked :
    (runCalls regularCalls).device.destroyed.count 3 ≤ 1 ∧
      (3 ≤ (runCalls regularCalls).device.blobs.length →
        3 ∈ held (runCalls regularCalls) ∨ 3 ∈ (runCalls regularCalls).mDrmReq.mOldBlobs ∨
          3 ∈ (runCalls regularCalls).device.destroyed) := by
  have hstart : RegularlyReached panelModes {} := Reachable.start ⟨0, rfl⟩
  have hfirst : RegularCall panelModes {} (.setActiveConfig 1 {}) := fun _ _ _ _ => rfl
  have hreached : RegularlyReached panelModes (runCalls [.setActiveConfig 1 {}]) :=
    Reachable.next hstart ⟨hfirst, rfl⟩
  have hsecond : RegularCall panelModes (runCalls [.setActiveConfig 1 {}])
      (.setActiveConfigWithConstraints 2 false {}) := fun _ _ => ⟨fun _ => ⟨rfl, rfl⟩, fun _ => rfl⟩
  have hreached' : RegularlyReached panelModes
      (runCalls [.setActiveConfig 1 {}, .setActiveConfigWithConstraints 2 false {}]) :=
    Reachable.next hreached ⟨hsecond, rfl⟩
  have hframe : ∀ s x, RegularCall panelModes s (.deliverWinConfigData (regionFrame x)) := by
    intro s x
    refine ⟨?_, Or.inl fun _ _ _ => rfl⟩
    simp [metaMade, regionFrame]
  have hdone : RegularlyReached panelModes (runCalls regularCalls) :=
    Reachable.next (Reachable.next hreached' ⟨hframe _ 0, rfl⟩) ⟨hframe _ 8, rfl⟩
  obtain ⟨hone, -, hall⟩ := blobs_tracked hdone 3 (by decide)
  exact ⟨hone, hall⟩

/-- A frame with one HDR window. -/
def hdrFrame : Frame :=
  { hdr_output_meta := true
    windows := [{ metaParcel := some ⟨(0, 0), (0, 0), (0, 0), 0, 0, 0, 0⟩ }] }

/-- The blob was made and is nowhere. -/
def Forgotten (s : Interface) (b : Nat) : Prop :=
  b ≤ s.device.blobs.length ∧ b ∉ s.mDrmReq.mOldBlobs ++ held s ∧ b ∉ s.device.destroyed

instance (s : Interface) (b : Nat) : Decidable (Forgotten s b) :=
  inferInstanceAs (Decidable (_ ∧ _ ∧ _))

/-- Two modes are applied, and the destroy call for the region of the frame before fails. -/
def failingDestroy : List Call :=
  [.deliverWinConfigData (regionFrame 0), .setActiveConfigWithConstraints 1 false {},
    .deliverWinConfigData {}, .setActiveConfigWithConstraints 2 false {},
    .deliverWinConfigData {}, .setActiveConfigWithConstraints 3 false {},
    .deliverWinConfigData { regionFrame 8 with destroys := fun b => if b = 2 then 5 else 0 },
    .deliverWinConfigData {}]

/-- **Blobs astray.** The metadata blob of an HDR frame, the blob of a test whose property is not
    taken, the old blob of a mode that is cleared and the blob whose destroy call fails in a request
    of its own are forgotten; and after a failure in the frames' queue a blob is destroyed twice. -/
theorem blobs_astray :
    Forgotten (runCalls [.deliverWinConfigData hdrFrame]) 1 ∧
      Forgotten (runCalls [.setActiveConfigWithConstraints 1 true { addMode := 22 }]) 1 ∧
      Forgotten (runCalls [.setActiveConfig 1 {}, .setActiveConfig 2 {}, .clearActiveDrmMode {}])
        1 ∧
      Forgotten (runCalls [.setActiveConfig 1 {}, .setActiveConfig 2 {},
        .setActiveConfig 3 { destroys := fun _ => 5 }]) 1 ∧
      (runCalls failingDestroy).device.destroyed.count 1 = 2 := by
  decide +kernel

end ExynosHal.BlobLifecycle
