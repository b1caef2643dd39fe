/-
  ExynosHal/FramebufferLifetime.lean
  ==================================
  **No framebuffer is removed while it is on a screen.**

  `canRemoveBuffer` tells by two times that a framebuffer is in the last commit
  of a display type: a flip gives the time of its commit to whatever is staged.
  That is right where only the framebuffers of the flipping display are staged,
  and where no two displays of one type show frames (`shown_not_removed`).  The
  manager checks neither, so that displays whose frames overlap, or two displays
  of one type, lose framebuffers that they show (`crossing_frames_removed`).
-/
import ExynosHal.FramebufferManager

namespace ExynosHal.FramebufferLifetime

open ExynosHal.WindowConfig ExynosHal.FramebufferManager

section Runs

variable {D : Type} {type : D → DisplayType} {w w' : World D}

/-- The framebuffer is staged or cached, and is in the last commit of the display type. -/
def Protected (w : World D) (t : DisplayType) (x : Nat) : Prop :=
  ∃ fb ∈ w.mStagingBuffers ++ w.mCachedBuffers, fb.fbId = x ∧ w.mLastActiveCommitTime t ≠ 0 ∧
    fb.lastActiveTime t = w.mLastActiveCommitTime t

/-- A call is safe: a flip comes when no other display makes a frame, it says whether there was a
    commit, and when a display begins or ends to show its frame there is no other of its type
    that shows one. -/
def SafeCall (type : D → DisplayType) (w : World D) : Op D → Prop
  | .flipFBs d isActiveCommit time =>
    (∀ d', d' ≠ d → w.pending d' = []) ∧ isActiveCommit = w.committed d ∧
      (isActiveCommit = true → time ≠ 0 ∧ ∀ d', d' ≠ d → type d' = type d → w.shown d' = [])
  | .onDisplayRemoved d => ∀ d', d' ≠ d → type d' = type d → w.shown d' = []
  | _ => True

/-- What is shown is in the frame that is made, or with its display, or protected. -/
structure Kept (type : D → DisplayType) (w : World D) : Prop where
  pending : ∀ d, ∀ x ∈ w.pending d, x ∈ ids w.mStagingBuffers ∨ x ∈ w.mFbIds d
  committed : ∀ d, w.committed d = true → ∀ x ∈ w.shown d, x ∈ w.pending d
  flipped : ∀ d, w.committed d = false → ∀ x ∈ w.shown d,
    x ∈ w.mOldFbIds d ∨ Protected w (type d) x

theorem Kept.start : Kept type (World.empty : World D) := by
  refine ⟨?_, ?_, ?_⟩
  · intro d x hx
    simp [World.empty] at hx
  · intro d h
    simp [World.empty] at h
  · intro d _ x hx
    simp [World.empty] at hx

theorem canRemoveBuffer_of_protected {fb : Framebuffer} {t : DisplayType}
    (h₀ : w.mLastActiveCommitTime t ≠ 0) (h : fb.lastActiveTime t = w.mLastActiveCommitTime t) :
    canRemoveBuffer w fb = false := by
  have hmem : t ∈ displayTypes := by cases t <;> decide
  rw [Bool.eq_false_iff]
  intro hall
  have := List.all_eq_true.mp hall t hmem
  simp [h₀, h] at this

theorem Protected.mem {t : DisplayType} {x : Nat} (h : Protected w t x) :
    x ∈ ids w.mStagingBuffers ∨ x ∈ ids w.mCachedBuffers := by
  obtain ⟨fb, hfb, rfl, -⟩ := h
  rcases List.mem_append.mp hfb with hfb | hfb
  · exact Or.inl (List.mem_map_of_mem hfb)
  · exact Or.inr (List.mem_map_of_mem hfb)

/-- Protection goes on while the framebuffer stays with the manager and keeps its time. -/
theorem Protected.mono (w' : World D) {t : DisplayType} {x : Nat} (h : Protected w t x)
    (hlast : w'.mLastActiveCommitTime t = w.mLastActiveCommitTime t)
    (hkeep : ∀ fb ∈ w.mStagingBuffers ++ w.mCachedBuffers, canRemoveBuffer w fb = false →
      ∃ fb' ∈ w'.mStagingBuffers ++ w'.mCachedBuffers, fb'.fbId = fb.fbId ∧
        fb'.lastActiveTime t = fb.lastActiveTime t) : Protected w' t x := by
  obtain ⟨fb, hfb, rfl, h₀, htime⟩ := h
  obtain ⟨fb', hfb', hid, htime'⟩ := hkeep fb hfb (canRemoveBuffer_of_protected h₀ htime)
  exact ⟨fb', hfb', hid, hlast ▸ h₀, by rw [htime', htime, hlast]⟩

/-- A call that touches neither the frames nor the lists of the displays, and keeps what is
    protected. -/
theorem Kept.of_protected (h : Kept type w) (hpending : w'.pending = w.pending)
    (hcommitted : w'.committed = w.committed) (hshown : w'.shown = w.shown)
    (hfb : w'.mFbIds = w.mFbIds) (hold : w'.mOldFbIds = w.mOldFbIds)
    (hstaging : w'.mStagingBuffers = w.mStagingBuffers)
    (hprotected : ∀ t x, Protected w t x → Protected w' t x) : Kept type w' := by
  refine ⟨?_, ?_, ?_⟩
  · intro d x hx
    rw [hstaging, hfb]
    exact h.pending d x (hpending ▸ hx)
  · intro d hd x hx
    rw [hpending]
    exact h.committed d (hcommitted ▸ hd) x (hshown ▸ hx)
  · intro d hd x hx
    rw [hold]
    exact (h.flipped d (hcommitted ▸ hd) x (hshown ▸ hx)).imp_right (hprotected _ _)

theorem removeBufferInternal_protected (compareFunc : Framebuffer → Bool) (t : DisplayType) (x : Nat)
    (h : Protected w t x) : Protected (removeBufferInternal w compareFunc) t x := by
  refine h.mono (removeBufferInternal w compareFunc) rfl ?_
  intro fb hfb hcan
  rcases List.mem_append.mp hfb with hfb | hfb
  · exact ⟨fb, List.mem_append_left _ hfb, rfl, rfl⟩
  · refine ⟨if chosen compareFunc fb then { fb with removePending := true } else fb, ?_, ?_, ?_⟩
    · apply List.mem_append_right
      apply List.mem_map_of_mem
      simp [hfb, hcan]
    · split <;> rfl
    · split <;> rfl

theorem collect_protected (t : DisplayType) (x : Nat) (h : Protected w t x) :
    Protected (collect w) t x := by
  refine h.mono (collect w) rfl ?_
  intro fb hfb hcan
  refine ⟨fb, ?_, rfl, rfl⟩
  rcases List.mem_append.mp hfb with hfb | hfb
  · exact List.mem_append_left _ hfb
  · apply List.mem_append_right
    have hperm := evict_perm (canRemoveBuffer w) (w.mCachedBuffers.length - MAX_CACHED_BUFFERS)
      w.mCachedBuffers.reverse
    have hin := hperm.mem_iff.mpr (List.mem_reverse.mpr hfb)
    rcases List.mem_append.mp hin with hin | hin
    · exact List.mem_reverse.mpr hin
    · have hremovable := evict_removable _ _ _ fb hin
      rw [hcan] at hremovable
      cases hremovable

variable [DecidableEq D] {desc : Nat → FormatDesc}

theorem Kept.commit (h : Kept type w) (d : D) : Kept type (commit w d) := by
  refine ⟨h.pending, ?_, ?_⟩
  · intro d' hd' x hx
    by_cases heq : d' = d
    · subst heq
      simpa [FramebufferManager.commit] using hx
    · simp only [FramebufferManager.commit, Function.update_of_ne heq] at hd' hx
      exact h.committed d' hd' x hx
  · intro d' hd' x hx
    by_cases heq : d' = d
    · subst heq
      simp [FramebufferManager.commit] at hd'
    · simp only [FramebufferManager.commit, Function.update_of_ne heq] at hd' hx
      exact h.flipped d' hd' x hx

/-- A display gets a framebuffer that is staged, or its own. -/
theorem Kept.got (h : Kept type w) (d : D) (x : Nat) (hcommitted : w'.committed = w.committed)
    (hshown : w'.shown = w.shown) (hold : w'.mOldFbIds = w.mOldFbIds)
    (hpending : w'.pending = Function.update w.pending d (w.pending d ++ [x]))
    (hstaging : ∀ y ∈ ids w.mStagingBuffers, y ∈ ids w'.mStagingBuffers)
    (hfb : ∀ d', ∀ y ∈ w.mFbIds d', y ∈ w'.mFbIds d')
    (hx : x ∈ ids w'.mStagingBuffers ∨ x ∈ w'.mFbIds d)
    (hprotected : ∀ t x, Protected w t x → Protected w' t x) : Kept type w' := by
  have hgrow : ∀ d', ∀ y ∈ w.pending d', y ∈ w'.pending d' := by
    intro d' y hy
    rw [hpending]
    by_cases heq : d' = d
    · subst heq
      simp [hy]
    · rwa [Function.update_of_ne heq]
  refine ⟨?_, ?_, ?_⟩
  · intro d' y hy
    have hold' : y ∈ w.pending d' → y ∈ ids w'.mStagingBuffers ∨ y ∈ w'.mFbIds d' := fun hy =>
      (h.pending d' y hy).imp (hstaging y) (hfb d' y)
    rw [hpending] at hy
    by_cases heq : d' = d
    · subst heq
      rw [Function.update_self] at hy
      rcases List.mem_append.mp hy with hy | hy
      · exact hold' hy
      · rw [List.mem_singleton.mp hy]
        exact hx
    · rw [Function.update_of_ne heq] at hy
      exact hold' hy
  · intro d' hd' y hy
    exact hgrow d' y (h.committed d' (hcommitted ▸ hd') y (hshown ▸ hy))
  · intro d' hd' y hy
    rw [hold]
    exact (h.flipped d' (hcommitted ▸ hd') y (hshown ▸ hy)).imp_right (hprotected _ _)

theorem Kept.getBuffer (h : Kept type w) (d : D) (c : WinConfig) (caching : Bool) (a : Answers) :
    Kept type (getBuffer desc type w d c caching a).1 := by
  unfold FramebufferManager.getBuffer
  split
  · rename_i fb rest hlook
    split_ifs at hlook
    obtain ⟨l, -, htake⟩ := Option.bind_eq_some_iff.mp hlook
    have hperm := (takeFirst_spec htake).2
    refine h.got d fb.fbId rfl rfl rfl rfl ?_ (fun _ _ hy => hy) (Or.inl ?_) ?_
    · intro y hy
      exact ids_append _ _ ▸ List.mem_append_left _ hy
    · exact ids_append _ _ ▸ List.mem_append_right _ (List.mem_singleton_self _)
    · intro t x hp
      refine hp.mono _ rfl fun fb' hfb' _ => ⟨fb', ?_, rfl, rfl⟩
      rcases List.mem_append.mp hfb' with hfb' | hfb'
      · exact List.mem_append_left _ (List.mem_append_left _ hfb')
      · rcases List.mem_cons.mp (hperm.mem_iff.mp hfb') with rfl | hfb'
        · exact List.mem_append_left _ (List.mem_append_right _ (List.mem_singleton_self _))
        · exact List.mem_append_right _ hfb'
  · unfold createBuffer
    split
    · exact h
    · split_ifs
      · exact h
      · refine h.got d w.nextFb rfl rfl rfl rfl ?_ (fun _ _ hy => hy) (Or.inl ?_) ?_
        · intro y hy
          exact ids_append _ _ ▸ List.mem_append_left _ hy
        · exact ids_append _ _ ▸ List.mem_append_right _ (List.mem_singleton_self _)
        · intro t x hp
          refine hp.mono _ rfl fun fb' hfb' _ => ⟨fb', ?_, rfl, rfl⟩
          rcases List.mem_append.mp hfb' with hfb' | hfb'
          · exact List.mem_append_left _ (List.mem_append_left _ hfb')
          · exact List.mem_append_right _ hfb'
      · refine h.got d w.nextFb rfl rfl rfl rfl (fun _ hy => hy) ?_ (Or.inr ?_) (fun _ _ hp => hp)
        · intro d' y hy
          by_cases heq : d' = d
          · subst heq
            simp [World.got, hy]
          · simpa [World.got, Function.update_of_ne heq] using hy
        · simp [World.got]

/-! ### Flips -/

theorem flipUncached_manager (w : World D) (d : D) (isActiveCommit : Bool) :
    (flipUncached w d isActiveCommit).mStagingBuffers = w.mStagingBuffers ∧
      (flipUncached w d isActiveCommit).mCachedBuffers = w.mCachedBuffers ∧
      (flipUncached w d isActiveCommit).mLastActiveCommitTime = w.mLastActiveCommitTime := by
  unfold flipUncached
  split_ifs <;> exact ⟨rfl, rfl, rfl⟩

theorem flipUncached_frames (w : World D) (d : D) (isActiveCommit : Bool) :
    (flipUncached w d isActiveCommit).pending = w.pending ∧
      (flipUncached w d isActiveCommit).committed = w.committed ∧
      (flipUncached w d isActiveCommit).shown = w.shown := by
  unfold flipUncached
  split_ifs <;> exact ⟨rfl, rfl, rfl⟩

/-- The framebuffers of a commit become those that the display shows. -/
theorem flipUncached_active (w : World D) (d : D) {x : Nat} (hx : x ∈ w.mFbIds d) :
    x ∈ (flipUncached w d true).mOldFbIds d := by
  unfold flipUncached
  split_ifs with hempty
  · rw [hempty] at hx
    cases hx
  · simpa using hx
  · rename_i hnot
    exact absurd rfl hnot

theorem flipUncached_old (w : World D) (d d' : D) (isActiveCommit : Bool)
    (h : d' ≠ d ∨ isActiveCommit = false) :
    (flipUncached w d isActiveCommit).mOldFbIds d' = w.mOldFbIds d' := by
  unfold flipUncached
  split_ifs with hempty hactive
  · rfl
  · rcases h with h | h
    · exact Function.update_of_ne h _ _
    · rw [h] at hactive
      cases hactive
  · rfl

omit [DecidableEq D] in
/-- What is staged when a commit is flipped is protected. -/
theorem flip_marks (w : World D) (t : DisplayType) {time x : Nat} (htime : time ≠ 0)
    (hx : x ∈ ids w.mStagingBuffers) : Protected (flip w t true time) t x := by
  obtain ⟨fb, hfb, rfl⟩ := List.mem_map.mp hx
  refine ⟨fb.updateLastActiveTime t time, ?_, rfl, ?_, ?_⟩
  · exact List.mem_append_right _ (List.mem_append_left _ (List.mem_map_of_mem hfb))
  · simpa [FramebufferManager.flip] using htime
  · simp [FramebufferManager.flip, Framebuffer.updateLastActiveTime]

omit [DecidableEq D] in
/-- A flip keeps what is protected for another display type, or for any when there was no
    commit. -/
theorem flip_protected {t t' : DisplayType} {isActiveCommit : Bool} {x : Nat} (time : Nat)
    (hne : isActiveCommit = true → t' ≠ t) (h : Protected w t' x) :
    Protected (flip w t isActiveCommit time) t' x := by
  cases isActiveCommit with
  | false =>
    refine h.mono _ rfl fun fb hfb _ => ⟨fb, ?_, rfl, rfl⟩
    exact List.mem_append_right _ hfb
  | true =>
    refine h.mono _ ?_ fun fb hfb _ => ?_
    · exact Function.update_of_ne (hne rfl) _ _
    · rcases List.mem_append.mp hfb with hfb | hfb
      · refine ⟨fb.updateLastActiveTime t time, ?_, rfl, ?_⟩
        · exact List.mem_append_right _ (List.mem_append_left _ (List.mem_map_of_mem hfb))
        · exact Function.update_of_ne (hne rfl) _ _
      · exact ⟨fb, List.mem_append_right _ (List.mem_append_right _ hfb), rfl, rfl⟩

theorem Kept.flipFBs (h : Kept type w) (d : D) (isActiveCommit : Bool) (time : Nat)
    (hsafe : SafeCall type w (.flipFBs d isActiveCommit time)) :
    Kept type (flipFBs type w d isActiveCommit time) := by
  obtain ⟨halone, hcommit, hactive⟩ := hsafe
  obtain ⟨hstaging, hcached, hlast⟩ := flipUncached_manager w d isActiveCommit
  obtain ⟨hpending, hcommitted, hshown⟩ := flipUncached_frames w d isActiveCommit
  have hsame : ∀ t x, Protected w t x → Protected (flipUncached w d isActiveCommit) t x := by
    intro t x hp
    unfold Protected at hp ⊢
    rwa [hstaging, hcached, hlast]
  refine ⟨?_, ?_, ?_⟩
  · intro d' x hx
    by_cases heq : d' = d
    · subst heq
      simp [FramebufferManager.flipFBs] at hx
    · simp [FramebufferManager.flipFBs, FramebufferManager.flip, hpending, heq, halone d' heq] at hx
  · intro d' hd' x hx
    by_cases heq : d' = d
    · subst heq
      simp [FramebufferManager.flipFBs] at hd'
    · simp only [FramebufferManager.flipFBs, FramebufferManager.flip, hcommitted, hshown,
        Function.update_of_ne heq] at hd' hx
      have := h.committed d' hd' x hx
      rw [halone d' heq] at this
      cases this
  · intro d' hd' x hx
    have hx' : x ∈ w.shown d' := by simpa [FramebufferManager.flipFBs, FramebufferManager.flip, hshown] using hx
    by_cases heq : d' = d
    · subst heq
      cases isActiveCommit with
      | true =>
        -- the commit was of what the display got for its frame
        rcases h.pending d' x (h.committed d' hcommit.symm x hx') with hin | hin
        · right
          exact flip_marks _ _ (hactive rfl).1 (hstaging ▸ hin)
        · left
          exact flipUncached_active w d' hin
      | false =>
        rcases h.flipped d' hcommit.symm x hx' with hin | hin
        · left
          exact (flipUncached_old w d' d' false (Or.inr rfl)).symm ▸ hin
        · right
          exact flip_protected time (fun h => by cases h) (hsame _ x hin)
    · have hnot : w.committed d' = false := by
        simpa [FramebufferManager.flipFBs, FramebufferManager.flip, hcommitted, heq] using hd'
      rcases h.flipped d' hnot x hx' with hin | hin
      · left
        exact (flipUncached_old w d d' isActiveCommit (Or.inl heq)).symm ▸ hin
      · right
        apply flip_protected time _ (hsame _ x hin)
        intro hact htype
        rw [(hactive hact).2 d' heq htype] at hx'
        cases hx'

theorem Kept.onDisplayRemoved (h : Kept type w) (d : D)
    (hsafe : SafeCall type w (.onDisplayRemoved d)) : Kept type (onDisplayRemoved type w d) := by
  have hkept : Kept type ({ w with
      mLastActiveCommitTime := Function.update w.mLastActiveCommitTime (type d) 0
      shown := Function.update w.shown d [] } : World D) := by
    have hsub : ∀ d', ∀ x ∈ Function.update w.shown d [] d', x ∈ w.shown d' ∧ type d' ≠ type d := by
      intro d' x hx
      by_cases heq : d' = d
      · subst heq
        simp at hx
      · rw [Function.update_of_ne heq] at hx
        refine ⟨hx, fun htype => ?_⟩
        rw [hsafe d' heq htype] at hx
        cases hx
    refine ⟨h.pending, ?_, ?_⟩
    · intro d' hd' x hx
      exact h.committed d' hd' x (hsub d' x hx).1
    · intro d' hd' x hx
      obtain ⟨hx', htype⟩ := hsub d' x hx
      refine (h.flipped d' hd' x hx').imp_right fun hp => ?_
      refine hp.mono _ (Function.update_of_ne htype _ _) fun fb hfb _ => ⟨fb, hfb, rfl, rfl⟩
  exact hkept.of_protected rfl rfl rfl rfl rfl rfl (removeBufferInternal_protected _)

theorem Kept.step (h : Kept type w) (op : Op D) (hsafe : SafeCall type w op) :
    Kept type (step desc type w op) := by
  cases op with
  | getBuffer d c caching a => exact h.getBuffer d c caching a
  | commit d => exact h.commit d
  | flipFBs d isActiveCommit time => exact h.flipFBs d isActiveCommit time hsafe
  | removeBuffer bufferId =>
    exact h.of_protected rfl rfl rfl rfl rfl rfl (removeBufferInternal_protected _)
  | removeBuffersForDisplay t =>
    exact h.of_protected rfl rfl rfl rfl rfl rfl (removeBufferInternal_protected _)
  | removeBuffersForOwner owner =>
    exact h.of_protected rfl rfl rfl rfl rfl rfl (removeBufferInternal_protected _)
  | onDisplayRemoved d => exact h.onDisplayRemoved d hsafe
  | collect => exact h.of_protected rfl rfl rfl rfl rfl rfl collect_protected
  | clear => exact h.of_protected rfl rfl rfl rfl rfl rfl fun _ _ hp => hp

end Runs

/-! ### Runs -/

section Lifetime

variable {D : Type} [DecidableEq D] {desc : Nat → FormatDesc} {type : D → DisplayType} {w : World D}

/-- The worlds that the displays reach by safe calls. -/
def SafelyReached (desc : Nat → FormatDesc) (type : D → DisplayType) : World D → Prop :=
  TransitionSystem.Reachable (· = World.empty)
    (TransitionSystem.guarded (SafeCall type) (TransitionSystem.ofFun (step desc type)))

/-- The worlds that the displays reach without a request that is not to be cached. -/
def CachedReached (desc : Nat → FormatDesc) (type : D → DisplayType) : World D → Prop :=
  TransitionSystem.Reachable (· = World.empty)
    (TransitionSystem.guarded (fun _ op => ∀ d c caching a, op = .getBuffer d c caching a → caching = true)
      (TransitionSystem.ofFun (step desc type)))

theorem SafelyReached.start : SafelyReached desc type (World.empty : World D) :=
  TransitionSystem.Reachable.start rfl

theorem SafelyReached.step (h : SafelyReached desc type w) (op : Op D) (hsafe : SafeCall type w op) :
    SafelyReached desc type (step desc type w op) :=
  TransitionSystem.Reachable.next h ⟨hsafe, rfl⟩

theorem SafelyReached.kept (h : SafelyReached desc type w) : Kept type w := by
  refine TransitionSystem.Reachable.invariant ?_ ?_ h
  · rintro s rfl
    exact Kept.start
  · rintro s op s' hs ⟨hsafe, rfl⟩
    exact hs.step op hsafe

/-- What is shown is never to be removed. -/
theorem shown_not_removed (h : SafelyReached desc type w) (d : D) {x : Nat} (hx : x ∈ w.shown d) :
    x ∉ w.removed := by
  have hplaced : Placed w := Reached.placed h.of_guarded
  have happart : ∀ y, y ∈ w.uncached d → y ∉ w.removed := fun y hy hin =>
    hplaced.apart d y hy (List.mem_append_right _ hin)
  have htracked : ∀ y, y ∈ ids w.mStagingBuffers ∨ y ∈ ids w.mCachedBuffers → y ∉ w.removed := by
    intro y hy hin
    refine (List.nodup_append.mp hplaced.tracked).2.2 y ?_ y hin rfl
    simp only [ids_append, List.mem_append]
    rcases hy with hy | hy
    · exact Or.inl (Or.inl (Or.inl hy))
    · exact Or.inl (Or.inl (Or.inr hy))
  cases hcommitted : w.committed d with
  | true =>
    rcases h.kept.pending d x (h.kept.committed d hcommitted x hx) with hin | hin
    · exact htracked x (Or.inl hin)
    · exact happart x (List.mem_append_left _ hin)
  | false =>
    rcases h.kept.flipped d hcommitted x hx with hin | hin
    · exact happart x (List.mem_append_right _ hin)
    · exact htracked x hin.mem

theorem createBuffer_uncached (w : World D) (d : D) (c : WinConfig) (a : Answers) :
    (createBuffer desc type w d c true a).1.uncached = w.uncached := by
  unfold createBuffer
  split
  · rfl
  · split_ifs with hadd hcaching
    · rfl
    · rfl
    · exact absurd rfl hcaching

/-- Without requests that are not to be cached, no display has framebuffers of its own. -/
theorem CachedReached.uncached (h : CachedReached desc type w) (d : D) : w.uncached d = [] := by
  refine TransitionSystem.Reachable.invariant (I := fun s => ∀ d, s.uncached d = []) ?_ ?_ h d
  · rintro s rfl d
    rfl
  · rintro s op s' hs ⟨hcaching, rfl⟩ d
    cases op with
    | getBuffer d' c caching a =>
      cases hcaching d' c caching a rfl
      simp only [step, FramebufferManager.getBuffer]
      split
      · exact hs d
      · rw [createBuffer_uncached]
        exact hs d
    | flipFBs d' isActiveCommit time =>
      have hnone : s.mFbIds d' = [] := (List.append_eq_nil_iff.mp (hs d')).1
      have hsame : flipUncached s d' isActiveCommit = s := if_pos hnone
      simp only [step, FramebufferManager.flipFBs, hsame]
      exact hs d
    | commit d' => exact hs d
    | removeBuffer bufferId => exact hs d
    | removeBuffersForDisplay t => exact hs d
    | removeBuffersForOwner owner => exact hs d
    | onDisplayRemoved d' => exact hs d
    | collect => exact hs d
    | clear => exact hs d

/-- **Lifetime of framebuffers.** After safe calls of any displays nothing that a display shows
    was removed, nothing was removed twice, and each framebuffer that was made is staged, which
    the next flip ends, cached, to be removed, removed, or with the display that did not want it
    cached. -/
theorem framebuffers_kept (h : SafelyReached desc type w) :
    (∀ d, ∀ x ∈ w.shown d, x ∉ w.removed) ∧ w.removed.Nodup ∧
      (∀ x, 1 ≤ x → x < w.nextFb →
        x ∈ ids w.mStagingBuffers ∨ x ∈ ids w.mCachedBuffers ∨
          x ∈ ids (w.mCleanupBuffers ++ w.cleanupBuffers) ∨ x ∈ w.removed ∨ ∃ d, x ∈ w.uncached d) ∧
      (∀ d isActiveCommit time,
        (step desc type w (.flipFBs d isActiveCommit time)).mStagingBuffers = []) ∧
      (CachedReached desc type w → ∀ d, w.uncached d = []) := by
  have hplaced : Placed w := Reached.placed h.of_guarded
  refine ⟨fun d x hx => shown_not_removed h d hx, (List.nodup_append.mp hplaced.tracked).2.1, ?_,
    fun d isActiveCommit time => step_flipFBs_staging w d isActiveCommit time,
    fun hcached d => hcached.uncached d⟩
  intro x hpos hlt
  rcases (hplaced.made x).mpr ⟨hpos, hlt⟩ with hin | hin
  · simp only [World.tracked, ids_append, List.mem_append] at hin ⊢
    tauto
  · exact Or.inr (Or.inr (Or.inr (Or.inr hin)))

end Lifetime

/-! ### Frames that overlap, and displays of one type -/

/-- The row of `HAL_PIXEL_FORMAT_RGBA_8888`. -/
def rgbaDesc : FormatDesc where
  isImplementationDefined := false
  isSBWCDecomp := false
  drmFormat := 0x34324241
  planeNum := 1
  bufferNum := 1
  bytePerPixel := 4
  sbwcType := .none
  bitType := .BIT8

/-- A window of 64 by 64 pixels with the buffer and the layer `n`. -/
def rgbaWindow (n : Nat) : WinConfig where
  state := .buffer
  color := 0
  fd_idma := (n, -1, -1)
  bufferId := n
  owner := some n
  fd_lut := -1
  metaParcel := none
  acq_fence := -1
  rel_fence := -1
  planeAlpha := 1
  blending := 1
  assignedMPP := none
  format := 0
  transform := 0
  dataspace := 0
  hdrEnable := false
  compSrc := 0
  src := ⟨0, 0, 64, 64, 64, 64⟩
  dst := ⟨0, 0, 64, 64, 64, 64⟩
  protection := false
  compressionInfo := ⟨0, 0, 0⟩
  vOtfEnable := false
  vOtfBufIndex := 0
  split := 0

/-- The kernel makes every framebuffer. -/
def willing : Answers := ⟨Int.toNat, true⟩

/-- A frame with one window that is committed and flipped. -/
def oneFrame {D : Type} (d : D) (n time : Nat) : List (Op D) :=
  [.getBuffer d (rgbaWindow n) true willing, .commit d, .flipFBs d true time]

/-- The layer of a buffer goes, and the removing thread does its work. -/
def layerGone (D : Type) (n : Nat) : List (Op D) :=
  [.removeBuffersForOwner (some n), .collect, .clear]

def runCalls {D : Type} [DecidableEq D] (type : D → DisplayType) (calls : List (Op D)) : World D :=
  calls.foldl (step (fun _ => rgbaDesc) type) World.empty

/-- The run of one frame, whose layer goes. -/
theorem oneFrame_kept :
    (∀ d, ∀ x ∈ (runCalls id (oneFrame DisplayType.PRIMARY 1 1)).shown d,
        x ∉ (runCalls id (oneFrame DisplayType.PRIMARY 1 1)).removed) ∧
      1 ∈ (runCalls id (oneFrame DisplayType.PRIMARY 1 1)).shown .PRIMARY := by
  have hreached : SafelyReached (fun _ => rgbaDesc) id
      (runCalls id (oneFrame DisplayType.PRIMARY 1 1)) := by
    have hstart : SafelyReached (fun _ => rgbaDesc) id (World.empty : World DisplayType) :=
      SafelyReached.start
    have hgot := hstart.step (.getBuffer .PRIMARY (rgbaWindow 1) true willing) trivial
    refine (hgot.step (.commit .PRIMARY) trivial).step (.flipFBs .PRIMARY true 1) ⟨?_, rfl, ?_⟩
    · intro d' hd'
      cases d'
      · exact absurd rfl hd'
      · rfl
      · rfl
    · intro _
      exact ⟨by decide, fun d' hd' htype => absurd htype hd'⟩
  exact ⟨(framebuffers_kept hreached).1, by decide +kernel⟩

/-- The external display flips while the primary display makes its frame. -/
def crossingFrames : List (Op DisplayType) :=
  [.getBuffer .PRIMARY (rgbaWindow 1) true willing] ++ oneFrame .EXTERNAL 2 1 ++
    [.commit .PRIMARY, .flipFBs .PRIMARY true 2] ++ oneFrame .EXTERNAL 2 3 ++ layerGone _ 1

/-- Two displays of the primary type, one after the other. -/
def twoPrimaries : List (Op Bool) :=
  oneFrame false 1 1 ++ oneFrame true 2 2 ++ layerGone _ 1

/-- **Shown and removed.** In both runs the first framebuffer is in the last commit of its
    display when the driver removes it. -/
theorem crossing_frames_removed :
    (1 ∈ (runCalls id crossingFrames).shown .PRIMARY ∧ 1 ∈ (runCalls id crossingFrames).removed) ∧
      (1 ∈ (runCalls (fun _ => .PRIMARY) twoPrimaries).shown false ∧
        1 ∈ (runCalls (fun _ => .PRIMARY) twoPrimaries).removed) := by
  decide +kernel

end ExynosHal.FramebufferLifetime
