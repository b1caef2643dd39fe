/-
  ExynosHal/CacheCleanup.lean
  ===========================
  **The cleanup pass over the framebuffer cache.**

  `FramebufferManager::fillCleanupBuffer` walks a `std::list` from its back with an
  iterator, splices the framebuffers that can be removed out of it and leaves the
  loop when the cache is short enough or the iterator has come to the front.  Here
  the loop is taken round by round, the iterator as a position.  It is never read at
  the end of the list, it makes no more rounds than the cache is long, and what it
  does is `evict` (`loop_refines`), which `FramebufferManager` takes for it.
-/
import ExynosHal.FramebufferManager

namespace ExynosHal.CacheCleanup

open ExynosHal.FramebufferManager

/-! ### The loop -/

/-- The two lists and what the loop carries. -/
structure Pass where
  mCachedBuffers : List Framebuffer
  mCleanupBuffers : List Framebuffer
  /-- The position of `it`; the length of the cache is `end()`. -/
  it : Nat
  /-- The loop has been left by `break`. -/
  stopped : Bool

/-- `it--`.  In an empty list `end()` is its own predecessor. -/
def previous (position : Nat) : Nat := position - 1

/-- Before the loop, `it` at the last framebuffer. -/
def start (mCachedBuffers mCleanupBuffers : List Framebuffer) : Pass :=
  ⟨mCachedBuffers, mCleanupBuffers, previous mCachedBuffers.length, false⟩

def Pass.isDone (p : Pass) : Bool :=
  p.stopped || decide (p.mCachedBuffers.length ≤ MAX_CACHED_BUFFERS)

section Loop

variable (canRemove : Framebuffer → Bool)

/-- One round, or `none` where `end()` would be read. -/
def round (p : Pass) : Option Pass :=
  let cit := p.it
  match p.mCachedBuffers[cit]? with
  | none => none
  | some fb =>
      let stop := decide (cit = 0)
      let it := if stop then cit else previous cit
      if canRemove fb then
        some ⟨p.mCachedBuffers.eraseIdx cit, p.mCleanupBuffers ++ [fb], it, stop⟩
      else some ⟨p.mCachedBuffers, p.mCleanupBuffers, it, stop⟩

/-- The loop with at most `n` rounds, or `none` where these are not enough. -/
def loop : Nat → Pass → Option Pass
  | 0, p => if p.isDone then some p else none
  | n + 1, p => if p.isDone then some p else (round canRemove p).bind (loop n)

/-! ### The rounds -/

/-- The loop with `ahead` before it, last framebuffer first, and `behind` left behind. -/
def walked (ahead behind cleanup : List Framebuffer) : Pass :=
  ⟨ahead.reverse ++ behind, cleanup, ahead.length - 1, decide (ahead = [])⟩

variable {canRemove}

theorem start_eq (cached cleanup : List Framebuffer) :
    start cached cleanup = { walked cached.reverse [] cleanup with stopped := false } := by
  simp [start, walked, previous]

theorem loop_done {p : Pass} (h : p.isDone = true) (n : Nat) : loop canRemove n p = some p := by
  cases n <;> simp [loop, h]

theorem loop_round {p : Pass} (h : p.isDone = false) (n : Nat) :
    loop canRemove (n + 1) p = (round canRemove p).bind (loop canRemove n) := by
  simp [loop, h]

section Walk

variable (fb : Framebuffer) (ahead behind cleanup : List Framebuffer)

theorem walked_nil_isDone : (walked [] behind cleanup).isDone = true := rfl

theorem walked_cons_isDone : (walked (fb :: ahead) behind cleanup).isDone =
    decide ((fb :: ahead).length + behind.length ≤ MAX_CACHED_BUFFERS) := by
  unfold Pass.isDone walked
  rw [List.length_append, List.length_reverse]
  rfl

/-- A round takes the framebuffer it is at out of the cache or leaves it behind. -/
theorem round_walked : round canRemove (walked (fb :: ahead) behind cleanup) =
    some (if canRemove fb then walked ahead behind (cleanup ++ [fb])
      else walked ahead (fb :: behind) cleanup) := by
  have hlist : (fb :: ahead).reverse ++ behind = ahead.reverse ++ fb :: behind := by simp
  have hget : (ahead.reverse ++ fb :: behind)[ahead.length]? = some fb := by
    rw [List.getElem?_append_right (by simp)]
    simp
  have herase : (ahead.reverse ++ fb :: behind).eraseIdx ahead.length = ahead.reverse ++ behind := by
    rw [List.eraseIdx_append_of_length_le (by simp)]
    simp
  have hstop : decide (ahead.length = 0) = decide (ahead = []) := by
    cases ahead <;> simp
  have hit : (if decide (ahead = []) = true then ahead.length else previous ahead.length) =
      ahead.length - 1 := by
    cases ahead <;> simp [previous]
  simp only [round, walked, List.length_cons, Nat.add_sub_cancel, hlist, hget, herase, hstop]
  rw [hit]
  split <;> rfl

end Walk

variable (canRemove) in
/-- **The loop is `evict`.**  From `ahead` on it goes as `evict` does, and it comes to its end. -/
theorem loop_walked (ahead : List Framebuffer) : ∀ behind cleanup : List Framebuffer,
    ∃ p, loop canRemove ahead.length (walked ahead behind cleanup) = some p ∧
      p.mCachedBuffers =
        (evict canRemove (ahead.length + behind.length - MAX_CACHED_BUFFERS) ahead).1.reverse ++ behind ∧
      p.mCleanupBuffers =
        cleanup ++ (evict canRemove (ahead.length + behind.length - MAX_CACHED_BUFFERS) ahead).2 := by
  induction ahead with
  | nil =>
    intro behind cleanup
    refine ⟨_, loop_done (walked_nil_isDone behind cleanup) 0, ?_⟩
    cases [].length + behind.length - MAX_CACHED_BUFFERS <;> simp [evict, walked]
  | cons fb ahead ih =>
    intro behind cleanup
    have hdone := walked_cons_isDone fb ahead behind cleanup
    by_cases hle : (fb :: ahead).length + behind.length ≤ MAX_CACHED_BUFFERS
    · rw [decide_eq_true hle] at hdone
      refine ⟨_, loop_done hdone _, ?_⟩
      rw [Nat.sub_eq_zero_of_le hle]
      simp [evict, walked]
    · rw [decide_eq_false hle] at hdone
      rw [List.length_cons, loop_round hdone, round_walked, Option.bind_some]
      rw [List.length_cons] at hle
      obtain ⟨k, hk⟩ : ∃ k, ahead.length + 1 + behind.length - MAX_CACHED_BUFFERS = k + 1 :=
        ⟨ahead.length + behind.length - MAX_CACHED_BUFFERS, by omega⟩
      rw [hk]
      by_cases hremove : canRemove fb = true
      · obtain ⟨p, hp, hcached, hcleanup⟩ := ih behind (cleanup ++ [fb])
        have hrest : ahead.length + behind.length - MAX_CACHED_BUFFERS = k := by omega
        rw [hrest] at hcached hcleanup
        refine ⟨p, ?_, ?_⟩
        · rw [if_pos hremove]
          exact hp
        · simp [evict, hremove, hcached, hcleanup]
      · obtain ⟨p, hp, hcached, hcleanup⟩ := ih (fb :: behind) cleanup
        have hrest : ahead.length + (fb :: behind).length - MAX_CACHED_BUFFERS = k + 1 := by
          rw [List.length_cons]
          omega
        rw [hrest] at hcached hcleanup
        refine ⟨p, ?_, ?_⟩
        · rw [if_neg hremove]
          exact hp
        · simp [evict, hremove, hcached, hcleanup]

variable (canRemove) in
theorem loop_start (cached cleanup : List Framebuffer) :
    ∃ p, loop canRemove cached.length (start cached cleanup) = some p ∧
      p.mCachedBuffers =
        (evict canRemove (cached.length - MAX_CACHED_BUFFERS) cached.reverse).1.reverse ∧
      p.mCleanupBuffers =
        cleanup ++ (evict canRemove (cached.length - MAX_CACHED_BUFFERS) cached.reverse).2 := by
  cases hcached : cached with
  | nil => exact ⟨_, rfl, rfl, (List.append_nil cleanup).symm⟩
  | cons fb l =>
    have hne : cached.reverse ≠ [] := by simp [hcached]
    have hstart : start cached cleanup = walked cached.reverse [] cleanup := by
      rw [start_eq]
      simp [walked, hne]
    rw [← hcached, hstart]
    simpa using loop_walked canRemove cached.reverse [] cleanup

end Loop

/-- **The loop does what `fillCleanupBuffer` says.** -/
theorem loop_refines {D : Type} [DecidableEq D] (w : World D) :
    ∃ p, loop (canRemoveBuffer w) w.mCachedBuffers.length (start w.mCachedBuffers w.mCleanupBuffers) = some p ∧
      (fillCleanupBuffer w).mCachedBuffers = p.mCachedBuffers ∧
      (fillCleanupBuffer w).mCleanupBuffers = p.mCleanupBuffers := by
  obtain ⟨p, hp, hcached, hcleanup⟩ :=
    loop_start (canRemoveBuffer w) w.mCachedBuffers w.mCleanupBuffers
  exact ⟨p, hp, hcached.symm, hcleanup.symm⟩

/-! ### What the pass leaves -/

section Cleaned

variable (canRemove : Framebuffer → Bool)

/-- What `evict` walks over, and what it does not come to. -/
theorem evict_split (n : Nat) (l : List Framebuffer) : ∃ a b, l = a ++ b ∧
    (evict canRemove n l).1 = a.filter (fun fb => !canRemove fb) ++ b ∧
    (evict canRemove n l).2 = a.filter canRemove ∧
    (b = [] ∨ (evict canRemove n l).2.length = n) := by
  fun_induction evict canRemove n l with
  | case1 l => exact ⟨[], l, rfl, rfl, rfl, .inr rfl⟩
  | case2 n => exact ⟨[], [], rfl, rfl, rfl, .inl rfl⟩
  | case3 n fb l hremove ih =>
    obtain ⟨a, b, rfl, hkept, htaken, hend⟩ := ih
    refine ⟨fb :: a, b, rfl, ?_, ?_, ?_⟩
    · simpa [hremove] using hkept
    · simpa [hremove] using htaken
    · exact hend.imp id fun h => by simpa using h
  | case4 n fb l hremove ih =>
    obtain ⟨a, b, rfl, hkept, htaken, hend⟩ := ih
    refine ⟨fb :: a, b, rfl, ?_, ?_, hend⟩
    · simpa [hremove] using hkept
    · simpa [hremove] using htaken

/-- What the pass makes of the cache and the cleanup list. -/
structure Cleaned (cached cleanup : List Framebuffer) (p : Pass) : Prop where
  /-- From the back of the cache the removable framebuffers are taken, and no others. -/
  fromBack : ∃ front back, cached = front ++ back ∧
    p.mCachedBuffers = front ++ back.filter (fun fb => !canRemove fb) ∧
    p.mCleanupBuffers = cleanup ++ (back.filter canRemove).reverse
  keeps : ∀ fb ∈ cached, canRemove fb = false → fb ∈ p.mCachedBuffers
  bounded : p.mCachedBuffers.length ≤ MAX_CACHED_BUFFERS ∨ ∀ fb ∈ p.mCachedBuffers, canRemove fb = false
  /-- None is lost and none is there twice. -/
  together : (p.mCachedBuffers ++ p.mCleanupBuffers).Perm (cached ++ cleanup)
  separate : (cached ++ cleanup).Nodup → p.mCachedBuffers.Disjoint p.mCleanupBuffers

/-- **The pass ends**, after no more rounds than the cache is long, and leaves a clean cache. -/
theorem cleanup_ends (cached cleanup : List Framebuffer) :
    ∃ p, loop canRemove cached.length (start cached cleanup) = some p ∧
      Cleaned canRemove cached cleanup p := by
  obtain ⟨p, hp, hcached, hcleanup⟩ := loop_start canRemove cached cleanup
  refine ⟨p, hp, ?_⟩
  obtain ⟨a, b, hsplit, hkept, htaken, hend⟩ :=
    evict_split canRemove (cached.length - MAX_CACHED_BUFFERS) cached.reverse
  have hlist : cached = b.reverse ++ a.reverse := by
    rw [← List.reverse_append, ← hsplit, List.reverse_reverse]
  have hp₁ : p.mCachedBuffers = b.reverse ++ a.reverse.filter (fun fb => !canRemove fb) := by
    rw [hcached, hkept, List.reverse_append, List.filter_reverse]
  have hp₂ : p.mCleanupBuffers = cleanup ++ (a.reverse.filter canRemove).reverse := by
    rw [hcleanup, htaken, List.filter_reverse, List.reverse_reverse]
  have htogether : (p.mCachedBuffers ++ p.mCleanupBuffers).Perm (cached ++ cleanup) := by
    rw [hp₁, hp₂, hlist, List.append_assoc, List.append_assoc]
    apply List.Perm.append_left
    have hfilter := List.filter_append_perm (fun fb => !canRemove fb) a.reverse
    simp only [Bool.not_not] at hfilter
    refine List.Perm.trans ?_ (hfilter.append_right cleanup)
    rw [List.append_assoc]
    apply List.Perm.append_left
    exact List.perm_append_comm.trans ((List.reverse_perm _).append_right cleanup)
  constructor
  case fromBack => exact ⟨b.reverse, a.reverse, hlist, hp₁, hp₂⟩
  case keeps =>
    intro fb hfb hkeep
    rw [hlist] at hfb
    rw [hp₁]
    rcases List.mem_append.mp hfb with hfb | hfb
    · exact List.mem_append_left _ hfb
    · apply List.mem_append_right
      exact List.mem_filter.mpr ⟨hfb, by simp [hkeep]⟩
  case bounded =>
    rcases hend with rfl | hlength
    · right
      intro fb hfb
      rw [hp₁] at hfb
      simpa using (List.mem_filter.mp hfb).2
    · left
      have hcount := htogether.length_eq
      rw [List.length_append, List.length_append, hcleanup, List.length_append, hlength] at hcount
      omega
  case together => exact htogether
  case separate =>
    intro hnodup
    exact List.disjoint_of_nodup_append (htogether.nodup_iff.mpr hnodup)

end Cleaned

end ExynosHal.CacheCleanup
