/-
  ExynosHal/FramebufferCache.lean
  ===============================
  **What the framebuffer cache gives out.**

  `getBuffer` finds a cached framebuffer by its buffer, DRM format, size and first
  modifier.  A creation reads more: the offset of the SAJC header, and how many
  buffers and planes the HAL format has.  And a framebuffer that is staged is not
  found, so that a second request of one frame makes a second one.  Where neither
  happens the cache cannot be told from making every framebuffer anew
  (`cache_transparent`).
-/
import ExynosHal.FramebufferLifetime

namespace ExynosHal.FramebufferCache

open ExynosHal.WindowConfig ExynosHal.FramebufferManager

/-! ### What the key says of a creation -/

/-- The header offset of a SAJC buffer. -/
def headerOffset (c : WinConfig) : Nat :=
  if c.compressionInfo.type = COMP_TYPE_SAJC then c.compressionInfo.sajcHeaderOffset else 0

/-- What a creation reads of a config and the key does not hold: whether it is a colour, the
    bytes, buffers and planes of its HAL format, and the header offset. -/
structure SameMaking (desc : Nat → FormatDesc) (c' c : WinConfig) : Prop where
  color : c'.state = .color ↔ c.state = .color
  bytePerPixel : c.state ≠ .color → (desc c'.format).bytePerPixel = (desc c.format).bytePerPixel
  bufferNum : c.state ≠ .color → (desc c'.format).bufferNum = (desc c.format).bufferNum
  planes : c.state ≠ .color →
    planeCount c' (desc c'.format) = planeCount c (desc c.format)
  header : c.state ≠ .color → headerOffset c' = headerOffset c

theorem fill_head {α : Type} {n : Nat} (hn : n ≠ 0) (a z y : α) : (fill n a z).headD y = a := by
  have hpos : 0 < n := Nat.pos_of_ne_zero hn
  simp [fill, HWC_DRM_BO_MAX_PLANES, List.range, List.range.loop, hpos]

theorem filledPlanes_ne_zero {bufferNum planeNum : Nat} (h : bufferNum ≠ 0) :
    filledPlanes bufferNum planeNum ≠ 0 := by
  unfold filledPlanes
  split <;> omega

theorem layout_of_color {desc : Nat → FormatDesc} {c : WinConfig} (h : c.state = .color) :
    layout desc c = some (colorLayout c) := by
  unfold layout
  rw [h]

theorem layout_of_buffer {desc : Nat → FormatDesc} {c : WinConfig} {l : Layout}
    (hcolor : c.state ≠ .color) (h : layout desc c = some l) :
    bufferLayout c (desc c.format) = some l := by
  unfold layout at h
  cases hstate : c.state with
  | color => exact absurd hstate hcolor
  | buffer => simpa [hstate] using h
  | cursor => simpa [hstate] using h
  | disabled => simp [hstate] at h
  | update => simp [hstate] at h

theorem bufferLayout_spec {c : WinConfig} {d : FormatDesc} {l : Layout}
    (h : bufferLayout c d = some l) :
    d.bufferNum ≠ 0 ∧
      l = { width := c.src.f_w
            height := c.src.f_h
            drmFormat := d.drmFormat
            pitches := fill (filledPlanes d.bufferNum (planeCount c d))
              (c.src.f_w * d.bytePerPixel % 2 ^ 32) 0
            offsets := (fill 0 0 0).set SAJC_KEY_INDEX
              (if d.bufferNum = 1 ∧ planeCount c d > d.bufferNum then headerOffset c else 0)
            modifiers := fill (filledPlanes d.bufferNum (planeCount c d)) (bufferModifier c d) 0
            bufferNum := d.bufferNum
            planes := filledPlanes d.bufferNum (planeCount c d) } := by
  have hheader : (if d.bufferNum = 1 ∧ planeCount c d > d.bufferNum ∧
        c.compressionInfo.type = COMP_TYPE_SAJC then c.compressionInfo.sajcHeaderOffset else 0) =
      if d.bufferNum = 1 ∧ planeCount c d > d.bufferNum then headerOffset c else 0 := by
    unfold headerOffset
    by_cases hplanes : d.bufferNum = 1 ∧ planeCount c d > d.bufferNum
    · by_cases hsajc : c.compressionInfo.type = COMP_TYPE_SAJC
      · rw [if_pos ⟨hplanes.1, hplanes.2, hsajc⟩, if_pos hplanes, if_pos hsajc]
      · rw [if_neg (fun h => hsajc h.2.2), if_pos hplanes, if_neg hsajc]
    · rw [if_neg (fun h => hplanes ⟨h.1, h.2.1⟩), if_neg hplanes]
  unfold bufferLayout at h
  simp only [hheader] at h
  split at h
  · cases h
  · split at h
    · cases h
    · split at h
      · cases h
      · rename_i hnum
        split at h
        · cases h
        · exact ⟨hnum, (Option.some.inj h).symm⟩

/-- One key and one way of making give one layout. -/
theorem layout_eq_of_key {desc : Nat → FormatDesc} {c' c : WinConfig} {l' l : Layout}
    (h' : layout desc c' = some l') (h : layout desc c = some l) (hkey : keyOf c' l' = keyOf c l)
    (hsame : SameMaking desc c' c) : l' = l := by
  simp only [keyOf, Key.mk.injEq] at hkey
  obtain ⟨-, hformat, hwidth, hheight, hmodifier⟩ := hkey
  by_cases hcolor : c.state = .color
  · rw [layout_of_color hcolor] at h
    rw [layout_of_color (hsame.color.mpr hcolor)] at h'
    cases h
    cases h'
    simp only [colorLayout] at hwidth hheight hmodifier ⊢
    rw [fill_head Nat.one_ne_zero, fill_head Nat.one_ne_zero] at hmodifier
    rw [hwidth, hheight, hmodifier]
  · obtain ⟨hnum, rfl⟩ := bufferLayout_spec (layout_of_buffer hcolor h)
    obtain ⟨hnum', rfl⟩ := bufferLayout_spec
      (layout_of_buffer (fun h => hcolor (hsame.color.mp h)) h')
    rw [fill_head (filledPlanes_ne_zero hnum'), fill_head (filledPlanes_ne_zero hnum)] at hmodifier
    simp only at hformat hwidth hheight
    rw [hwidth, hheight, hformat, hmodifier, hsame.bytePerPixel hcolor, hsame.bufferNum hcolor,
      hsame.planes hcolor, hsame.header hcolor]

/-- The descriptors of a config open the buffers that its buffer id names. -/
def Opens (gem : Nat → Nat → Nat) (prime : Int → Nat) (c : WinConfig) (l : Layout) : Prop :=
  c.state ≠ .color → ∀ i, i < l.bufferNum → prime (fdOf c i) = gem c.bufferId i

theorem handles_eq_of_opens {gem : Nat → Nat → Nat} {prime' prime : Int → Nat} {c' c : WinConfig}
    {l : Layout} (hcolor : c'.state = .color ↔ c.state = .color) (hid : c'.bufferId = c.bufferId)
    (h' : Opens gem prime' c' l) (h : Opens gem prime c l) :
    handles prime' c' l = handles prime c l := by
  unfold handles
  by_cases hc : c.state = .color
  · rw [if_pos hc, if_pos (hcolor.mpr hc)]
  · have hc' : c'.state ≠ .color := fun h => hc (hcolor.mp h)
    have hgot : (List.range l.bufferNum).map (fun i => prime' (fdOf c' i)) =
        (List.range l.bufferNum).map (fun i => prime (fdOf c i)) := by
      apply List.map_congr_left
      intro i hi
      rw [h' hc' i (List.mem_range.mp hi), h hc i (List.mem_range.mp hi), hid]
    rw [if_neg hc, if_neg hc', hgot]

section Runs

variable {D : Type} {desc : Nat → FormatDesc} {gem : Nat → Nat → Nat} {w w' : World D}

/-- A request that is to be cached is regular: its descriptors are those of its buffer, no staged
    framebuffer has its key, and the cached one that has was made in the same way. -/
def RegularRequest (desc : Nat → FormatDesc) (gem : Nat → Nat → Nat) (w : World D) (c : WinConfig)
    (a : Answers) : Prop :=
  ∀ l, layout desc c = some l →
    Opens gem a.prime c l ∧ (∀ fb ∈ w.mStagingBuffers, fb.key ≠ keyOf c l) ∧
      ∀ fb ∈ w.mCachedBuffers, fb.key = keyOf c l → SameMaking desc fb.config c

def RegularCall (desc : Nat → FormatDesc) (gem : Nat → Nat → Nat) (w : World D) : Op D → Prop
  | .getBuffer _ c true a => RegularRequest desc gem w c a
  | _ => True

/-- The framebuffers that a lookup can find now or after a flip. -/
def live (w : World D) : List Framebuffer :=
  w.mStagingBuffers ++ w.mCachedBuffers

/-- What a framebuffer is found by, and what it was made of. -/
def origin (fb : Framebuffer) : Key × WinConfig × Creation :=
  (fb.key, fb.config, fb.made)

/-- The framebuffer is what its config makes. -/
structure Genuine (desc : Nat → FormatDesc) (gem : Nat → Nat → Nat) (k : Key) (c : WinConfig)
    (m : Creation) : Prop where
  layout : layout desc c = some m.layout
  key : k = keyOf c m.layout
  handles : ∃ prime, Opens gem prime c m.layout ∧ handles prime c m.layout = some m.handles

structure Cached (desc : Nat → FormatDesc) (gem : Nat → Nat → Nat) (w : World D) : Prop where
  keys : ((live w).map Framebuffer.key).Nodup
  genuine : ∀ fb ∈ live w, Genuine desc gem fb.key fb.config fb.made

/-- A framebuffer of the cache is what a creation for the present config would make. -/
theorem creation_of_hit (hw : Cached desc gem w) {c : WinConfig} {a : Answers}
    (hreg : RegularRequest desc gem w c a) {fb : Framebuffer} {rest : List Framebuffer}
    (h : lookup desc w c = some (fb, rest)) : creation desc a.prime c = some fb.made := by
  obtain ⟨l, hl, htake⟩ := Option.bind_eq_some_iff.mp h
  obtain ⟨hkey, hperm⟩ := takeFirst_spec htake
  have hkey' : fb.key = keyOf c l := by simpa using hkey
  have hmem : fb ∈ w.mCachedBuffers := hperm.mem_iff.mpr List.mem_cons_self
  have hgenuine := hw.genuine fb (List.mem_append_right _ hmem)
  obtain ⟨hopens, -, hcached⟩ := hreg l hl
  have hsame := hcached fb hmem hkey'
  have hkeys : keyOf fb.config fb.made.layout = keyOf c l := hgenuine.key.symm.trans hkey'
  have hlayout : fb.made.layout = l := layout_eq_of_key hgenuine.layout hl hkeys hsame
  obtain ⟨prime', hopens', hhandles'⟩ := hgenuine.handles
  have hid : fb.config.bufferId = c.bufferId := congrArg Key.bufferId hkeys
  rw [hlayout] at hopens' hhandles'
  have hhandles := (handles_eq_of_opens hsame.color hid hopens' hopens).symm.trans hhandles'
  unfold creation
  rw [hl, Option.bind_some, hhandles, Option.map_some, ← hlayout]

/-! ### The cache over a run -/

/-- Framebuffers that stay or go leave the cache as it should be. -/
theorem Cached.of_perm (h : Cached desc gem w) (gone : List (Key × WinConfig × Creation))
    (hperm : ((live w').map origin ++ gone).Perm ((live w).map origin)) : Cached desc gem w' := by
  have hkeys : ∀ l : List Framebuffer, l.map Framebuffer.key = (l.map origin).map Prod.fst := by
    intro l
    rw [List.map_map]
    rfl
  refine ⟨?_, ?_⟩
  · have hnodup := h.keys
    rw [hkeys, ← (hperm.map Prod.fst).nodup_iff, List.map_append] at hnodup
    rw [hkeys]
    exact (List.nodup_append.mp hnodup).1
  · intro fb hfb
    have hin := hperm.mem_iff.mp (List.mem_append_left _ (List.mem_map_of_mem hfb))
    obtain ⟨fb', hfb', horigin⟩ := List.mem_map.mp hin
    have hgenuine := h.genuine fb' hfb'
    simp only [origin, Prod.mk.injEq] at horigin
    rw [← horigin.1, ← horigin.2.1, ← horigin.2.2]
    exact hgenuine

/-- A new framebuffer whose key is not live. -/
theorem Cached.add (h : Cached desc gem w) (fb : Framebuffer)
    (hlive : (live w').Perm (fb :: live w)) (hkey : ∀ fb' ∈ live w, fb'.key ≠ fb.key)
    (hgenuine : Genuine desc gem fb.key fb.config fb.made) : Cached desc gem w' := by
  refine ⟨?_, ?_⟩
  · rw [(hlive.map _).nodup_iff, List.map_cons, List.nodup_cons]
    refine ⟨fun hin => ?_, h.keys⟩
    obtain ⟨fb', hfb', heq⟩ := List.mem_map.mp hin
    exact hkey fb' hfb' heq
  · intro fb' hfb'
    rcases List.mem_cons.mp (hlive.mem_iff.mp hfb') with rfl | hfb'
    · exact hgenuine
    · exact h.genuine fb' hfb'

theorem Cached.start : Cached desc gem (World.empty : World D) := by
  refine ⟨List.nodup_nil, fun fb hfb => ?_⟩
  cases hfb

theorem Cached.removeBufferInternal (h : Cached desc gem w) (compareFunc : Framebuffer → Bool) :
    Cached desc gem (removeBufferInternal w compareFunc) := by
  have horigin : ∀ l : List Framebuffer,
      (l.map fun fb => if chosen compareFunc fb then { fb with removePending := true } else fb).map
        origin = l.map origin := by
    intro l
    rw [List.map_map]
    apply List.map_congr_left
    intro fb _
    simp only [Function.comp_apply]
    split <;> rfl
  have hsplit := (List.filter_append_perm
    (fun fb => chosen compareFunc fb && canRemoveBuffer w fb) w.mCachedBuffers).map origin
  apply h.of_perm ((w.mCachedBuffers.filter fun fb =>
    chosen compareFunc fb && canRemoveBuffer w fb).map origin)
  simp only [live, FramebufferManager.removeBufferInternal, List.map_append, horigin,
    List.append_assoc]
  rw [List.map_append] at hsplit
  exact (List.perm_append_comm.trans hsplit).append_left _

theorem Cached.collect (h : Cached desc gem w) : Cached desc gem (collect w) := by
  have hevict := (evict_perm (canRemoveBuffer w) (w.mCachedBuffers.length - MAX_CACHED_BUFFERS)
    w.mCachedBuffers.reverse).map origin
  apply h.of_perm ((evict (canRemoveBuffer w) (w.mCachedBuffers.length - MAX_CACHED_BUFFERS)
    w.mCachedBuffers.reverse).2.map origin)
  simp only [live, FramebufferManager.collect, fillCleanupBuffer, List.map_append,
    List.append_assoc]
  rw [List.map_append] at hevict
  apply List.Perm.append_left
  refine (((List.reverse_perm _).map origin).append_right _).trans ?_
  exact hevict.trans ((List.reverse_perm _).map origin)

theorem Cached.flip (h : Cached desc gem w) (t : DisplayType) (isActiveCommit : Bool) (time : Nat) :
    Cached desc gem (flip w t isActiveCommit time) := by
  apply h.of_perm []
  have horigin : (if isActiveCommit then
        w.mStagingBuffers.map fun fb => fb.updateLastActiveTime t time
      else w.mStagingBuffers).map origin = w.mStagingBuffers.map origin := by
    split
    · rw [List.map_map]
      rfl
    · rfl
  simp only [live, FramebufferManager.flip, List.nil_append, List.append_nil, List.map_append,
    horigin]
  exact List.Perm.refl _

/-- What happens outside the two lists. -/
theorem Cached.of_live (h : Cached desc gem w) (hlive : live w' = live w) : Cached desc gem w' := by
  apply h.of_perm []
  rw [hlive, List.append_nil]

theorem live_hit {c : WinConfig} {fb : Framebuffer} {rest : List Framebuffer}
    (h : lookup desc w c = some (fb, rest)) :
    (w.mStagingBuffers ++ [fb] ++ rest).Perm (live w) := by
  obtain ⟨l, -, htake⟩ := Option.bind_eq_some_iff.mp h
  rw [List.append_assoc]
  exact ((takeFirst_spec htake).2.symm).append_left _

variable [DecidableEq D] {type : D → DisplayType}

/-- A cached framebuffer that is made after a lookup that found none. -/
theorem Cached.create (h : Cached desc gem w) (d : D) (c : WinConfig) (a : Answers)
    (hreg : RegularRequest desc gem w c a) (hmiss : lookup desc w c = none) :
    Cached desc gem (createBuffer desc type w d c true a).1 := by
  unfold createBuffer
  split
  · exact h
  · rename_i k hk
    obtain ⟨l, hl, hhandles⟩ := Option.bind_eq_some_iff.mp hk
    obtain ⟨hs, hget, rfl⟩ := Option.map_eq_some_iff.mp hhandles
    obtain ⟨hopens, hstaged, -⟩ := hreg l hl
    split_ifs with hadd
    · exact h
    · refine h.add (newFramebuffer type w d c ⟨l, hs⟩) ?_ ?_ ⟨hl, rfl, a.prime, hopens, hget⟩
      · simp only [live, World.got, List.append_assoc]
        exact List.perm_middle
      · intro fb hfb
        rcases List.mem_append.mp hfb with hfb | hfb
        · exact hstaged fb hfb
        · intro hkey
          have hnone : takeFirst (fun fb => fb.key == keyOf c l) w.mCachedBuffers = none := by
            simpa [lookup, hl] using hmiss
          have hne := takeFirst_none hnone fb hfb
          rw [hkey] at hne
          simp [newFramebuffer] at hne
    · exact absurd rfl ‹¬ true = true›

theorem Cached.getBuffer (h : Cached desc gem w) (d : D) (c : WinConfig) (caching : Bool)
    (a : Answers) (hreg : RegularCall desc gem w (.getBuffer d c caching a)) :
    Cached desc gem (getBuffer desc type w d c caching a).1 := by
  cases caching with
  | false =>
    simp only [FramebufferManager.getBuffer, Bool.false_eq_true, if_false]
    apply h.of_live
    unfold createBuffer
    split
    · rfl
    · split_ifs with hadd hcaching
      · rfl
      · cases hcaching
      · rfl
  | true =>
    simp only [FramebufferManager.getBuffer, if_true]
    cases hlook : lookup desc w c with
    | none => exact h.create d c a hreg hlook
    | some hit =>
      obtain ⟨fb, rest⟩ := hit
      apply h.of_perm []
      rw [List.append_nil]
      exact (live_hit hlook).map origin

theorem Cached.step (h : Cached desc gem w) (op : Op D) (hreg : RegularCall desc gem w op) :
    Cached desc gem (step desc type w op) := by
  cases op with
  | getBuffer d c caching a => exact h.getBuffer d c caching a hreg
  | commit d => exact h.of_live rfl
  | flipFBs d isActiveCommit time =>
    obtain ⟨hstaging, hcached, -⟩ := FramebufferLifetime.flipUncached_manager w d isActiveCommit
    have hsame : Cached desc gem (flipUncached w d isActiveCommit) := by
      apply h.of_live
      rw [live, hstaging, hcached]
      rfl
    exact (hsame.flip (type d) isActiveCommit time).of_live rfl
  | removeBuffer bufferId => exact h.removeBufferInternal _
  | removeBuffersForDisplay t => exact h.removeBufferInternal _
  | removeBuffersForOwner owner => exact h.removeBufferInternal _
  | onDisplayRemoved d =>
    refine Cached.removeBufferInternal ?_ _
    exact h.of_live rfl
  | collect => exact h.collect
  | clear => exact h.of_live rfl

/-- The worlds that the displays reach by regular calls. -/
def RegularlyReached (desc : Nat → FormatDesc) (gem : Nat → Nat → Nat) (type : D → DisplayType) :
    World D → Prop :=
  TransitionSystem.Reachable (· = World.empty)
    (TransitionSystem.guarded (RegularCall desc gem) (TransitionSystem.ofFun (step desc type)))

theorem RegularlyReached.start : RegularlyReached desc gem type (World.empty : World D) :=
  TransitionSystem.Reachable.start rfl

theorem RegularlyReached.step (h : RegularlyReached desc gem type w) (op : Op D)
    (hreg : RegularCall desc gem w op) : RegularlyReached desc gem type (step desc type w op) :=
  TransitionSystem.Reachable.next h ⟨hreg, rfl⟩

theorem RegularlyReached.cached (h : RegularlyReached desc gem type w) : Cached desc gem w := by
  refine TransitionSystem.Reachable.invariant ?_ ?_ h
  · rintro s rfl
    exact Cached.start
  · rintro s op s' hs ⟨hreg, rfl⟩
    exact hs.step op hreg

/-- **Transparency of the cache.** After regular calls no two framebuffers that are staged or
    cached have one key, and a regular request that is answered from the cache gets a framebuffer
    that was made as a creation for its config would make it. -/
theorem cache_transparent (h : RegularlyReached desc gem type w) :
    ((w.mStagingBuffers ++ w.mCachedBuffers).map Framebuffer.key).Nodup ∧
      ∀ d c a, RegularCall desc gem w (.getBuffer d c true a) →
        ∀ fb rest, lookup desc w c = some (fb, rest) →
          (getBuffer desc type w d c true a).2 = some fb.fbId ∧
            creation desc a.prime c = some fb.made := by
  refine ⟨h.cached.keys, ?_⟩
  intro d c a hreg fb rest hhit
  refine ⟨?_, creation_of_hit h.cached hreg hhit⟩
  simp only [FramebufferManager.getBuffer, if_true, hhit]

end Runs

/-! ### Two framebuffers of one key, and one framebuffer of two headers -/

open ExynosHal.FramebufferLifetime

/-- The window with a SAJC buffer whose header begins at `header`. -/
def sajcWindow (header : Nat) : WinConfig :=
  { rgbaWindow 1 with compressionInfo := ⟨COMP_TYPE_SAJC, 0, header⟩ }

/-- The descriptor of a buffer is its id. -/
def firstGem (bufferId plane : Nat) : Nat :=
  if plane = 0 then bufferId else 0

/-- A frame that shows one buffer in two windows. -/
def sharedBuffer : List (Op DisplayType) :=
  [.getBuffer .PRIMARY (rgbaWindow 1) true willing, .getBuffer .PRIMARY (rgbaWindow 1) true willing,
    .commit .PRIMARY, .flipFBs .PRIMARY true 1]

/-- A frame whose buffer has its header at 4096. -/
def sajcFrame : List (Op DisplayType) :=
  [.getBuffer .PRIMARY (sajcWindow 4096) true willing, .commit .PRIMARY, .flipFBs .PRIMARY true 1]

/-- The second frame of a window gets the framebuffer of the first. -/
theorem secondFrame_transparent :
    (getBuffer (fun _ => rgbaDesc) id (runCalls id (oneFrame DisplayType.PRIMARY 1 1)) .PRIMARY
        (rgbaWindow 1) true willing).2 = some 1 ∧
      ((runCalls id (oneFrame DisplayType.PRIMARY 1 1)).mCachedBuffers.map Framebuffer.made).head? =
        creation (fun _ => rgbaDesc) willing.prime (rgbaWindow 1) := by
  have hopens : ∀ l, layout (fun _ => rgbaDesc) (rgbaWindow 1) = some l →
      Opens firstGem willing.prime (rgbaWindow 1) l := by
    intro l hl _ i hi
    have hnum : l.bufferNum = 1 := by
      cases hl
      rfl
    have hzero : i = 0 := by omega
    subst hzero
    rfl
  have hfirst : RegularCall (fun _ => rgbaDesc) firstGem (World.empty : World DisplayType)
      (.getBuffer .PRIMARY (rgbaWindow 1) true willing) := by
    intro l hl
    refine ⟨hopens l hl, ?_, ?_⟩
    · intro fb hfb
      cases hfb
    · intro fb hfb
      cases hfb
  have hstart : RegularlyReached (fun _ => rgbaDesc) firstGem id (World.empty : World DisplayType) :=
    RegularlyReached.start
  have hframe := ((hstart.step _ hfirst).step (.commit .PRIMARY) trivial).step
    (.flipFBs .PRIMARY true 1) trivial
  have hsecond : RegularCall (fun _ => rgbaDesc) firstGem
      (runCalls id (oneFrame DisplayType.PRIMARY 1 1))
      (.getBuffer .PRIMARY (rgbaWindow 1) true willing) := by
    intro l hl
    refine ⟨hopens l hl, ?_, ?_⟩
    · intro fb hfb
      cases hfb
    · intro fb hfb _
      cases List.mem_singleton.mp hfb
      exact ⟨Iff.rfl, fun _ => rfl, fun _ => rfl, fun _ => rfl, fun _ => rfl⟩
  obtain ⟨hid, hmade⟩ := (cache_transparent hframe).2 .PRIMARY (rgbaWindow 1) willing hsecond
    _ _ rfl
  exact ⟨hid, hmade.symm⟩

/-- **The cache can be told.** A frame that shows one buffer in two windows leaves two cached
    framebuffers of one key; and a window whose header moved gets the framebuffer with the old
    offset. -/
theorem cache_seen :
    ¬ ((runCalls id sharedBuffer).mCachedBuffers.map Framebuffer.key).Nodup ∧
      (getBuffer (fun _ => rgbaDesc) id (runCalls id sajcFrame) .PRIMARY (sajcWindow 8192) true
          willing).2 = some 1 ∧
      ((runCalls id sajcFrame).mCachedBuffers.map fun fb => (fb.fbId, fb.made.layout.offsets)) =
        [(1, [0, 4096, 0, 0])] ∧
      (creation (fun _ => rgbaDesc) willing.prime (sajcWindow 8192)).map
          (fun k => k.layout.offsets) = some [0, 8192, 0, 0] := by
  decide +kernel

end ExynosHal.FramebufferCache
