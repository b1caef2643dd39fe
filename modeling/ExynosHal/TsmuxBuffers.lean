/-
  ExynosHal/TsmuxBuffers.lean
  ===========================
  **The buffers of the TS muxer.**

  `tsmux_init_m2m`, `tsmux_deinit_m2m`, `tsmux_init_otf` and `tsmux_deinit_otf` of
  `libtsmux/tsmux_hal.cpp`.  Each path has its slots for a dma-buf and a mapping
  of it.  The two `init` are the same but for the slots; the `deinit` of the OTF
  path forgets the descriptors it closes, the one of the M2M path does not.
-/
import ExynosHal.Ledger
import ExynosHal.TransitionSystem

namespace ExynosHal.TsmuxBuffers

open ExynosHal.TransitionSystem

def TSMUX_MAX_M2M_CMD_QUEUE_NUM : Nat := 3
def TSMUX_OUT_BUF_CNT : Nat := 4
def ENOMEM : Int := 12

/-! ### Slots -/

/-- What `inbuf_addr[i]` and its like hold. -/
inductive Address where
  | null
  /-- `MAP_FAILED`. -/
  | failed
  | mapped (address : Nat)
deriving DecidableEq, Repr

structure Slot where
  ion_buf_fd : Int
  addr : Address
deriving DecidableEq, Repr

def Slot.blank : Slot := ⟨-1, .null⟩

/-- What the kernel answers to an `init`: the buffers that are allocated and mapped,
    what the allocation behind them does if there are slots left, and the results
    of the two `ioctl`. -/
structure Answer where
  buffers : List (Nat × Nat)
  /-- The descriptor of a buffer that cannot be mapped; `none` if there is no buffer. -/
  unmapped : Option Nat
  mapBuf : Int
  setInfo : Int

/-- The slots of a path in the order of allocation, with a ledger of what it holds. -/
structure Buffers where
  slots : List Slot
  descriptors : Ledger Nat
  mappings : Ledger Address
  /-- The last call was an `init`.  No function reads it. -/
  initialised : Bool

/-- `if (ion_buf_fd > 0) close(ion_buf_fd)`. -/
def closeSlot (L : Ledger Nat) (s : Slot) : Ledger Nat :=
  if 0 < s.ion_buf_fd then L.release s.ion_buf_fd.toNat else L

/-- `if (addr != NULL) munmap(addr, buffer_size)`. -/
def unmapSlot (L : Ledger Address) (s : Slot) : Ledger Address :=
  if s.addr ≠ .null then L.release s.addr else L

/-- The two loops of an `init` that allocate and map. -/
def allocate (unmapped : Option Nat) :
    List Slot → List (Nat × Nat) → Ledger Nat → Ledger Address →
      List Slot × Ledger Nat × Ledger Address
  | [], _, fds, maps => ([], fds, maps)
  | _ :: slots, (fd, address) :: buffers, fds, maps =>
      let r := allocate unmapped slots buffers (fds.obtain fd) (maps.obtain (.mapped address))
      (⟨fd, .mapped address⟩ :: r.1, r.2)
  | slot :: slots, [], fds, maps =>
      match unmapped with
      | none => (slot :: slots, fds, maps)
      | some fd => (⟨fd, .failed⟩ :: slots, (fds.obtain fd).release fd, maps)

/-- `visit` is the order in which the slots are closed. -/
def initBuffers (visit : List Slot → List Slot) (b : Buffers) (answer : Answer) : Buffers × Int :=
  let fds := (visit b.slots).foldl closeSlot b.descriptors
  let r := allocate answer.unmapped b.slots answer.buffers fds b.mappings
  (⟨r.1, r.2.1, r.2.2, true⟩,
    if answer.buffers.length < b.slots.length then -ENOMEM
    else if answer.mapBuf < 0 then answer.mapBuf
    else answer.setInfo)

/-- `forgets` tells whether the descriptor of a slot becomes `-1`. -/
def deinitBuffers (visit : List Slot → List Slot) (forgets : Bool) (b : Buffers) : Buffers where
  slots := b.slots.map fun s => ⟨if forgets then -1 else s.ion_buf_fd, .null⟩
  descriptors := (visit b.slots).foldl closeSlot b.descriptors
  mappings := (visit b.slots).foldl unmapSlot b.mappings
  initialised := false

/-! ### The two paths -/

structure TsmuxHal where
  m2m : Buffers
  otf : Buffers

/-- In every round of a loop the input slot comes before the output slot. -/
def visitJobs (slots : List Slot) : List Slot :=
  ((slots.take TSMUX_MAX_M2M_CMD_QUEUE_NUM).zip (slots.drop TSMUX_MAX_M2M_CMD_QUEUE_NUM)).flatMap
    fun p => [p.1, p.2]

def tsmux_init_m2m (hal : TsmuxHal) (answer : Answer) : TsmuxHal × Int :=
  let r := initBuffers visitJobs hal.m2m answer
  ({ hal with m2m := r.1 }, r.2)

def tsmux_deinit_m2m (hal : TsmuxHal) : TsmuxHal :=
  { hal with m2m := deinitBuffers visitJobs false hal.m2m }

def tsmux_init_otf (hal : TsmuxHal) (answer : Answer) : TsmuxHal × Int :=
  let r := initBuffers id hal.otf answer
  ({ hal with otf := r.1 }, r.2)

def tsmux_deinit_otf (hal : TsmuxHal) : TsmuxHal :=
  { hal with otf := deinitBuffers id true hal.otf }

def Buffers.unused (n : Nat) : Buffers := ⟨List.replicate n .blank, .empty, .empty, false⟩

/-- After `tsmux_open`. -/
def opened : TsmuxHal :=
  ⟨.unused (2 * TSMUX_MAX_M2M_CMD_QUEUE_NUM), .unused TSMUX_OUT_BUF_CNT⟩

inductive Call where
  | initM2m (answer : Answer)
  | deinitM2m
  | initOtf (answer : Answer)
  | deinitOtf

def call (hal : TsmuxHal) : Call → TsmuxHal
  | .initM2m answer => (tsmux_init_m2m hal answer).1
  | .deinitM2m => tsmux_deinit_m2m hal
  | .initOtf answer => (tsmux_init_otf hal answer).1
  | .deinitOtf => tsmux_deinit_otf hal

/-! ### What is to hold -/

/-- Nothing is closed or unmapped that is not held, and a `deinit` leaves nothing. -/
structure Buffers.IsSound (b : Buffers) : Prop where
  closes : b.descriptors.IsClean
  unmaps : b.mappings.IsClean
  closed : b.initialised = false → b.descriptors.held = []
  unmapped : b.initialised = false → b.mappings.held = []

structure TsmuxHal.IsSound (hal : TsmuxHal) : Prop where
  m2m : hal.m2m.IsSound
  otf : hal.otf.IsSound

/-- The slots are as after `tsmux_open`, every buffer has a positive descriptor, and
    none fails to be mapped. -/
structure Buffers.CanInit (b : Buffers) (answer : Answer) : Prop where
  blank : ∀ s ∈ b.slots, s.ion_buf_fd ≤ 0 ∧ s.addr = .null
  positive : ∀ p ∈ answer.buffers, 0 < p.1
  mapped : answer.buffers.length < b.slots.length → answer.unmapped = none

/-- No slot names a descriptor that is closed already. -/
def Buffers.CanDeinit (b : Buffers) : Prop :=
  ∀ s ∈ b.slots, 0 < s.ion_buf_fd → s.ion_buf_fd.toNat ∈ b.descriptors.held

def Meets (hal : TsmuxHal) : Call → Prop
  | .initM2m answer => hal.m2m.CanInit answer
  | .deinitM2m => hal.m2m.CanDeinit
  | .initOtf answer => hal.otf.CanInit answer
  | .deinitOtf => hal.otf.CanDeinit

/-! ### One path -/

/-- The descriptors and the mappings that slots name. -/
def slotFds (slots : List Slot) : List Nat :=
  slots.filterMap fun s => if 0 < s.ion_buf_fd then some s.ion_buf_fd.toNat else none

def slotMaps (slots : List Slot) : List Address :=
  slots.filterMap fun s => if s.addr ≠ .null then some s.addr else none

theorem slotFds_cons (s : Slot) (slots : List Slot) :
    slotFds (s :: slots) =
      if 0 < s.ion_buf_fd then s.ion_buf_fd.toNat :: slotFds slots else slotFds slots := by
  unfold slotFds
  rw [List.filterMap_cons]
  by_cases h : 0 < s.ion_buf_fd
  · rw [if_pos h, if_pos h]
  · rw [if_neg h, if_neg h]

theorem slotMaps_cons (s : Slot) (slots : List Slot) :
    slotMaps (s :: slots) = if s.addr ≠ .null then s.addr :: slotMaps slots else slotMaps slots := by
  unfold slotMaps
  rw [List.filterMap_cons]
  by_cases h : s.addr ≠ .null
  · rw [if_pos h, if_pos h]
  · rw [if_neg h, if_neg h]

theorem slotFds_of_blank {slots : List Slot} (h : ∀ s ∈ slots, s.ion_buf_fd ≤ 0) :
    slotFds slots = [] := by
  induction slots with
  | nil => rfl
  | cons s slots ih =>
    rw [slotFds_cons, if_neg (Int.not_lt.mpr (h s List.mem_cons_self))]
    exact ih fun t ht => h t (List.mem_cons_of_mem s ht)

theorem slotMaps_of_blank {slots : List Slot} (h : ∀ s ∈ slots, s.addr = .null) :
    slotMaps slots = [] := by
  induction slots with
  | nil => rfl
  | cons s slots ih =>
    rw [slotMaps_cons, if_neg (not_not_intro (h s List.mem_cons_self))]
    exact ih fun t ht => h t (List.mem_cons_of_mem s ht)

theorem foldl_closeSlot (slots : List Slot) (L : Ledger Nat) :
    slots.foldl closeSlot L = L.releaseAll (slotFds slots) := by
  induction slots generalizing L with
  | nil => rfl
  | cons s slots ih =>
    rw [List.foldl_cons, ih, slotFds_cons, closeSlot]
    split <;> rfl

theorem foldl_unmapSlot (slots : List Slot) (L : Ledger Address) :
    slots.foldl unmapSlot L = L.releaseAll (slotMaps slots) := by
  induction slots generalizing L with
  | nil => rfl
  | cons s slots ih =>
    rw [List.foldl_cons, ih, slotMaps_cons, unmapSlot]
    split <;> rfl

/-- Both ledgers hold what the new slots name, and what they held before. -/
theorem allocate_spec {unmapped : Option Nat} {slots : List Slot} {buffers : List (Nat × Nat)}
    (hblank : ∀ s ∈ slots, s.ion_buf_fd ≤ 0 ∧ s.addr = .null)
    (hpositive : ∀ p ∈ buffers, 0 < p.1) (hmapped : buffers.length < slots.length → unmapped = none)
    (fds : Ledger Nat) (maps : Ledger Address) :
    (slotFds (allocate unmapped slots buffers fds maps).1 ++ fds.held).Perm
        (allocate unmapped slots buffers fds maps).2.1.held
      ∧ (slotMaps (allocate unmapped slots buffers fds maps).1 ++ maps.held).Perm
        (allocate unmapped slots buffers fds maps).2.2.held
      ∧ (allocate unmapped slots buffers fds maps).2.1.wrong = fds.wrong
      ∧ (allocate unmapped slots buffers fds maps).2.2.wrong = maps.wrong := by
  induction slots generalizing buffers fds maps with
  | nil =>
    unfold allocate
    exact ⟨.refl _, .refl _, rfl, rfl⟩
  | cons slot slots ih =>
    cases buffers with
    | nil =>
      have hfds := slotFds_of_blank fun s hs => (hblank s hs).1
      have hmaps := slotMaps_of_blank fun s hs => (hblank s hs).2
      rw [hmapped (Nat.succ_pos _)]
      unfold allocate
      dsimp only
      rw [hfds, hmaps]
      exact ⟨.refl _, .refl _, rfl, rfl⟩
    | cons p buffers =>
      obtain ⟨fd, address⟩ := p
      have hfd : 0 < fd := hpositive (fd, address) List.mem_cons_self
      obtain ⟨h₁, h₂, h₃, h₄⟩ := ih (fun s hs => hblank s (List.mem_cons_of_mem slot hs))
        (fun p hp => hpositive p (List.mem_cons_of_mem _ hp))
        (fun hlt => hmapped (Nat.succ_lt_succ hlt)) (fds.obtain fd) (maps.obtain (.mapped address))
      unfold allocate
      dsimp only
      rw [slotFds_cons, slotMaps_cons, if_pos (Int.natCast_pos.mpr hfd), if_pos nofun]
      refine ⟨List.Perm.trans ?_ h₁, List.Perm.trans ?_ h₂, h₃, h₄⟩
      · exact List.perm_middle.symm
      · exact List.perm_middle.symm

theorem allocate_length (unmapped : Option Nat) (slots : List Slot) (buffers : List (Nat × Nat))
    (fds : Ledger Nat) (maps : Ledger Address) :
    (allocate unmapped slots buffers fds maps).1.length = slots.length := by
  induction slots generalizing buffers fds maps with
  | nil => rfl
  | cons slot slots ih =>
    cases buffers with
    | nil => cases unmapped <;> rfl
    | cons p buffers =>
      unfold allocate
      dsimp only
      rw [List.length_cons, List.length_cons, ih]

/-- The invariant of a path: while it is in use its slots name what it holds, and
    otherwise it holds nothing and no slot has a mapping. -/
structure Buffers.Invariant (b : Buffers) : Prop where
  closes : b.descriptors.IsClean
  unmaps : b.mappings.IsClean
  inUse : b.initialised = true →
    (slotFds b.slots).Perm b.descriptors.held ∧ (slotMaps b.slots).Perm b.mappings.held
  idle : b.initialised = false →
    b.descriptors.held = [] ∧ b.mappings.held = [] ∧ slotMaps b.slots = []

theorem Buffers.Invariant.isSound {b : Buffers} (h : b.Invariant) : b.IsSound :=
  ⟨h.closes, h.unmaps, fun hi => (h.idle hi).1, fun hi => (h.idle hi).2.1⟩

theorem Buffers.Invariant.init {b : Buffers} (h : b.Invariant) {visit : List Slot → List Slot}
    (hvisit : (visit b.slots).Perm b.slots) {answer : Answer} (hmeets : b.CanInit answer) :
    (initBuffers visit b answer).1.Invariant := by
  have hfds := slotFds_of_blank fun s hs => (hmeets.blank s hs).1
  have hmaps := slotMaps_of_blank fun s hs => (hmeets.blank s hs).2
  have hheld : b.descriptors.held = [] ∧ b.mappings.held = [] := by
    cases hi : b.initialised with
    | true =>
      obtain ⟨h₁, h₂⟩ := h.inUse hi
      rw [hfds] at h₁
      rw [hmaps] at h₂
      exact ⟨List.nil_perm.mp h₁, List.nil_perm.mp h₂⟩
    | false => exact ⟨(h.idle hi).1, (h.idle hi).2.1⟩
  have hnone : (visit b.slots).foldl closeSlot b.descriptors = b.descriptors := by
    have : slotFds (visit b.slots) = [] := by
      have hperm : (slotFds (visit b.slots)).Perm (slotFds b.slots) := hvisit.filterMap _
      rw [hfds] at hperm
      exact hperm.eq_nil
    rw [foldl_closeSlot, this]
    rfl
  obtain ⟨h₁, h₂, h₃, h₄⟩ := allocate_spec hmeets.blank hmeets.positive hmeets.mapped
    b.descriptors b.mappings
  rw [hheld.1, List.append_nil] at h₁
  rw [hheld.2, List.append_nil] at h₂
  unfold initBuffers
  dsimp only
  rw [hnone]
  exact ⟨h₃.trans h.closes, h₄.trans h.unmaps, fun _ => ⟨h₁, h₂⟩, nofun⟩

theorem Buffers.Invariant.deinit {b : Buffers} (h : b.Invariant) {visit : List Slot → List Slot}
    (hvisit : (visit b.slots).Perm b.slots) (forgets : Bool) (hmeets : b.CanDeinit) :
    (deinitBuffers visit forgets b).Invariant := by
  have hfds : (slotFds (visit b.slots)).Perm b.descriptors.held := by
    have hperm : (slotFds (visit b.slots)).Perm (slotFds b.slots) := hvisit.filterMap _
    cases hi : b.initialised with
    | true => exact hperm.trans (h.inUse hi).1
    | false =>
      have hheld := (h.idle hi).1
      have hblank : slotFds b.slots = [] := slotFds_of_blank fun s hs => by
        by_contra hpos
        have := hmeets s hs (Int.not_le.mp hpos)
        rw [hheld] at this
        exact List.not_mem_nil this
      rw [hheld, ← hblank]
      exact hperm
  have hmaps : (slotMaps (visit b.slots)).Perm b.mappings.held := by
    have hperm : (slotMaps (visit b.slots)).Perm (slotMaps b.slots) := hvisit.filterMap _
    cases hi : b.initialised with
    | true => exact hperm.trans (h.inUse hi).2
    | false =>
      obtain ⟨_, hheld, hnone⟩ := h.idle hi
      rw [hheld, ← hnone]
      exact hperm
  unfold deinitBuffers
  rw [foldl_closeSlot, foldl_unmapSlot, Ledger.releaseAll_of_perm hfds,
    Ledger.releaseAll_of_perm hmaps]
  refine ⟨h.closes, h.unmaps, nofun, fun _ => ⟨rfl, rfl, slotMaps_of_blank fun s hs => ?_⟩⟩
  obtain ⟨t, _, rfl⟩ := List.mem_map.mp hs
  rfl

/-! ### Both paths -/

theorem interleave_perm {l₁ l₂ : List Slot} (h : l₁.length = l₂.length) :
    ((l₁.zip l₂).flatMap fun p => [p.1, p.2]).Perm (l₁ ++ l₂) := by
  induction l₁ generalizing l₂ with
  | nil =>
    have : l₂ = [] := List.length_eq_zero_iff.mp h.symm
    rw [this]
    exact .refl _
  | cons a l₁ ih =>
    cases l₂ with
    | nil => cases h
    | cons b l₂ =>
      rw [List.zip_cons_cons, List.flatMap_cons]
      refine List.Perm.trans (List.Perm.append_left [a, b] (ih (Nat.succ.inj h))) ?_
      exact List.Perm.cons a
        (show (b :: (l₁ ++ l₂)).Perm (l₁ ++ b :: l₂) from List.perm_middle.symm)

theorem visitJobs_perm {slots : List Slot} (h : slots.length = 2 * TSMUX_MAX_M2M_CMD_QUEUE_NUM) :
    (visitJobs slots).Perm slots := by
  have hlen : (slots.take TSMUX_MAX_M2M_CMD_QUEUE_NUM).length
      = (slots.drop TSMUX_MAX_M2M_CMD_QUEUE_NUM).length := by
    rw [List.length_take, List.length_drop]
    omega
  have hperm := interleave_perm hlen
  rw [List.take_append_drop] at hperm
  exact hperm

structure TsmuxHal.Invariant (hal : TsmuxHal) : Prop where
  jobs : hal.m2m.slots.length = 2 * TSMUX_MAX_M2M_CMD_QUEUE_NUM
  m2m : hal.m2m.Invariant
  otf : hal.otf.Invariant

theorem Buffers.Invariant.unused (n : Nat) : (Buffers.unused n).Invariant where
  closes := rfl
  unmaps := rfl
  inUse := nofun
  idle _ := ⟨rfl, rfl, slotMaps_of_blank fun _ hs => (List.eq_of_mem_replicate hs) ▸ rfl⟩

theorem TsmuxHal.Invariant.call {hal : TsmuxHal} (h : hal.Invariant) {c : Call}
    (hmeets : Meets hal c) : (call hal c).Invariant := by
  have hvisit := visitJobs_perm h.jobs
  cases c with
  | initM2m answer =>
    exact ⟨(allocate_length ..).trans h.jobs, h.m2m.init hvisit hmeets, h.otf⟩
  | deinitM2m =>
    refine ⟨?_, h.m2m.deinit hvisit false hmeets, h.otf⟩
    exact (List.length_map _).trans h.jobs
  | initOtf answer => exact ⟨h.jobs, h.m2m, h.otf.init (.refl _) hmeets⟩
  | deinitOtf => exact ⟨h.jobs, h.m2m, h.otf.deinit (.refl _) true hmeets⟩

/-- **The buffers are closed and unmapped exactly once**, in every run whose calls
    meet the condition. -/
theorem buffers_run {hal : TsmuxHal}
    (h : Reachable (· = opened) (guarded Meets (ofFun call)) hal) : hal.IsSound := by
  have hinv : hal.Invariant := by
    refine Reachable.invariant ?_ ?_ h
    · rintro hal rfl
      exact ⟨rfl, .unused _, .unused _⟩
    · rintro hal c hal' hI ⟨hmeets, hstep⟩
      rw [hstep]
      exact hI.call hmeets
  exact ⟨hinv.m2m.isSound, hinv.otf.isSound⟩

def sixBuffers : Answer :=
  ⟨[(5, 50), (6, 60), (7, 70), (8, 80), (9, 90), (10, 100)], none, 0, 0⟩

/-- Both paths are used and left, the OTF path twice. -/
theorem bothPaths_sound :
    (call (call (call (call (call opened (.initM2m sixBuffers)) (.initOtf sixBuffers)) .deinitOtf)
      .deinitM2m) (.initOtf sixBuffers)).IsSound := by
  refine buffers_run (.next (a := .initOtf sixBuffers) (.next (a := .deinitM2m)
    (.next (a := .deinitOtf) (.next (a := .initOtf sixBuffers) (.next (a := .initM2m sixBuffers)
      (.start rfl) ⟨?_, rfl⟩) ⟨?_, rfl⟩) ⟨?_, rfl⟩) ⟨?_, rfl⟩) ⟨?_, rfl⟩)
  · exact ⟨by decide, by decide, by decide⟩
  · exact ⟨by decide, by decide, by decide⟩
  · show ∀ s ∈ _, _
    decide
  · show ∀ s ∈ _, _
    decide
  · exact ⟨by decide, by decide, by decide⟩

/-- **A second `init` of the M2M path** closes the descriptors that the `deinit`
    before it has closed. -/
theorem secondInit_closes_again :
    ¬∀ hal, Reachable (· = opened) (ofFun call) hal → hal.IsSound := by
  intro h
  have hrun := h _ (.next (a := .initM2m sixBuffers) (.next (a := .deinitM2m)
    (.next (a := .initM2m sixBuffers) (.start rfl) rfl) rfl) rfl)
  exact absurd hrun.m2m.closes (by decide)

end ExynosHal.TsmuxBuffers
