/-
  ExynosHal/RepeaterBuffers.lean
  ==============================
  **The shared buffers of the repeater.**

  `repeater_open`, `repeater_close`, `repeater_map`, `repeater_unmap` and
  `repeater_dump` of `librepeater/repeater_hal.cpp`.  A handle keeps the descriptors of
  its dma-bufs, the addresses they are mapped at, and the width and height that the
  size of the mappings is computed from.  A map sets the three at different points.

  The buffers are closed and unmapped exactly once, and no dead address is used, in
  every run where buffers are unmapped before the next map and before the close, none
  has descriptor 0, and the mappings are what the handle says at an unmap or a dump
  (`repeater_run_sound`).
-/
import ExynosHal.Ledger
import ExynosHal.TransitionSystem
import Mathlib.Algebra.Order.Group.Int
import Mathlib.Algebra.Order.Ring.Int

namespace ExynosHal.RepeaterBuffers

open ExynosHal.TransitionSystem

def MAX_SHARED_BUFFER_NUM : Nat := 3
def ENOENT : Int := 2
def ENOMEM : Int := 12

/-! ### Sizes -/

/-- `__ALIGN_UP`, for a power of two. -/
def alignUp (x a : Int) : Int := (x + (a - 1)) / a * a

def NV12N_Y_SIZE (w h : Int) : Int := alignUp w 16 * alignUp h 16 + 256

def NV12N_CBCR_SIZE (w h : Int) : Int := alignUp (alignUp w 16 * (alignUp h 16 / 2) + 256) 16

def bufferSize (w h : Int) : Int := NV12N_Y_SIZE w h + NV12N_CBCR_SIZE w h

/-! ### The handle -/

/-- What `buf_addr[i]` holds. -/
inductive Address where
  | null
  /-- `MAP_FAILED`. -/
  | failed
  | mapped (address : Nat)
deriving DecidableEq, Repr

/-- `info.buf_fd[i]` and `buf_addr[i]`. -/
structure Slot where
  buf_fd : Int
  buf_addr : Address
deriving DecidableEq, Repr

/-- `repeater_hal`. -/
structure Hal where
  repeater_fd : Int
  width : Int
  height : Int
  slots : List Slot
deriving DecidableEq, Repr

/-- A read of memory: an address, the offset from it and the number of bytes. -/
structure Read where
  addr : Address
  offset : Int
  length : Int
deriving DecidableEq, Repr

/-- The read lies within one of the mappings. -/
def Read.Live (r : Read) (maps : Ledger (Address × Int)) : Prop :=
  ∃ m ∈ maps.held, m.1 = r.addr ∧ 0 ≤ r.offset ∧ 0 ≤ r.length ∧ r.offset + r.length ≤ m.2

instance (r : Read) (maps : Ledger (Address × Int)) : Decidable (r.Live maps) :=
  inferInstanceAs (Decidable (∃ m ∈ maps.held, _))

/-- The client's handle (`none` is `NULL`), with the ledgers of the dma-buf descriptors and
of the mappings, which are named by address and size, and the reads of dead memory. -/
structure World where
  handle : Option Hal
  fds : Ledger Int
  maps : Ledger (Address × Int)
  deadReads : List Read

/-- Before `repeater_open`. -/
def World.initial : World := ⟨none, .empty, .empty, []⟩

/-! ### The calls -/

/-- The contents of the allocated handle that `repeater_open` does not set. -/
structure Unset where
  width : Int
  height : Int
  buf_addr : Fin MAX_SHARED_BUFFER_NUM → Address

/-- What a map gets to work with.  `buffers` are the descriptors that the allocations
give, each with where it is mapped; after the last of them an allocation fails. -/
structure MapAnswer where
  mapName : Int
  buffers : List (Nat × Option Nat)
  mapBuf : Int
  setMaxSkipped : Int

structure DumpAnswer where
  ret : Int
  buf_idx : Int
  opened : Bool

inductive Call where
  | repeater_open (repeater_fd : Int) (unset : Unset)
  | repeater_map (w h : Int) (answer : MapAnswer)
  | repeater_unmap
  | repeater_dump (answer : DumpAnswer)
  | repeater_close

/-- A client that has a handle gets another one, which lives a life of its own. -/
def repeater_open (world : World) (repeater_fd : Int) (unset : Unset) : World :=
  match world.handle with
  | some _ => world
  | none =>
    if repeater_fd < 0 then world
    else { world with
      handle := some
        { repeater_fd := repeater_fd
          width := unset.width
          height := unset.height
          slots := List.ofFn fun i => ⟨-1, unset.buf_addr i⟩ } }

def repeater_close (world : World) : World := { world with handle := none }

/-- `if (buf_fd > 0) close(buf_fd)`. -/
def closeSlot (fds : Ledger Int) (slot : Slot) : Ledger Int :=
  if 0 < slot.buf_fd then fds.release slot.buf_fd else fds

def Slot.closed (slot : Slot) : Slot :=
  if 0 < slot.buf_fd then { slot with buf_fd := -1 } else slot

/-- `if (buf_addr) munmap(buf_addr, size)`, of a slot with a descriptor. -/
def unmapSlot (size : Int) (maps : Ledger (Address × Int)) (slot : Slot) :
    Ledger (Address × Int) :=
  if 0 < slot.buf_fd ∧ slot.buf_addr ≠ .null then maps.release (slot.buf_addr, size) else maps

/-- Where the loop of a map stands: the slots, and the two ledgers. -/
structure Allocation where
  done : Bool
  slots : List Slot
  fds : Ledger Int
  maps : Ledger (Address × Int)

/-- The loop of a map that allocates and maps.  A slot whose mapping fails keeps its
buffer. -/
def allocate (size : Int) : List Slot → List (Nat × Option Nat) → Ledger Int →
    Ledger (Address × Int) → Allocation
  | [], _, fds, maps => ⟨true, [], fds, maps⟩
  | slot :: slots, [], fds, maps => ⟨false, { slot with buf_fd := -1 } :: slots, fds, maps⟩
  | _ :: slots, (fd, none) :: buffers, fds, maps =>
    let r := allocate size slots buffers (fds.obtain fd) maps
    { r with slots := ⟨fd, .failed⟩ :: r.slots }
  | _ :: slots, (fd, some address) :: buffers, fds, maps =>
    let r := allocate size slots buffers (fds.obtain fd) (maps.obtain (.mapped address, size))
    { r with slots := ⟨fd, .mapped address⟩ :: r.slots }

def repeater_map (world : World) (w h : Int) (answer : MapAnswer) : Int × World :=
  match world.handle with
  | none => (-ENOENT, world)
  | some hal =>
    let fds := hal.slots.foldl closeSlot world.fds
    let slots := hal.slots.map Slot.closed
    if answer.mapName < 0 then
      (answer.mapName, { world with handle := some { hal with slots := slots }, fds := fds })
    else
      let r := allocate (bufferSize w h) slots answer.buffers fds world.maps
      if r.done then
        -- the size is recorded here, after all allocations
        (if answer.mapBuf < 0 then answer.mapBuf else answer.setMaxSkipped,
          { world with
            handle := some { hal with width := w, height := h, slots := r.slots }
            fds := r.fds
            maps := r.maps })
      else
        (-ENOMEM, { world with
          handle := some { hal with slots := r.slots }
          fds := r.fds
          maps := r.maps })

def repeater_unmap (world : World) : World :=
  match world.handle with
  | none => world
  | some hal =>
    { world with
      handle := some { hal with slots := hal.slots.map Slot.closed }
      fds := hal.slots.foldl closeSlot world.fds
      maps := hal.slots.foldl (unmapSlot (bufferSize hal.width hal.height)) world.maps }

/-- The two `fwrite` of a dump. -/
def pictureReads (w h : Int) (addr : Address) : List Read :=
  [⟨addr, 0, w * h⟩, ⟨addr, NV12N_Y_SIZE w h, (w * h).tdiv 2⟩]

/-- What a dump reads; the driver's index is below the buffer count. -/
def dumpReads (hal : Hal) (answer : DumpAnswer) : List Read :=
  if answer.ret = 0 ∧ 0 ≤ answer.buf_idx ∧ answer.opened then
    match hal.slots[answer.buf_idx.toNat]? with
    | some slot =>
      if slot.buf_addr ≠ .null then pictureReads hal.width hal.height slot.buf_addr else []
    | none => []
  else []

def repeater_dump (world : World) (answer : DumpAnswer) : Int × World :=
  match world.handle with
  | none => (-ENOENT, world)
  | some hal =>
    (answer.ret, { world with
      deadReads := (dumpReads hal answer).filter (fun r => !decide (r.Live world.maps)) ++
        world.deadReads })

def step (world : World) : Call → World
  | .repeater_open repeater_fd unset => repeater_open world repeater_fd unset
  | .repeater_map w h answer => (repeater_map world w h answer).2
  | .repeater_unmap => repeater_unmap world
  | .repeater_dump answer => (repeater_dump world answer).2
  | .repeater_close => repeater_close world

/-! ### What is to hold -/

/-- Nothing is closed or unmapped that is not held, a mapping being held with its size,
no dead memory is read, and a closed handle leaves nothing behind. -/
structure World.IsSound (world : World) : Prop where
  closes : world.fds.IsClean
  unmaps : world.maps.IsClean
  reads : world.deadReads = []
  closed : world.handle = none → world.fds.held = []
  unmapped : world.handle = none → world.maps.held = []

/-- Before a map no buffer is mapped, and the buffers it gets have a positive descriptor. -/
structure CanMap (hal : Hal) (answer : MapAnswer) : Prop where
  unmapped : ∀ slot ∈ hal.slots, 0 < slot.buf_fd → ∀ address, slot.buf_addr ≠ .mapped address
  positive : 0 ≤ answer.mapName → ∀ b ∈ answer.buffers.take hal.slots.length, b.1 ≠ 0

/-- Before an unmap no buffer failed to be mapped, and the mappings were made with the
recorded size. -/
structure CanUnmap (hal : Hal) (maps : Ledger (Address × Int)) : Prop where
  mapped : ∀ slot ∈ hal.slots, 0 < slot.buf_fd → slot.buf_addr ≠ .failed
  recorded : ∀ m ∈ maps.held, m.2 = bufferSize hal.width hal.height

/-- The buffer that a dump is to read is mapped, over a picture of the recorded size. -/
def CanDump (hal : Hal) (maps : Ledger (Address × Int)) (answer : DumpAnswer) : Prop :=
  ∀ r ∈ dumpReads hal answer, r.Live maps

/-- Before a close there is no buffer. -/
def CanClose (hal : Hal) : Prop := ∀ slot ∈ hal.slots, ¬ 0 < slot.buf_fd

/-- **The condition** on a call, in the state before it. -/
def Careful (world : World) (call : Call) : Prop :=
  ∀ hal, world.handle = some hal →
    match call with
    | .repeater_open _ _ => True
    | .repeater_map _ _ answer => CanMap hal answer
    | .repeater_unmap => CanUnmap hal world.maps
    | .repeater_dump answer => CanDump hal world.maps answer
    | .repeater_close => CanClose hal

/-! ### A picture and its mapping -/

theorem le_alignUp (x : Int) : x ≤ alignUp x 16 := by
  unfold alignUp
  omega

/-- **A mapping of the recorded size holds the picture.** -/
theorem picture_fits (w h : Int) (hw : 0 ≤ w) (hh : 0 ≤ h) (addr : Address) (r : Read)
    (hr : r ∈ pictureReads w h addr) :
    0 ≤ r.offset ∧ 0 ≤ r.length ∧ r.offset + r.length ≤ bufferSize w h := by
  have hA : w ≤ alignUp w 16 := le_alignUp w
  have hB : h ≤ alignUp h 16 := le_alignUp h
  have hprod : w * h ≤ alignUp w 16 * alignUp h 16 :=
    Int.mul_le_mul hA hB hh (Int.le_trans hw hA)
  have hnonneg : 0 ≤ w * h := Int.mul_nonneg hw hh
  have heven : alignUp h 16 = 2 * (alignUp h 16 / 2) := by
    unfold alignUp
    omega
  have hhalf : alignUp w 16 * alignUp h 16 = 2 * (alignUp w 16 * (alignUp h 16 / 2)) := by
    calc alignUp w 16 * alignUp h 16
        = alignUp w 16 * (2 * (alignUp h 16 / 2)) := by rw [← heven]
      _ = 2 * (alignUp w 16 * (alignUp h 16 / 2)) := by rw [Int.mul_left_comm]
  have hcbcr : alignUp w 16 * (alignUp h 16 / 2) + 256 ≤ NV12N_CBCR_SIZE w h := le_alignUp _
  have hdiv : (w * h).tdiv 2 = w * h / 2 := Int.tdiv_eq_ediv_of_nonneg hnonneg
  have hsize : bufferSize w h = NV12N_Y_SIZE w h + NV12N_CBCR_SIZE w h := rfl
  have hY : NV12N_Y_SIZE w h = alignUp w 16 * alignUp h 16 + 256 := rfl
  rcases List.mem_pair.mp hr with rfl | rfl
  · refine ⟨Int.le_refl 0, hnonneg, ?_⟩
    simp only
    omega
  · refine ⟨?_, ?_, ?_⟩
    · simp only
      omega
    · simp only
      omega
    · simp only
      omega

/-! ### What the slots name -/

def openFds (slots : List Slot) : List Int :=
  slots.filterMap fun slot => if 0 < slot.buf_fd then some slot.buf_fd else none

/-- The address of a slot with a buffer that is mapped. -/
def Slot.mapping (slot : Slot) : Option Address :=
  if 0 < slot.buf_fd ∧ slot.buf_addr ≠ .null ∧ slot.buf_addr ≠ .failed then some slot.buf_addr
  else none

def openMaps (slots : List Slot) : List Address := slots.filterMap Slot.mapping

theorem openFds_cons (slot : Slot) (slots : List Slot) :
    openFds (slot :: slots) =
      if 0 < slot.buf_fd then slot.buf_fd :: openFds slots else openFds slots := by
  unfold openFds
  rw [List.filterMap_cons]
  by_cases h : 0 < slot.buf_fd
  · simp only [if_pos h]
  · simp only [if_neg h]

theorem openFds_of_closed {slots : List Slot} (h : ∀ slot ∈ slots, ¬ 0 < slot.buf_fd) :
    openFds slots = [] := by
  unfold openFds
  rw [List.filterMap_eq_nil_iff]
  intro slot hmem
  exact if_neg (h slot hmem)

theorem openMaps_of_closed {slots : List Slot} (h : ∀ slot ∈ slots, ¬ 0 < slot.buf_fd) :
    openMaps slots = [] := by
  unfold openMaps
  rw [List.filterMap_eq_nil_iff]
  intro slot hmem
  apply if_neg
  rintro ⟨hpos, -⟩
  exact h slot hmem hpos

/-- No buffer is mapped before a map that may be made. -/
theorem CanMap.openMaps_eq {hal : Hal} {answer : MapAnswer} (h : CanMap hal answer) :
    openMaps hal.slots = [] := by
  unfold openMaps
  rw [List.filterMap_eq_nil_iff]
  intro slot hmem
  apply if_neg
  rintro ⟨hpos, hnull, hfailed⟩
  cases haddr : slot.buf_addr with
  | null => exact hnull haddr
  | failed => exact hfailed haddr
  | mapped address => exact h.unmapped slot hmem hpos address haddr

theorem closed_fd {slots : List Slot} : ∀ slot ∈ slots.map Slot.closed, ¬ 0 < slot.buf_fd := by
  intro slot hmem
  obtain ⟨before, -, rfl⟩ := List.mem_map.mp hmem
  unfold Slot.closed
  split
  · simp
  · next h => exact h

theorem foldl_closeSlot (slots : List Slot) (fds : Ledger Int) :
    slots.foldl closeSlot fds = fds.releaseAll (openFds slots) := by
  induction slots generalizing fds with
  | nil => rfl
  | cons slot slots ih =>
      rw [List.foldl_cons, ih, openFds_cons, closeSlot]
      split <;> rfl

/-- An unmap unmaps what the slots name, when no mapping failed. -/
theorem foldl_unmapSlot (size : Int) (slots : List Slot) (maps : Ledger (Address × Int))
    (h : ∀ slot ∈ slots, 0 < slot.buf_fd → slot.buf_addr ≠ .failed) :
    slots.foldl (unmapSlot size) maps =
      maps.releaseAll ((openMaps slots).map fun addr => (addr, size)) := by
  induction slots generalizing maps with
  | nil => rfl
  | cons slot slots ih =>
      have hslots : ∀ slot ∈ slots, 0 < slot.buf_fd → slot.buf_addr ≠ .failed := by
        intro other hmem
        exact h other (List.mem_cons_of_mem _ hmem)
      rw [List.foldl_cons, ih _ hslots, unmapSlot]
      unfold openMaps
      rw [List.filterMap_cons]
      by_cases hslot : 0 < slot.buf_fd ∧ slot.buf_addr ≠ .null
      · have hmapping : slot.mapping = some slot.buf_addr :=
          if_pos ⟨hslot.1, hslot.2, h slot List.mem_cons_self hslot.1⟩
        rw [if_pos hslot, hmapping]
        rfl
      · have hmapping : slot.mapping = none := by
          apply if_neg
          rintro ⟨hpos, hnull, -⟩
          exact hslot ⟨hpos, hnull⟩
        rw [if_neg hslot, hmapping]

/-- The allocations: what the new slots name has been obtained, nothing released. -/
theorem allocate_spec (size : Int) (slots : List Slot) (buffers : List (Nat × Option Nat))
    (fds : Ledger Int) (maps : Ledger (Address × Int))
    (hclosed : ∀ slot ∈ slots, ¬ 0 < slot.buf_fd)
    (hpositive : ∀ b ∈ buffers.take slots.length, b.1 ≠ 0) :
    (allocate size slots buffers fds maps).fds.held.Perm
        (openFds (allocate size slots buffers fds maps).slots ++ fds.held) ∧
      ((allocate size slots buffers fds maps).maps.held.map Prod.fst).Perm
        (openMaps (allocate size slots buffers fds maps).slots ++ maps.held.map Prod.fst) ∧
      (allocate size slots buffers fds maps).fds.wrong = fds.wrong ∧
      (allocate size slots buffers fds maps).maps.wrong = maps.wrong := by
  induction slots generalizing buffers fds maps with
  | nil => exact ⟨.refl _, .refl _, rfl, rfl⟩
  | cons slot slots ih =>
      have hslots : ∀ slot ∈ slots, ¬ 0 < slot.buf_fd := by
        intro other hmem
        exact hclosed other (List.mem_cons_of_mem _ hmem)
      cases buffers with
      | nil =>
          have hnone : ∀ other ∈ ({ slot with buf_fd := -1 } : Slot) :: slots,
              ¬ 0 < other.buf_fd := by
            intro other hmem
            rcases List.mem_cons.mp hmem with rfl | hmem
            · simp
            · exact hslots other hmem
          unfold allocate
          simp only [openFds_of_closed hnone, openMaps_of_closed hnone, List.nil_append]
          exact ⟨.refl _, .refl _, trivial, trivial⟩
      | cons b buffers =>
          obtain ⟨fd, mapping⟩ := b
          have hne : fd ≠ 0 := hpositive (fd, mapping) (by simp)
          have hfd : (0 : Int) < fd := by omega
          have hbuffers : ∀ b ∈ buffers.take slots.length, b.1 ≠ 0 := by
            intro b hmem
            apply hpositive b
            rw [List.length_cons, List.take_succ_cons]
            exact List.mem_cons_of_mem _ hmem
          cases mapping with
          | none =>
              obtain ⟨hfds, hmaps, hwrongFds, hwrongMaps⟩ :=
                ih buffers (fds.obtain fd) maps hslots hbuffers
              unfold allocate
              simp only [openFds_cons, if_pos hfd]
              refine ⟨hfds.trans List.perm_middle, ?_, hwrongFds, hwrongMaps⟩
              have hmapping : (⟨fd, .failed⟩ : Slot).mapping = none := by simp [Slot.mapping]
              unfold openMaps at hmaps ⊢
              rw [List.filterMap_cons, hmapping]
              exact hmaps
          | some address =>
              obtain ⟨hfds, hmaps, hwrongFds, hwrongMaps⟩ :=
                ih buffers (fds.obtain fd) (maps.obtain (.mapped address, size)) hslots hbuffers
              unfold allocate
              simp only [openFds_cons, if_pos hfd]
              refine ⟨hfds.trans List.perm_middle, ?_, hwrongFds, hwrongMaps⟩
              have hmapping : (⟨fd, .mapped address⟩ : Slot).mapping = some (.mapped address) :=
                if_pos ⟨hfd, by simp, by simp⟩
              unfold openMaps at hmaps ⊢
              rw [List.filterMap_cons, hmapping]
              exact hmaps.trans List.perm_middle

/-! ### The invariant -/

/-- The slots of the handle name what is held; without a handle nothing is. -/
structure World.Invariant (world : World) : Prop where
  closes : world.fds.IsClean
  unmaps : world.maps.IsClean
  reads : world.deadReads = []
  idle : world.handle = none → world.fds.held = [] ∧ world.maps.held = []
  inUse : ∀ hal, world.handle = some hal →
    world.fds.held.Perm (openFds hal.slots) ∧
      (world.maps.held.map Prod.fst).Perm (openMaps hal.slots)

theorem World.Invariant.isSound {world : World} (h : world.Invariant) : world.IsSound where
  closes := h.closes
  unmaps := h.unmaps
  reads := h.reads
  closed hnone := (h.idle hnone).1
  unmapped hnone := (h.idle hnone).2

theorem World.Invariant.initial : World.initial.Invariant where
  closes := rfl
  unmaps := rfl
  reads := rfl
  idle _ := ⟨rfl, rfl⟩
  inUse := by
    intro hal hsome
    exact absurd hsome (by simp [World.initial])

theorem World.Invariant.repeater_open {world : World} (h : world.Invariant) (repeater_fd : Int)
    (unset : Unset) : (repeater_open world repeater_fd unset).Invariant := by
  unfold RepeaterBuffers.repeater_open
  split
  · exact h
  · next hnone =>
    split
    · exact h
    · obtain ⟨hfds, hmaps⟩ := h.idle hnone
      refine ⟨h.closes, h.unmaps, h.reads, by simp, ?_⟩
      intro hal hsome
      obtain rfl := Option.some.inj hsome
      have hclosed : ∀ slot ∈ List.ofFn fun i => (⟨-1, unset.buf_addr i⟩ : Slot),
          ¬ 0 < slot.buf_fd := by
        intro slot hmem
        obtain ⟨i, rfl⟩ := List.mem_ofFn.mp hmem
        simp
      simp only [openFds_of_closed hclosed, openMaps_of_closed hclosed, hfds, hmaps, List.map_nil]
      exact ⟨.refl _, .refl _⟩

theorem World.Invariant.repeater_close {world : World} (h : world.Invariant)
    (hcareful : Careful world .repeater_close) : (repeater_close world).Invariant := by
  have hheld : world.fds.held = [] ∧ world.maps.held = [] := by
    cases hhandle : world.handle with
    | none => exact h.idle hhandle
    | some hal =>
        obtain ⟨hfds, hmaps⟩ := h.inUse hal hhandle
        have hclosed : CanClose hal := hcareful hal hhandle
        rw [openFds_of_closed hclosed] at hfds
        rw [openMaps_of_closed hclosed] at hmaps
        exact ⟨hfds.eq_nil, List.map_eq_nil_iff.mp hmaps.eq_nil⟩
  refine ⟨h.closes, h.unmaps, h.reads, fun _ => hheld, ?_⟩
  intro hal hsome
  exact absurd hsome (by simp [RepeaterBuffers.repeater_close])

/-- Closing the buffers of the slots closes all that are open. -/
theorem World.Invariant.closeSlots {world : World} (h : world.Invariant) {hal : Hal}
    (hhandle : world.handle = some hal) :
    hal.slots.foldl closeSlot world.fds = ⟨[], world.fds.wrong⟩ := by
  rw [foldl_closeSlot, Ledger.releaseAll_of_perm (h.inUse hal hhandle).1.symm]

theorem World.Invariant.repeater_map {world : World} (h : world.Invariant) (width height : Int)
    (answer : MapAnswer) (hcareful : Careful world (.repeater_map width height answer)) :
    (repeater_map world width height answer).2.Invariant := by
  unfold RepeaterBuffers.repeater_map
  cases hhandle : world.handle with
  | none => exact h
  | some hal =>
      have hcan : CanMap hal answer := hcareful hal hhandle
      have hmaps : world.maps.held = [] := by
        have hperm := (h.inUse hal hhandle).2
        rw [hcan.openMaps_eq] at hperm
        exact List.map_eq_nil_iff.mp hperm.eq_nil
      simp only [h.closeSlots hhandle]
      split
      · refine ⟨h.closes, h.unmaps, h.reads, by simp, ?_⟩
        intro hal' hsome
        obtain rfl := Option.some.inj hsome
        simp only [openFds_of_closed closed_fd, openMaps_of_closed closed_fd, hmaps, List.map_nil]
        exact ⟨.refl _, .refl _⟩
      · next hname =>
        have hpositive : ∀ b ∈ answer.buffers.take (hal.slots.map Slot.closed).length,
            b.1 ≠ 0 := by
          rw [List.length_map]
          exact hcan.positive (Int.not_lt.mp hname)
        obtain ⟨hfds, hmaps', hwrongFds, hwrongMaps⟩ := allocate_spec (bufferSize width height)
          (hal.slots.map Slot.closed) answer.buffers ⟨[], world.fds.wrong⟩ world.maps closed_fd
          hpositive
        rw [hmaps, List.map_nil, List.append_nil] at hmaps'
        rw [List.append_nil] at hfds
        split
        · refine ⟨hwrongFds.trans h.closes, hwrongMaps.trans h.unmaps, h.reads, by simp, ?_⟩
          intro hal' hsome
          obtain rfl := Option.some.inj hsome
          exact ⟨hfds, hmaps'⟩
        · refine ⟨hwrongFds.trans h.closes, hwrongMaps.trans h.unmaps, h.reads, by simp, ?_⟩
          intro hal' hsome
          obtain rfl := Option.some.inj hsome
          exact ⟨hfds, hmaps'⟩

theorem World.Invariant.repeater_unmap {world : World} (h : world.Invariant)
    (hcareful : Careful world .repeater_unmap) : (repeater_unmap world).Invariant := by
  unfold RepeaterBuffers.repeater_unmap
  cases hhandle : world.handle with
  | none => exact h
  | some hal =>
      have hcan : CanUnmap hal world.maps := hcareful hal hhandle
      have hperm : ((openMaps hal.slots).map fun addr =>
          (addr, bufferSize hal.width hal.height)).Perm world.maps.held := by
        have hheld : world.maps.held = (world.maps.held.map Prod.fst).map fun addr =>
            (addr, bufferSize hal.width hal.height) := by
          calc world.maps.held
              = world.maps.held.map id := (List.map_id _).symm
            _ = world.maps.held.map ((fun addr => (addr, bufferSize hal.width hal.height)) ∘
                  Prod.fst) := List.map_congr_left fun m hmem =>
                    Prod.ext rfl (hcan.recorded m hmem)
            _ = _ := (List.map_map ..).symm
        rw [hheld]
        exact (h.inUse hal hhandle).2.symm.map _
      simp only [h.closeSlots hhandle, foldl_unmapSlot _ _ _ hcan.mapped,
        Ledger.releaseAll_of_perm hperm]
      refine ⟨h.closes, h.unmaps, h.reads, by simp, ?_⟩
      intro hal' hsome
      obtain rfl := Option.some.inj hsome
      simp only [openFds_of_closed closed_fd, openMaps_of_closed closed_fd, List.map_nil]
      exact ⟨.refl _, .refl _⟩

theorem World.Invariant.repeater_dump {world : World} (h : world.Invariant) (answer : DumpAnswer)
    (hcareful : Careful world (.repeater_dump answer)) :
    (repeater_dump world answer).2.Invariant := by
  unfold RepeaterBuffers.repeater_dump
  cases hhandle : world.handle with
  | none => exact h
  | some hal =>
      have hcan : CanDump hal world.maps answer := hcareful hal hhandle
      have hlive : (dumpReads hal answer).filter (fun r => !decide (r.Live world.maps)) = [] := by
        rw [List.filter_eq_nil_iff]
        intro r hmem
        simpa using hcan r hmem
      refine ⟨h.closes, h.unmaps, ?_, ?_, ?_⟩
      · simp only [hlive, List.nil_append]
        exact h.reads
      · intro hnone
        exact absurd hnone (by simp)
      · intro hal' hsome
        obtain rfl := Option.some.inj hsome
        exact h.inUse hal hhandle

theorem World.Invariant.step {world : World} (h : world.Invariant) (call : Call)
    (hcareful : Careful world call) : (step world call).Invariant := by
  cases call with
  | repeater_open repeater_fd unset => exact h.repeater_open repeater_fd unset
  | repeater_map width height answer => exact h.repeater_map width height answer hcareful
  | repeater_unmap => exact h.repeater_unmap hcareful
  | repeater_dump answer => exact h.repeater_dump answer hcareful
  | repeater_close => exact h.repeater_close hcareful

instance (world : World) : Decidable world.IsSound :=
  decidable_of_iff (world.fds.IsClean ∧ world.maps.IsClean ∧ world.deadReads = [] ∧
      (world.handle = none → world.fds.held = []) ∧ (world.handle = none → world.maps.held = []))
    ⟨fun ⟨closes, unmaps, reads, closed, unmapped⟩ => ⟨closes, unmaps, reads, closed, unmapped⟩,
      fun h => ⟨h.closes, h.unmaps, h.reads, h.closed, h.unmapped⟩⟩

/-- A map of a picture of 16 by 16, with the given buffers. -/
def mapping (buffers : List (Nat × Option Nat)) : Call := .repeater_map 16 16 ⟨0, buffers, 0, 0⟩

end ExynosHal.RepeaterBuffers
