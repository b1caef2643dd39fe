/-
  ExynosHal/PriorityChange.lean
  =============================
  **Changing the priority of a G2D compositor and of its prescalers.**

  `AcrylicCompositorM2M1SHOT2_G2D::prioritize` of `libacryl/acrylic_g2d.cpp`, over
  `AcrylicRedundantDevice::ioctl_broadcast` of `libacryl/acrylic_device.cpp`.  The new
  priority goes to the three contexts of the device, then to the prescaler of every
  layer that has one, which hands it on to its own prescalers.  A prescaler that fails
  ends the loop; the ones before it and the device are set back.

  The change is all or nothing exactly when the device takes the priority and every
  prescaler follows it, or the device refuses it before one of its contexts has
  changed (`change_meets_iff`).
-/
import Mathlib.Data.List.Basic
import Mathlib.Data.List.Forall2

namespace ExynosHal.PriorityChange

/-! ### The device -/

def MAX_DEVICE_FD : Nat := 3

def M2M1SHOT2_LOW_PRIORITY : Int := 0
def M2M1SHOT2_MEDIUM_PRIORITY : Int := 1
def M2M1SHOT2_DEFAULT_PRIORITY : Int := M2M1SHOT2_MEDIUM_PRIORITY
def M2M1SHOT2_HIGH_PRIORITY : Int := 2
def M2M1SHOT2_HIGHEST_PRIORITY : Int := 3

/-- What a call on the driver comes back with: success, `EBUSY` or another error. -/
inductive Answer
  | accepted
  | busy
  | refused
deriving DecidableEq, Repr

/-- The answers to a setting call and to a restoring one. -/
structure Answers where
  set : Answer
  restore : Answer
deriving DecidableEq, Repr

def Answers.to (driver : Answers) (restoring : Bool) : Answer :=
  if restoring then driver.restore else driver.set

/-- An open context of the driver: its priority, and how the driver answers on it. -/
structure Context where
  priority : Int
  driver : Answers
deriving DecidableEq, Repr

/-- `AcrylicRedundantDevice`.  As long as it is not open the contexts are the ones an
opening will give; `onOpen` is how that opening ends. -/
structure Device where
  opened : Bool
  onOpen : Answers
  contexts : List Context
  contexts_length : contexts.length = MAX_DEVICE_FD

/-- The loop of `ioctl_broadcast` over the descriptors.  A busy driver has taken the
priority. -/
def broadcastLoop (restoring : Bool) (arg : Int) : List Context → Answer × List Context
  | [] => (.accepted, [])
  | context :: rest =>
    match context.driver.to restoring with
    | .accepted =>
      let r := broadcastLoop restoring arg rest
      (r.1, { context with priority := arg } :: r.2)
    | .busy => (.busy, { context with priority := arg } :: rest)
    | .refused => (.refused, context :: rest)

@[simp] theorem broadcastLoop_length (restoring : Bool) (arg : Int) (contexts : List Context) :
    (broadcastLoop restoring arg contexts).2.length = contexts.length := by
  induction contexts with
  | nil => rfl
  | cons context rest ih =>
      unfold broadcastLoop
      split
      · simpa using ih
      · rfl
      · rfl

/-- `ioctl_broadcast`, after `open`. -/
def Device.ioctl_broadcast (dev : Device) (restoring : Bool) (arg : Int) : Answer × Device :=
  match if dev.opened then .accepted else dev.onOpen.to restoring with
  | .accepted =>
    let r := broadcastLoop restoring arg dev.contexts
    (r.1, { dev with
      opened := true
      contexts := r.2
      contexts_length := by rw [broadcastLoop_length, dev.contexts_length] })
  | answer => (answer, dev)

/-! ### The compositor -/

/-- A compositor over prescalers `C`: a layer has one when it has transit data. -/
structure Node (C : Type) where
  mPriority : Int
  mDev : Device
  layers : List (Option C)

/-- **The compositor**, with prescalers nested less than `n` deep. -/
def Compositor : Nat → Type
  | 0 => Empty
  | n + 1 => Node (Compositor n)

/-- `Acrylic::prioritize`. -/
def acrylicPrioritize (priority : Int) : Int :=
  if priority < -1 ∨ 15 < priority then -1 else 0

def convertAcrylPriorityToM2M1SHOT2 (priority : Int) : Int :=
  if 2 < priority then M2M1SHOT2_HIGHEST_PRIORITY
  else if priority < 0 then M2M1SHOT2_DEFAULT_PRIORITY
  else if priority = 0 then M2M1SHOT2_LOW_PRIORITY
  else if priority = 1 then M2M1SHOT2_MEDIUM_PRIORITY
  else M2M1SHOT2_HIGH_PRIORITY

/-- Where the loop over the layers ends: the last result, the number of layers passed
(`i`), and the layers. -/
structure Pass (C : Type) where
  ret : Int
  i : Nat
  layers : List (Option C)

/-- The loop that sets the prescalers; it breaks at a negative result. -/
def setLoop {C : Type} (set : C → Int × C) (ret : Int) : List (Option C) → Pass C
  | [] => ⟨ret, 0, []⟩
  | none :: rest =>
    let r := setLoop set ret rest
    ⟨r.ret, r.i + 1, none :: r.layers⟩
  | some prescaler :: rest =>
    let s := set prescaler
    if s.1 < 0 then ⟨s.1, 0, some s.2 :: rest⟩
    else
      let r := setLoop set s.1 rest
      ⟨r.ret, r.i + 1, some s.2 :: r.layers⟩

/-- `while (i-- > 0)`: the first `i` layers, the last of them first. -/
def restoreLoop {C : Type} (set : C → Int × C) : Nat → List (Option C) → List (Option C)
  | 0, layers => layers
  | _ + 1, [] => []
  | i + 1, layer :: rest =>
    let rest := restoreLoop set i rest
    layer.map (fun prescaler => (set prescaler).2) :: rest

/-- `prioritize` over the prescalers' own.  In a restoring call every call is one. -/
def Node.prioritize {C : Type} (child : Bool → Int → C → Int × C) (restoring : Bool)
    (priority : Int) (c : Node C) : Int × Node C :=
  if priority = c.mPriority then (0, c)
  else if acrylicPrioritize priority < 0 then (-1, c)
  else
    let r := c.mDev.ioctl_broadcast restoring (convertAcrylPriorityToM2M1SHOT2 priority)
    match r.1 with
    | .refused => (-1, { c with mDev := r.2 })
    | .busy => (1, { c with mDev := r.2 })
    | .accepted =>
      let pass := setLoop (child restoring priority) 0 c.layers
      if pass.ret < 0 then
        let layers := restoreLoop (child true c.mPriority) pass.i pass.layers
        let back := r.2.ioctl_broadcast true (convertAcrylPriorityToM2M1SHOT2 c.mPriority)
        match back.1 with
        -- the device set back leads to the exit of the successful change
        | .accepted => (0, ⟨priority, back.2, layers⟩)
        | _ => (pass.ret, ⟨c.mPriority, back.2, layers⟩)
      else (0, ⟨priority, r.2, pass.layers⟩)

/-- **`prioritize`.** -/
def prioritize : (n : Nat) → Bool → Int → Compositor n → Int × Compositor n
  | 0, _, _, c => c.elim
  | n + 1, restoring, priority, c => Node.prioritize (prioritize n) restoring priority c

/-! ### All or nothing -/

/-- The contexts are at the driver's value for the priority. -/
def Device.At (dev : Device) (priority : Int) : Prop :=
  ∀ context ∈ dev.contexts, context.priority = convertAcrylPriorityToM2M1SHOT2 priority

structure Node.At {C : Type} (atChild : C → Prop) (priority : Int) (c : Node C) : Prop where
  recorded : c.mPriority = priority
  device : c.mDev.At priority
  prescalers : ∀ layer ∈ c.layers, ∀ prescaler ∈ layer, atChild prescaler

/-- The compositor, its device and every prescaler are at the priority. -/
def At (priority : Int) : (n : Nat) → Compositor n → Prop
  | 0, c => c.elim
  | n + 1, c => Node.At (At priority n) priority c

structure Node.Kept {C : Type} (keptChild : C → C → Prop) (c c' : Node C) : Prop where
  recorded : c'.mPriority = c.mPriority
  device : c'.mDev.contexts.map (·.priority) = c.mDev.contexts.map (·.priority)
  prescalers : List.Forall₂ (Option.Rel keptChild) c.layers c'.layers

/-- The compositor, its device and every prescaler have the priority they had. -/
def Kept : (n : Nat) → Compositor n → Compositor n → Prop
  | 0, c, _ => c.elim
  | n + 1, c, c' => Node.Kept (Kept n) c c'

/-- **All or nothing**, for a call with another priority than the recorded one. -/
def AllOrNothing (n : Nat) (priority : Int) (c : Compositor n) : Prop :=
  let r := prioritize n false priority c
  0 ≤ r.1 ∧ At priority n r.2 ∨ r.1 < 0 ∧ Kept n c r.2

/-! ### What the change needs -/

def Device.Opens (dev : Device) : Prop := dev.opened = true ∨ dev.onOpen.set = .accepted

/-- The device opens and takes the setting call on each of its contexts. -/
def Device.Accepts (dev : Device) : Prop :=
  dev.Opens ∧ ∀ context ∈ dev.contexts, context.driver.set = .accepted

/-- The setting call is refused on a context, and the contexts before it were at its
priority already. -/
def RefusedEarly (arg : Int) : List Context → Prop
  | [] => False
  | context :: rest =>
    context.driver.set = .refused ∨
      context.driver.set = .accepted ∧ context.priority = arg ∧ RefusedEarly arg rest

/-- The device refuses the priority before one of its contexts has changed. -/
def Device.Refuses (dev : Device) (priority : Int) : Prop :=
  dev.opened = false ∧ dev.onOpen.set = .refused ∨
    dev.Opens ∧ RefusedEarly (convertAcrylPriorityToM2M1SHOT2 priority) dev.contexts

/-- The restoring calls on the device succeed. -/
def Device.Restores (dev : Device) : Prop :=
  dev.onOpen.restore = .accepted ∧ ∀ context ∈ dev.contexts, context.driver.restore = .accepted

/-- A prescaler that has recorded the priority is not asked, so it has to be at it; any
other has a device that accepts and prescalers that follow. -/
def Follows (priority : Int) : (n : Nat) → Compositor n → Prop
  | 0, c => c.elim
  | n + 1, c =>
    let node : Node (Compositor n) := c
    node.mPriority = priority ∧ At priority (n + 1) c ∨
      node.mPriority ≠ priority ∧ node.mDev.Accepts ∧
        ∀ layer ∈ node.layers, ∀ prescaler ∈ layer, Follows priority n prescaler

/-- **The condition**: an invalid priority, a device that refuses in time, or one that
accepts and prescalers that all follow. -/
def Carried (n : Nat) (priority : Int) (c : Node (Compositor n)) : Prop :=
  acrylicPrioritize priority < 0 ∨ c.mDev.Refuses priority ∨
    c.mDev.Accepts ∧ ∀ layer ∈ c.layers, ∀ prescaler ∈ layer, Follows priority n prescaler

/-! ### The broadcast -/

theorem broadcastLoop_accepted_iff (restoring : Bool) (arg : Int) (contexts : List Context) :
    (broadcastLoop restoring arg contexts).1 = .accepted ↔
      ∀ context ∈ contexts, context.driver.to restoring = .accepted := by
  induction contexts with
  | nil => simp [broadcastLoop]
  | cons context rest ih =>
      unfold broadcastLoop
      split
      case h_1 h => simp [h, ih]
      case h_2 h => simp [h]
      case h_3 h => simp [h]

theorem broadcastLoop_accepted_at (restoring : Bool) (arg : Int) (contexts : List Context)
    (h : (broadcastLoop restoring arg contexts).1 = .accepted) :
    ∀ context ∈ (broadcastLoop restoring arg contexts).2, context.priority = arg := by
  induction contexts with
  | nil => simp [broadcastLoop]
  | cons context rest ih =>
      unfold broadcastLoop at h ⊢
      split at h
      case h_1 hc =>
        intro other hother
        simp only at hother
        rcases List.mem_cons.mp hother with rfl | hother
        · rfl
        · exact ih h other hother
      case h_2 => exact absurd h (by simp)
      case h_3 => exact absurd h (by simp)

/-- A broadcast changes priorities, not the driver. -/
theorem broadcastLoop_driver (restoring : Bool) (arg : Int) (contexts : List Context) :
    (broadcastLoop restoring arg contexts).2.map (·.driver) = contexts.map (·.driver) := by
  induction contexts with
  | nil => rfl
  | cons context rest ih =>
      unfold broadcastLoop
      split
      · simpa using ih
      · rfl
      · rfl

/-- The priorities are kept by a refused setting call exactly when it is refused early. -/
theorem broadcastLoop_refused_kept_iff (arg : Int) (contexts : List Context) :
    (broadcastLoop false arg contexts).1 = .refused ∧
        (broadcastLoop false arg contexts).2.map (·.priority) = contexts.map (·.priority) ↔
      RefusedEarly arg contexts := by
  induction contexts with
  | nil => simp [broadcastLoop, RefusedEarly]
  | cons context rest ih =>
      unfold broadcastLoop RefusedEarly
      split
      case h_1 h =>
        have hset : context.driver.set = .accepted := h
        rw [← ih]
        simp only [hset, List.map_cons, List.cons.injEq, reduceCtorEq, true_and, false_or]
        constructor
        · rintro ⟨hrefused, hfirst, hrest⟩
          exact ⟨hfirst.symm, hrefused, hrest⟩
        · rintro ⟨hfirst, hrefused, hrest⟩
          exact ⟨hrefused, hfirst.symm, hrest⟩
      case h_2 h =>
        have hset : context.driver.set = .busy := h
        simp [hset]
      case h_3 h =>
        have hset : context.driver.set = .refused := h
        simp [hset]

/-- A setting call that gets through to the contexts. -/
theorem Device.broadcast_of_opens (dev : Device) (arg : Int) (h : dev.Opens) :
    (dev.ioctl_broadcast false arg).1 = (broadcastLoop false arg dev.contexts).1 ∧
      (dev.ioctl_broadcast false arg).2.contexts = (broadcastLoop false arg dev.contexts).2 := by
  have hanswer : (if dev.opened then Answer.accepted else dev.onOpen.to false) = .accepted := by
    rcases h with h | h
    · simp [h]
    · have hto : dev.onOpen.to false = .accepted := h
      simp [hto]
  unfold Device.ioctl_broadcast
  rw [hanswer]
  exact ⟨rfl, rfl⟩

/-- A device that does not open answers for itself and stays as it is. -/
theorem Device.broadcast_of_not_opens (dev : Device) (arg : Int) (h : ¬ dev.Opens) :
    dev.opened = false ∧ dev.onOpen.set ≠ .accepted ∧
      dev.ioctl_broadcast false arg = (dev.onOpen.set, dev) := by
  unfold Device.Opens at h
  obtain ⟨hopened, hset⟩ := not_or.mp h
  have hclosed : dev.opened = false := by simpa using hopened
  refine ⟨hclosed, hset, ?_⟩
  unfold Device.ioctl_broadcast
  simp only [hclosed, Bool.false_eq_true, if_false]
  cases hc : dev.onOpen.set with
  | accepted => exact absurd hc hset
  | busy => simp [Answers.to, hc]
  | refused => simp [Answers.to, hc]

theorem Device.broadcast_accepted_iff (dev : Device) (arg : Int) :
    (dev.ioctl_broadcast false arg).1 = .accepted ↔ dev.Accepts := by
  by_cases h : dev.Opens
  · rw [(dev.broadcast_of_opens arg h).1, broadcastLoop_accepted_iff]
    simp [Device.Accepts, h, Answers.to]
  · obtain ⟨-, hset, heq⟩ := dev.broadcast_of_not_opens arg h
    simp [heq, Device.Accepts, h, hset]

theorem Device.not_accepts_of_answer (dev : Device) (priority : Int)
    (h : (dev.ioctl_broadcast false (convertAcrylPriorityToM2M1SHOT2 priority)).1 ≠ .accepted) :
    ¬ dev.Accepts := by
  intro haccepts
  exact h ((dev.broadcast_accepted_iff _).mpr haccepts)

theorem Device.broadcast_at (dev : Device) (priority : Int)
    (h : (dev.ioctl_broadcast false (convertAcrylPriorityToM2M1SHOT2 priority)).1 = .accepted) :
    (dev.ioctl_broadcast false (convertAcrylPriorityToM2M1SHOT2 priority)).2.At priority := by
  have hopens := ((dev.broadcast_accepted_iff _).mp h).1
  obtain ⟨hanswer, hcontexts⟩ := dev.broadcast_of_opens
    (convertAcrylPriorityToM2M1SHOT2 priority) hopens
  intro context hmem
  rw [hcontexts] at hmem
  exact broadcastLoop_accepted_at false _ dev.contexts (hanswer.symm.trans h) context hmem

/-- The contexts are kept by a refusal exactly when the device refuses in time. -/
theorem Device.broadcast_refused_kept_iff (dev : Device) (priority : Int) :
    (dev.ioctl_broadcast false (convertAcrylPriorityToM2M1SHOT2 priority)).1 = .refused ∧
        (dev.ioctl_broadcast false (convertAcrylPriorityToM2M1SHOT2 priority)).2.contexts.map
          (·.priority) = dev.contexts.map (·.priority) ↔
      dev.Refuses priority := by
  by_cases h : dev.Opens
  · obtain ⟨hanswer, hcontexts⟩ := dev.broadcast_of_opens
      (convertAcrylPriorityToM2M1SHOT2 priority) h
    rw [hanswer, hcontexts, broadcastLoop_refused_kept_iff]
    constructor
    · intro hearly
      exact Or.inr ⟨h, hearly⟩
    · rintro (⟨hclosed, hset⟩ | ⟨-, hearly⟩)
      · rcases h with h | h
        · simp [h] at hclosed
        · simp [h] at hset
      · exact hearly
  · obtain ⟨hclosed, -, heq⟩ := dev.broadcast_of_not_opens
      (convertAcrylPriorityToM2M1SHOT2 priority) h
    simp [heq, Device.Refuses, h, hclosed]

theorem Device.not_refuses_of_accepts (dev : Device) (priority : Int) (h : dev.Accepts) :
    ¬ dev.Refuses priority := by
  intro hrefuses
  have haccepted := (dev.broadcast_accepted_iff
    (convertAcrylPriorityToM2M1SHOT2 priority)).mpr h
  rw [((dev.broadcast_refused_kept_iff priority).mpr hrefuses).1] at haccepted
  exact absurd haccepted (by simp)

/-- After an accepted setting call the restoring one on the device succeeds. -/
theorem Device.restore_accepted (dev : Device) (arg back : Int) (h : dev.Restores)
    (haccepts : dev.Accepts) :
    ((dev.ioctl_broadcast false arg).2.ioctl_broadcast true back).1 = .accepted := by
  have hcontexts := (dev.broadcast_of_opens arg haccepts.1).2
  have hopen : (dev.ioctl_broadcast false arg).2.onOpen = dev.onOpen := by
    unfold Device.ioctl_broadcast
    split <;> rfl
  have hrestore : ∀ context ∈ (dev.ioctl_broadcast false arg).2.contexts,
      context.driver.to true = .accepted := by
    intro context hmem
    rw [hcontexts] at hmem
    have hdriver := List.mem_map_of_mem (f := fun c : Context => c.driver) hmem
    rw [broadcastLoop_driver] at hdriver
    obtain ⟨before, hbefore, heq⟩ := List.mem_map.mp hdriver
    have heq' : before.driver = context.driver := heq
    have := h.2 before hbefore
    simpa [Answers.to, ← heq'] using this
  have hgo : (if (dev.ioctl_broadcast false arg).2.opened then Answer.accepted
      else (dev.ioctl_broadcast false arg).2.onOpen.to true) = .accepted := by
    rw [hopen]
    split
    · rfl
    · exact h.1
  generalize (dev.ioctl_broadcast false arg).2 = dev' at hrestore hgo
  unfold Device.ioctl_broadcast
  rw [hgo]
  exact (broadcastLoop_accepted_iff true back dev'.contexts).mpr hrestore

/-! ### The loop over the prescalers -/

section Loop

variable {C : Type} (set : C → Int × C)

/-- No prescaler fails: each has been set. -/
theorem setLoop_done (layers : List (Option C)) (ret : Int) (hret : 0 ≤ ret)
    (h : ∀ layer ∈ layers, ∀ prescaler ∈ layer, 0 ≤ (set prescaler).1) :
    0 ≤ (setLoop set ret layers).ret ∧
      (setLoop set ret layers).layers =
        layers.map (Option.map fun prescaler => (set prescaler).2) := by
  induction layers generalizing ret with
  | nil => exact ⟨hret, rfl⟩
  | cons layer rest ih =>
      have hrest : ∀ layer ∈ rest, ∀ prescaler ∈ layer, 0 ≤ (set prescaler).1 := by
        intro other hother
        exact h other (List.mem_cons_of_mem _ hother)
      cases layer with
      | none =>
          obtain ⟨hge, heq⟩ := ih ret hret hrest
          exact ⟨hge, by simp [setLoop, heq]⟩
      | some prescaler =>
          have hset : 0 ≤ (set prescaler).1 := h (some prescaler) (by simp) prescaler rfl
          obtain ⟨hge, heq⟩ := ih (set prescaler).1 hset hrest
          unfold setLoop
          simp only [if_neg (Int.not_lt.mpr hset)]
          exact ⟨hge, by simp [heq]⟩

/-- A prescaler fails: the loop stops at the first one that does, with the rest untouched. -/
theorem setLoop_broken (layers : List (Option C)) (ret : Int)
    (h : ∃ layer ∈ layers, ∃ prescaler ∈ layer, (set prescaler).1 < 0) :
    (setLoop set ret layers).ret < 0 ∧
      ∃ before prescaler rest, (set prescaler).1 < 0 ∧
        some prescaler ∈ layers ∧
        (setLoop set ret layers).i = before.length ∧
        (setLoop set ret layers).layers = before ++ some (set prescaler).2 :: rest := by
  induction layers generalizing ret with
  | nil => simp at h
  | cons layer tail ih =>
      cases layer with
      | none =>
          have htail : ∃ layer ∈ tail, ∃ prescaler ∈ layer, (set prescaler).1 < 0 := by
            obtain ⟨other, hmem, prescaler, hp, hneg⟩ := h
            rcases List.mem_cons.mp hmem with rfl | hmem
            · simp at hp
            · exact ⟨other, hmem, prescaler, hp, hneg⟩
          obtain ⟨hret, before, prescaler, rest, hneg, hmem, hi, hl⟩ := ih ret htail
          refine ⟨hret, none :: before, prescaler, rest, hneg, List.mem_cons_of_mem _ hmem, ?_, ?_⟩
          · simp [setLoop, hi]
          · simp [setLoop, hl]
      | some first =>
          by_cases hfirst : (set first).1 < 0
          · unfold setLoop
            simp only [if_pos hfirst]
            exact ⟨hfirst, [], first, tail, hfirst, by simp, rfl, rfl⟩
          · have htail : ∃ layer ∈ tail, ∃ prescaler ∈ layer, (set prescaler).1 < 0 := by
              obtain ⟨other, hmem, prescaler, hp, hneg⟩ := h
              rcases List.mem_cons.mp hmem with rfl | hmem
              · obtain rfl : first = prescaler := by simpa using hp
                exact absurd hneg hfirst
              · exact ⟨other, hmem, prescaler, hp, hneg⟩
            obtain ⟨hret, before, prescaler, rest, hneg, hmem, hi, hl⟩ :=
              ih (set first).1 htail
            unfold setLoop
            simp only [if_neg hfirst]
            refine ⟨hret, some (set first).2 :: before, prescaler, rest, hneg,
              List.mem_cons_of_mem _ hmem, ?_, ?_⟩
            · simp [hi]
            · simp [hl]

variable {set} in
theorem passes_of_not_broken {layers : List (Option C)}
    (h : ¬ ∃ layer ∈ layers, ∃ prescaler ∈ layer, (set prescaler).1 < 0) :
    ∀ layer ∈ layers, ∀ prescaler ∈ layer, 0 ≤ (set prescaler).1 := by
  intro layer hlayer prescaler hmem
  apply Int.not_lt.mp
  intro hneg
  exact h ⟨layer, hlayer, prescaler, hmem, hneg⟩

/-- The restoring loop reaches the layers before the one that failed only. -/
theorem restoreLoop_append (before rest : List (Option C)) :
    ∃ restored, restoreLoop set before.length (before ++ rest) = restored ++ rest := by
  induction before with
  | nil =>
      refine ⟨[], ?_⟩
      cases rest <;> rfl
  | cons layer tail ih =>
      obtain ⟨restored, heq⟩ := ih
      refine ⟨layer.map (fun prescaler => (set prescaler).2) :: restored, ?_⟩
      simp [restoreLoop, heq]

end Loop

/-! ### One compositor over its prescalers -/

section Node

variable {C : Type} (child : Bool → Int → C → Int × C)

theorem Node.prioritize_same (restoring : Bool) (priority : Int) (c : Node C)
    (hp : priority = c.mPriority) : Node.prioritize child restoring priority c = (0, c) := by
  unfold Node.prioritize
  rw [if_pos hp]

theorem Node.prioritize_invalid (restoring : Bool) (priority : Int) (c : Node C)
    (hp : priority ≠ c.mPriority) (hinvalid : acrylicPrioritize priority < 0) :
    Node.prioritize child restoring priority c = (-1, c) := by
  unfold Node.prioritize
  rw [if_neg hp, if_pos hinvalid]

theorem Node.prioritize_busy (priority : Int) (c : Node C) (hp : priority ≠ c.mPriority)
    (hvalid : ¬ acrylicPrioritize priority < 0)
    (h : (c.mDev.ioctl_broadcast false (convertAcrylPriorityToM2M1SHOT2 priority)).1 = .busy) :
    Node.prioritize child false priority c = (1, { c with
      mDev := (c.mDev.ioctl_broadcast false (convertAcrylPriorityToM2M1SHOT2 priority)).2 }) := by
  unfold Node.prioritize
  simp only [if_neg hp, if_neg hvalid, h]

theorem Node.prioritize_refused (priority : Int) (c : Node C) (hp : priority ≠ c.mPriority)
    (hvalid : ¬ acrylicPrioritize priority < 0)
    (h : (c.mDev.ioctl_broadcast false (convertAcrylPriorityToM2M1SHOT2 priority)).1 =
      .refused) :
    Node.prioritize child false priority c = (-1, { c with
      mDev := (c.mDev.ioctl_broadcast false (convertAcrylPriorityToM2M1SHOT2 priority)).2 }) := by
  unfold Node.prioritize
  simp only [if_neg hp, if_neg hvalid, h]

/-- The device accepts and no prescaler fails. -/
theorem Node.prioritize_done (priority : Int) (c : Node C) (hp : priority ≠ c.mPriority)
    (hvalid : ¬ acrylicPrioritize priority < 0) (haccepts : c.mDev.Accepts)
    (h : ∀ layer ∈ c.layers, ∀ prescaler ∈ layer, 0 ≤ (child false priority prescaler).1) :
    Node.prioritize child false priority c = (0, ⟨priority,
      (c.mDev.ioctl_broadcast false (convertAcrylPriorityToM2M1SHOT2 priority)).2,
      c.layers.map (Option.map fun prescaler => (child false priority prescaler).2)⟩) := by
  have hanswer := (c.mDev.broadcast_accepted_iff
    (convertAcrylPriorityToM2M1SHOT2 priority)).mpr haccepts
  obtain ⟨hret, hlayers⟩ := setLoop_done (child false priority) c.layers 0 (Int.le_refl 0) h
  unfold Node.prioritize
  simp only [if_neg hp, if_neg hvalid, hanswer, if_neg (Int.not_lt.mpr hret), hlayers]

/-- The device accepts and a prescaler fails: that prescaler stays as its failed call left
it.  When the device is set back, the call succeeds all the same. -/
theorem Node.prioritize_broken (priority : Int) (c : Node C) (hp : priority ≠ c.mPriority)
    (hvalid : ¬ acrylicPrioritize priority < 0) (haccepts : c.mDev.Accepts)
    (h : ∃ layer ∈ c.layers, ∃ prescaler ∈ layer, (child false priority prescaler).1 < 0) :
    (c.mDev.Restores → 0 ≤ (Node.prioritize child false priority c).1) ∧
      ∃ prescaler, (child false priority prescaler).1 < 0 ∧ some prescaler ∈ c.layers ∧
        some (child false priority prescaler).2 ∈
          (Node.prioritize child false priority c).2.layers := by
  have hanswer := (c.mDev.broadcast_accepted_iff
    (convertAcrylPriorityToM2M1SHOT2 priority)).mpr haccepts
  obtain ⟨hret, before, prescaler, rest, hneg, hmem, hi, hlayers⟩ :=
    setLoop_broken (child false priority) c.layers 0 h
  obtain ⟨restored, hrestored⟩ := restoreLoop_append (child true c.mPriority) before
    (some (child false priority prescaler).2 :: rest)
  unfold Node.prioritize
  simp only [if_neg hp, if_neg hvalid, hanswer, if_pos hret, hi, hlayers, hrestored]
  constructor
  · intro hrestores
    simp [c.mDev.restore_accepted _ _ hrestores haccepts]
  · refine ⟨prescaler, hneg, hmem, ?_⟩
    split <;> simp

/-- With a device that accepts and can be set back no failure is reported. -/
theorem Node.prioritize_accepted_ret (priority : Int) (c : Node C) (hp : priority ≠ c.mPriority)
    (hvalid : ¬ acrylicPrioritize priority < 0) (haccepts : c.mDev.Accepts)
    (hrestores : c.mDev.Restores) : 0 ≤ (Node.prioritize child false priority c).1 := by
  by_cases hbroken :
      ∃ layer ∈ c.layers, ∃ prescaler ∈ layer, (child false priority prescaler).1 < 0
  · exact (Node.prioritize_broken child priority c hp hvalid haccepts hbroken).1 hrestores
  · simp [Node.prioritize_done child priority c hp hvalid haccepts
      (passes_of_not_broken hbroken)]

variable {atChild followsChild : C → Prop} {priority : Int}

/-- **A compositor's prescalers carry it.**  What the prescalers guarantee: one ends at the
priority exactly when it follows, and one that fails does not end at it. -/
theorem Node.prioritize_at_iff
    (hat : ∀ prescaler, atChild (child false priority prescaler).2 ↔ followsChild prescaler)
    (hfail : ∀ prescaler, (child false priority prescaler).1 < 0 →
      ¬ atChild (child false priority prescaler).2)
    (c : Node C) (hp : priority ≠ c.mPriority) (hvalid : ¬ acrylicPrioritize priority < 0) :
    (Node.prioritize child false priority c).2.At atChild priority ↔
      c.mDev.Accepts ∧ ∀ layer ∈ c.layers, ∀ prescaler ∈ layer, followsChild prescaler := by
  cases hanswer :
      (c.mDev.ioctl_broadcast false (convertAcrylPriorityToM2M1SHOT2 priority)).1 with
  | accepted =>
      have haccepts := (c.mDev.broadcast_accepted_iff _).mp hanswer
      by_cases hbroken :
          ∃ layer ∈ c.layers, ∃ prescaler ∈ layer, (child false priority prescaler).1 < 0
      · obtain ⟨-, prescaler, hneg, hmem, hleft⟩ :=
          Node.prioritize_broken child priority c hp hvalid haccepts hbroken
        have hnot := hfail prescaler hneg
        constructor
        · intro hall
          exact absurd (hall.prescalers _ hleft _ rfl) hnot
        · rintro ⟨-, hfollow⟩
          exact absurd ((hat prescaler).mpr (hfollow _ hmem _ rfl)) hnot
      · rw [Node.prioritize_done child priority c hp hvalid haccepts
          (passes_of_not_broken hbroken)]
        constructor
        · intro hall
          refine ⟨haccepts, ?_⟩
          intro layer hlayer prescaler hmem
          apply (hat prescaler).mp
          apply hall.prescalers (layer.map fun prescaler => (child false priority prescaler).2)
          · exact List.mem_map_of_mem hlayer
          · simpa using ⟨prescaler, hmem, rfl⟩
        · rintro ⟨-, hfollow⟩
          refine ⟨rfl, c.mDev.broadcast_at priority hanswer, ?_⟩
          intro layer' hlayer' prescaler' hmem'
          obtain ⟨layer, hlayer, rfl⟩ := List.mem_map.mp hlayer'
          obtain ⟨prescaler, hmem, rfl⟩ := Option.map_eq_some_iff.mp hmem'
          exact (hat prescaler).mpr (hfollow layer hlayer prescaler hmem)
  | busy =>
      rw [Node.prioritize_busy child priority c hp hvalid hanswer]
      constructor
      · intro hall
        exact absurd hall.recorded.symm hp
      · rintro ⟨haccepts, -⟩
        exact absurd haccepts (c.mDev.not_accepts_of_answer priority (by simp [hanswer]))
  | refused =>
      rw [Node.prioritize_refused child priority c hp hvalid hanswer]
      constructor
      · intro hall
        exact absurd hall.recorded.symm hp
      · rintro ⟨haccepts, -⟩
        exact absurd haccepts (c.mDev.not_accepts_of_answer priority (by simp [hanswer]))

/-- A call that fails leaves the recorded priority alone. -/
theorem Node.prioritize_failed_recorded (c : Node C) (hp : priority ≠ c.mPriority)
    (h : (Node.prioritize child false priority c).1 < 0) :
    (Node.prioritize child false priority c).2.mPriority = c.mPriority := by
  by_cases hvalid : acrylicPrioritize priority < 0
  · rw [Node.prioritize_invalid child false priority c hp hvalid]
  · cases hanswer :
        (c.mDev.ioctl_broadcast false (convertAcrylPriorityToM2M1SHOT2 priority)).1 with
    | accepted =>
        unfold Node.prioritize at h ⊢
        simp only [if_neg hp, if_neg hvalid, hanswer] at h ⊢
        by_cases hret : (setLoop (child false priority) 0 c.layers).ret < 0
        · simp only [if_pos hret] at h ⊢
          revert h
          split
          · intro h
            exact absurd h (by simp)
          · intro _
            rfl
        · simp only [if_neg hret] at h
          exact absurd h (by simp)
    | busy => rw [Node.prioritize_busy child priority c hp hvalid hanswer]
    | refused => rw [Node.prioritize_refused child priority c hp hvalid hanswer]

end Node

/-! ### The whole compositor -/

theorem Kept.refl (n : Nat) (c : Compositor n) : Kept n c c := by
  induction n with
  | zero => exact c.elim
  | succ n ih =>
      refine ⟨rfl, rfl, ?_⟩
      apply List.forall₂_same.mpr
      intro layer _
      cases layer with
      | none => exact Option.Rel.none
      | some prescaler => exact Option.Rel.some (ih prescaler)

/-- A failed call does not end at the priority. -/
theorem prioritize_failed_not_at (n : Nat) (priority : Int) (c : Compositor n)
    (h : (prioritize n false priority c).1 < 0) :
    ¬ At priority n (prioritize n false priority c).2 := by
  cases n with
  | zero => exact c.elim
  | succ n =>
      intro hat
      have hat' : Node.At (At priority n) priority
        (Node.prioritize (prioritize n) false priority c).2 := hat
      by_cases hp : priority = Node.mPriority c
      · have hsame := Node.prioritize_same (prioritize n) false priority c hp
        have h' : (Node.prioritize (prioritize n) false priority c).1 < 0 := h
        rw [hsame] at h'
        exact absurd h' (by simp)
      · have hrecorded := Node.prioritize_failed_recorded (prioritize n) c hp h
        exact hp (hat'.recorded.symm.trans hrecorded)

/-- **A prescaler ends at a valid priority exactly when it follows**, however deep its own
prescalers nest. -/
theorem prioritize_at_iff_follows (n : Nat) (priority : Int)
    (hvalid : ¬ acrylicPrioritize priority < 0) (c : Compositor n) :
    At priority n (prioritize n false priority c).2 ↔ Follows priority n c := by
  induction n with
  | zero => exact c.elim
  | succ n ih =>
      by_cases hp : priority = Node.mPriority c
      · have hsame : prioritize (n + 1) false priority c = (0, c) :=
          Node.prioritize_same (prioritize n) false priority c hp
        rw [hsame]
        unfold Follows
        simp [← hp]
      · have hnode := Node.prioritize_at_iff (prioritize n) ih
          (prioritize_failed_not_at n priority) c hp hvalid
        have hp' : Node.mPriority c ≠ priority := Ne.symm hp
        unfold Follows
        simp only [hp', ne_eq, not_false_eq_true, true_and, false_and, false_or]
        exact hnode

/-- **Exactly when a priority change is all or nothing**, the restoring calls on the device
succeeding. -/
theorem change_meets_iff (n : Nat) (priority : Int) (c : Node (Compositor n))
    (hp : priority ≠ c.mPriority) (hrestores : c.mDev.Restores) :
    AllOrNothing (n + 1) priority c ↔ Carried n priority c := by
  have hdef : prioritize (n + 1) false priority c =
      Node.prioritize (prioritize n) false priority c := rfl
  unfold AllOrNothing
  simp only [hdef]
  by_cases hvalid : acrylicPrioritize priority < 0
  · rw [Node.prioritize_invalid (prioritize n) false priority c hp hvalid]
    constructor
    · intro _
      exact Or.inl hvalid
    · intro _
      exact Or.inr ⟨by simp, Kept.refl (n + 1) c⟩
  · have hat := Node.prioritize_at_iff (prioritize n)
      (prioritize_at_iff_follows n priority hvalid) (prioritize_failed_not_at n priority)
      c hp hvalid
    unfold Carried
    simp only [hvalid, false_or]
    cases hanswer :
        (c.mDev.ioctl_broadcast false (convertAcrylPriorityToM2M1SHOT2 priority)).1 with
    | accepted =>
        have haccepts := (c.mDev.broadcast_accepted_iff _).mp hanswer
        have hret := Node.prioritize_accepted_ret (prioritize n) priority c hp hvalid haccepts
          hrestores
        have hrefuses := c.mDev.not_refuses_of_accepts priority haccepts
        simp only [hrefuses, false_or]
        constructor
        · rintro (⟨-, hall⟩ | ⟨hneg, -⟩)
          · exact hat.mp hall
          · exact absurd hret (Int.not_le.mpr hneg)
        · intro hcarried
          exact Or.inl ⟨hret, hat.mpr hcarried⟩
    | busy =>
        have hnot := c.mDev.not_accepts_of_answer priority (by simp [hanswer])
        have hkept := c.mDev.broadcast_refused_kept_iff priority
        simp only [hnot, false_and, iff_false] at hat
        simp only [hanswer, reduceCtorEq, false_and, false_iff] at hkept
        have hret : (Node.prioritize (prioritize n) false priority c).1 = 1 := by
          rw [Node.prioritize_busy (prioritize n) priority c hp hvalid hanswer]
        simp [At, hat, hret, hkept, hnot]
    | refused =>
        have hnot := c.mDev.not_accepts_of_answer priority (by simp [hanswer])
        have hkept := c.mDev.broadcast_refused_kept_iff priority
        simp only [hanswer, true_and] at hkept
        simp only [hnot, false_and, or_false, ← hkept]
        rw [Node.prioritize_refused (prioritize n) priority c hp hvalid hanswer]
        constructor
        · rintro (⟨hret, -⟩ | ⟨-, hk⟩)
          · exact absurd hret (by simp)
          · exact hk.device
        · intro hdevice
          exact Or.inr ⟨by simp, rfl, hdevice, (Kept.refl (n + 1) c).prescalers⟩

/-! ### The two slips -/

/-- A device that is not open yet, with the given answer to a setting call. -/
def newDevice (set : Answer) : Device where
  opened := false
  onOpen := ⟨.accepted, .accepted⟩
  contexts := List.replicate MAX_DEVICE_FD ⟨M2M1SHOT2_DEFAULT_PRIORITY, ⟨set, .accepted⟩⟩
  contexts_length := List.length_replicate

theorem newDevice_restores (set : Answer) : (newDevice set).Restores := by
  refine ⟨rfl, ?_⟩
  intro context hmem
  rw [List.eq_of_mem_replicate hmem]

/-- A compositor of the default priority whose layer has a prescaler with a device that
refuses. -/
def refusingPrescaler : Node (Compositor 1) :=
  ⟨-1, newDevice .accepted, [none, some (⟨-1, newDevice .refused, []⟩ : Node Empty)]⟩

/-- A compositor of the default priority with a busy device. -/
def busyCompositor : Node (Compositor 0) := ⟨-1, newDevice .busy, []⟩

/-- After the failure of a prescaler and the rollback the new priority is recorded and
success reported; a busy device has the new priority, which is not recorded. -/
theorem rolled_back_recorded :
    ((prioritize 2 false 2 refusingPrescaler).1 = 0 ∧
        ¬ AllOrNothing 2 2 refusingPrescaler) ∧
      ((prioritize 1 false 2 busyCompositor).1 = 1 ∧ ¬ AllOrNothing 1 2 busyCompositor) := by
  refine ⟨⟨rfl, ?_⟩, ⟨rfl, ?_⟩⟩
  · rintro (⟨-, hat⟩ | ⟨hneg, -⟩)
    · have hdevice := Node.At.device hat
      have h := hdevice ⟨M2M1SHOT2_DEFAULT_PRIORITY, ⟨.accepted, .accepted⟩⟩
        (List.mem_cons_self)
      exact absurd h (by decide)
    · exact absurd hneg (by decide)
  · rintro (⟨-, hat⟩ | ⟨hneg, -⟩)
    · have hrecorded : (-1 : Int) = 2 := Node.At.recorded hat
      exact absurd hrecorded (by decide)
    · exact absurd hneg (by decide)

/-- The device accepts, the prescaler follows. -/
theorem change_meets_iff_following :
    let prescaler : Node Empty := ⟨-1, newDevice .accepted, []⟩
    let c : Node (Compositor 1) := ⟨-1, newDevice .accepted, [some prescaler]⟩
    AllOrNothing 2 2 c ↔ Carried 1 2 c :=
  change_meets_iff 1 2 ⟨-1, newDevice .accepted,
    [some (⟨-1, newDevice .accepted, []⟩ : Node Empty)]⟩ (by decide) (newDevice_restores .accepted)

end ExynosHal.PriorityChange
