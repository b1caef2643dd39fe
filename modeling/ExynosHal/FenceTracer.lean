/-
  ExynosHal/FenceTracer.lean
  ==========================
  **The usage counts of fences, and the report of leaks.**

  `ExynosFenceTracer` of `libhwc2.1/utils/ExynosFenceTracer.cpp`.  Every owner that gets,
  duplicates, hands on or closes a fence says so (`setFenceInfo`); at the end of a frame
  `validateFencePerFrame` looks for fences of the display whose count is not zero.

  The state of a run remembers the events and, for every fence, how often the leak it is in
  was reported.  `Traced` is what the counts and the reports are to be.
-/
import Mathlib.Algebra.Ring.Int.Defs
import Mathlib.Algebra.Group.Nat.Defs
import Mathlib.Data.List.AList
import ExynosHal.TransitionSystem

namespace ExynosHal.FenceTracer

open ExynosHal.TransitionSystem

/-! ### Data -/

inductive FenceDir where
  | FROM
  | TO
  | DUP
  | CLOSE
  | undefined
deriving DecidableEq, Repr

/-- `fenceTrace_t`, less the time. -/
structure FenceTrace where
  dir : FenceDir
  type : Nat
  ip : Nat
  curFlag : Int
  usage : Int
  isLast : Bool

/-- `hwc_fence_info_t`; `MAX_FENCE_SEQUENCE` is 3. -/
structure FenceInfo where
  displayId : Nat
  seq : Fin 3 → FenceTrace
  seq_no : Fin 3
  last_dir : FenceDir
  usage : Int
  pendingAllowed : Bool
  leaking : Bool

/-- `info = {}`. -/
def FenceInfo.initial : FenceInfo where
  displayId := 0
  seq _ := ⟨.FROM, 0, 0, 0, 0, false⟩
  seq_no := 0
  last_dir := .FROM
  usage := 0
  pendingAllowed := false
  leaking := false

/-- `mFenceInfo`, by descriptor. -/
abbrev FenceMap : Type := AList fun _ : Int => FenceInfo

/-- What is said about a fence. -/
structure Trace where
  fd : Int
  display : Nat
  type : Nat
  ip : Nat
  direction : FenceDir
  pendingAllowed : Bool

def fence_valid (fence : Int) : Bool := decide (fence ≠ -1)

/-! ### Tracing -/

/-- The ring of the last three traces goes on by one. -/
def writeFenceInfo (info : FenceInfo) (t : Trace) : FenceInfo :=
  let next := info.seq_no + 1
  { info with
    seq_no := next
    seq := fun i =>
      if i = next then
        { info.seq i with dir := t.direction, type := t.type, ip := t.ip, curFlag := 1, isLast := true }
      else if i = info.seq_no then { info.seq i with isLast := false }
      else info.seq i
    pendingAllowed := t.pendingAllowed }

/-- The count after an event, as an `int32_t`. -/
def nextUsage (usage : Int) : FenceDir → Int
  | .FROM => Int.bmod (usage + 1) (2 ^ 32)
  | .DUP => Int.bmod (usage + 1) (2 ^ 32)
  | .TO => Int.bmod (usage - 1) (2 ^ 32)
  | .CLOSE => max (Int.bmod (usage - 1) (2 ^ 32)) 0
  | .undefined => usage

namespace FenceMap

variable (m : FenceMap)

/-- The info of a fence, initialised where there is none. -/
def infoOf (fd : Int) : FenceInfo := (m.lookup fd).getD FenceInfo.initial

def usageOf (fd : Int) : Int := (infoOf m fd).usage

def changeFenceInfoState (t : Trace) : FenceMap :=
  if fence_valid t.fd then
    m.insert t.fd (writeFenceInfo { infoOf m t.fd with displayId := t.display } t)
  else m

def setFenceInfo (t : Trace) : FenceMap :=
  if fence_valid t.fd then
    let info := writeFenceInfo { infoOf m t.fd with displayId := t.display } t
    let usage := nextUsage info.usage t.direction
    m.insert t.fd
      { info with
        usage := usage
        seq := fun i => if i = info.seq_no then { info.seq i with usage := usage } else info.seq i
        pendingAllowed := if usage = 0 then false else info.pendingAllowed
        last_dir := t.direction }
  else m

def resetFenceCurFlag : FenceMap :=
  m.entries.foldl (fun m e =>
    if e.2.usage = 0 then
      m.insert e.1 { e.2 with seq := fun i => { e.2.seq i with curFlag := 0 } }
    else m) m

end FenceMap

/-! ### The check at the end of a frame -/

/-- The count is not zero and was not announced to be so over the frame. -/
def FenceInfo.leaks (info : FenceInfo) : Bool :=
  decide (info.usage ≥ 1 ∨ info.usage ≤ -1) && !info.pendingAllowed

namespace FenceMap

variable (m : FenceMap)

/-- The fences whose leak is printed.  The mark is set in a copy of the info. -/
def dumpNCheckLeak : List Int :=
  (m.entries.filter fun e => e.2.leaks && !e.2.leaking).map fun e => e.1

/-- The answer and the fences that were printed. -/
def validateFencePerFrame (display : Nat) : Bool × List Int :=
  let ret := !m.entries.any fun e => e.2.displayId == display && (e.2.leaks && !e.2.leaking)
  (ret, if ret then [] else dumpNCheckLeak m)

end FenceMap

/-! ### Runs -/

/-- `hwc_dup` and `fence_close` trace with `setFenceInfo`. -/
inductive Event where
  | setFenceInfo (t : Trace)
  | changeFenceInfoState (t : Trace)
  | validateFencePerFrame (display : Nat)
  | resetFenceCurFlag

/-- The tracer, the events so far, the last one first, and for every fence how often it was
    printed since its count was last zero. -/
structure State where
  mFenceInfo : FenceMap
  history : List Event
  reports : Int → Nat

def step (s : State) (e : Event) : State :=
  match e with
  | .setFenceInfo t =>
      let m := FenceMap.setFenceInfo s.mFenceInfo t
      { mFenceInfo := m
        history := e :: s.history
        reports := fun fd => if FenceMap.usageOf m fd = 0 then 0 else s.reports fd }
  | .changeFenceInfoState t =>
      { s with
        mFenceInfo := FenceMap.changeFenceInfoState s.mFenceInfo t
        history := e :: s.history }
  | .validateFencePerFrame display =>
      { s with
        history := e :: s.history
        reports := fun fd =>
          s.reports fd + (FenceMap.validateFencePerFrame s.mFenceInfo display).2.count fd }
  | .resetFenceCurFlag =>
      { s with
        mFenceInfo := FenceMap.resetFenceCurFlag s.mFenceInfo
        history := e :: s.history }

def initialState : State := ⟨∅, [], fun _ => 0⟩

/-! ### What the counts and reports are to be -/

def FenceDir.change : FenceDir → Int
  | .FROM => 1
  | .DUP => 1
  | .TO => -1
  | .CLOSE => -1
  | .undefined => 0

def Event.change (fd : Int) : Event → Int
  | .setFenceInfo t => if t.fd = fd ∧ fence_valid fd then t.direction.change else 0
  | _ => 0

/-- From and dup events minus to and close events. -/
def net (history : List Event) (fd : Int) : Int := (history.map (Event.change fd)).sum

/-- The count is the sum of the events, and a leak is printed once. -/
structure Traced (s : State) : Prop where
  count : ∀ fd, FenceMap.usageOf s.mFenceInfo fd = net s.history fd
  once : ∀ fd, s.reports fd ≤ 1
  /-- After its validation no leak of a display is left out. -/
  printed : ∀ display before, s.history = .validateFencePerFrame display :: before →
    ∀ fd info, s.mFenceInfo.lookup fd = some info → info.displayId = display →
      info.leaks = true → s.reports fd = 1

def Event.closes (fd : Int) : Event → Bool
  | .setFenceInfo t => decide (t.fd = fd ∧ fence_valid fd ∧ t.direction = .CLOSE)
  | _ => false

/-- The same sum, where a close event that finds no positive count starts it anew at zero.
    Every sum is an `int32_t`. -/
def counted : List Event → Int → Int
  | [], _ => 0
  | e :: before, fd =>
      let sum := Int.bmod (counted before fd + e.change fd) (2 ^ 32)
      if e.closes fd ∧ sum < 0 then 0 else sum

/-- What the tracer does about every sequence of events: the count is that sum, and after
    its validation no leak of a display is left out. -/
structure Counted (s : State) : Prop where
  count : ∀ fd, FenceMap.usageOf s.mFenceInfo fd = counted s.history fd
  printed : ∀ display before, s.history = .validateFencePerFrame display :: before →
    ∀ fd info, s.mFenceInfo.lookup fd = some info → info.displayId = display →
      info.leaks = true → 1 ≤ s.reports fd

/-- A fence is closed only while its count is positive, and the counts stay `int32_t`s; when
    a display with a leak is validated, no leak printed before is left. -/
def Regular (s : State) : Event → Prop
  | .setFenceInfo t =>
      (t.direction = .CLOSE → 0 < FenceMap.usageOf s.mFenceInfo t.fd) ∧
        FenceMap.usageOf s.mFenceInfo t.fd + t.direction.change < 2 ^ 31 ∧
        -2 ^ 31 ≤ FenceMap.usageOf s.mFenceInfo t.fd + t.direction.change
  | .validateFencePerFrame display =>
      (∃ fd info, s.mFenceInfo.lookup fd = some info ∧ info.displayId = display ∧ info.leaks = true) →
        ∀ fd info, s.mFenceInfo.lookup fd = some info → info.leaks = true → s.reports fd = 0
  | _ => True

/-! ### Counts -/

section Counts

variable {m : FenceMap} {t : Trace} {fd : Int}

theorem infoOf_insert {info : FenceInfo} {fd' : Int} :
    FenceMap.infoOf (m.insert fd' info) fd = if fd = fd' then info else FenceMap.infoOf m fd := by
  unfold FenceMap.infoOf
  split
  · rename_i h
    rw [h, AList.lookup_insert]
    rfl
  · rename_i h
    rw [AList.lookup_insert_ne h]

theorem infoOf_of_lookup {info : FenceInfo} (h : m.lookup fd = some info) :
    FenceMap.infoOf m fd = info := by
  unfold FenceMap.infoOf
  rw [h]
  rfl

theorem usageOf_setFenceInfo :
    FenceMap.usageOf (FenceMap.setFenceInfo m t) fd =
      if t.fd = fd ∧ fence_valid fd then nextUsage (FenceMap.usageOf m fd) t.direction
      else FenceMap.usageOf m fd := by
  unfold FenceMap.setFenceInfo FenceMap.usageOf
  by_cases hfd : t.fd = fd
  · subst hfd
    by_cases hvalid : fence_valid t.fd = true
    · rw [if_pos hvalid, if_pos ⟨rfl, hvalid⟩, infoOf_insert, if_pos rfl]
      rfl
    · have hboth : ¬ (t.fd = t.fd ∧ fence_valid t.fd = true) := fun h => hvalid h.2
      rw [if_neg hvalid, if_neg hboth]
  · have hboth : ¬ (t.fd = fd ∧ fence_valid fd = true) := fun h => hfd h.1
    rw [if_neg hboth]
    split
    · rw [infoOf_insert, if_neg fun h => hfd h.symm]
    · rfl

theorem usageOf_changeFenceInfoState :
    FenceMap.usageOf (FenceMap.changeFenceInfoState m t) fd = FenceMap.usageOf m fd := by
  unfold FenceMap.changeFenceInfoState FenceMap.usageOf
  split
  · rw [infoOf_insert]
    split
    · rename_i h
      rw [h]
      rfl
    · rfl
  · rfl

/-- Of every fence, resetting the flags changes flags only. -/
theorem resetFenceCurFlag_keeps {β : Type} (f : FenceInfo → β)
    (hf : ∀ info seq, f { info with seq := seq } = f info) :
    f (FenceMap.infoOf (FenceMap.resetFenceCurFlag m) fd) = f (FenceMap.infoOf m fd) := by
  unfold FenceMap.resetFenceCurFlag
  refine List.foldlRecOn (motive := fun acc => f (FenceMap.infoOf acc fd) = f (FenceMap.infoOf m fd))
    m.entries _ rfl ?_
  intro acc hacc e he
  split
  · rw [infoOf_insert]
    split
    · rename_i h
      have hlookup : m.lookup fd = some e.2 := by
        rw [h]
        exact AList.mem_lookup_iff.mpr he
      rw [infoOf_of_lookup hlookup]
      exact hf _ _
    · exact hacc
  · exact hacc

/-- In the range of the counts, an event counts as it is. -/
theorem nextUsage_eq {usage : Int} {d : FenceDir} (hclose : d = .CLOSE → 0 < usage)
    (hlt : usage + d.change < 2 ^ 31) (hge : -2 ^ 31 ≤ usage + d.change) :
    nextUsage usage d = usage + d.change := by
  have hmod : Int.bmod (usage + d.change) (2 ^ 32) = usage + d.change :=
    Int.bmod_eq_of_le (by omega) (by omega)
  cases d with
  | FROM => exact hmod
  | DUP => exact hmod
  | TO => exact hmod
  | CLOSE =>
      have hpos := hclose rfl
      have hmod' : Int.bmod (usage - 1) (2 ^ 32) = usage - 1 := hmod
      show max (Int.bmod (usage - 1) (2 ^ 32)) 0 = usage - 1
      rw [hmod']
      omega
  | undefined => exact (Int.add_zero usage).symm

end Counts

/-! ### Reports -/

section Reports

variable {m : FenceMap} {display : Nat} {fd : Int}

/-- No mark of a printed leak is left. -/
def Unmarked (m : FenceMap) : Prop := ∀ fd, (FenceMap.infoOf m fd).leaking = false

theorem unmarked_insert {info : FenceInfo} {fd' : Int} (hm : Unmarked m)
    (h : info.leaking = false) : Unmarked (m.insert fd' info) := by
  intro fd
  rw [infoOf_insert]
  split
  · exact h
  · exact hm fd

theorem unmarked_setFenceInfo {t : Trace} (hm : Unmarked m) :
    Unmarked (FenceMap.setFenceInfo m t) := by
  unfold FenceMap.setFenceInfo
  split
  · exact unmarked_insert hm (hm t.fd)
  · exact hm

theorem unmarked_changeFenceInfoState {t : Trace} (hm : Unmarked m) :
    Unmarked (FenceMap.changeFenceInfoState m t) := by
  unfold FenceMap.changeFenceInfoState
  split
  · exact unmarked_insert hm (hm t.fd)
  · exact hm

theorem dumpNCheckLeak_nodup : (FenceMap.dumpNCheckLeak m).Nodup := by
  have hsub := (List.filter_sublist (l := m.entries) (p := fun e => e.2.leaks && !e.2.leaking)).map
    fun e => e.1
  exact hsub.nodup m.keys_nodup

/-- Exactly the leaks are printed. -/
theorem mem_dumpNCheckLeak (hm : Unmarked m) :
    fd ∈ FenceMap.dumpNCheckLeak m ↔ ∃ info, m.lookup fd = some info ∧ info.leaks = true := by
  unfold FenceMap.dumpNCheckLeak
  rw [List.mem_map]
  constructor
  · rintro ⟨⟨fd', info⟩, he, rfl⟩
    obtain ⟨hmem, hleak⟩ := List.mem_filter.mp he
    rw [Bool.and_eq_true] at hleak
    exact ⟨info, AList.mem_lookup_iff.mpr hmem, hleak.1⟩
  · rintro ⟨info, hlookup, hleak⟩
    refine ⟨⟨fd, info⟩, ?_, rfl⟩
    have hmark := hm fd
    rw [infoOf_of_lookup hlookup] at hmark
    rw [List.mem_filter]
    refine ⟨AList.mem_lookup_iff.mp hlookup, ?_⟩
    simp only [hleak, hmark, Bool.not_false, Bool.and_self]

/-- A display without a leak prints nothing. -/
theorem validateFencePerFrame_eq (hm : Unmarked m) (display : Nat) :
    (FenceMap.validateFencePerFrame m display).2 =
        FenceMap.dumpNCheckLeak m ∧
      (∃ fd info, m.lookup fd = some info ∧ info.displayId = display ∧ info.leaks = true) ∨
    (FenceMap.validateFencePerFrame m display).2 = [] ∧
      ∀ fd info, m.lookup fd = some info → info.displayId = display → info.leaks = false := by
  unfold FenceMap.validateFencePerFrame
  cases hany : m.entries.any fun e => e.2.displayId == display && (e.2.leaks && !e.2.leaking) with
  | true =>
      left
      obtain ⟨⟨fd, info⟩, hmem, he⟩ := List.any_eq_true.mp hany
      simp only [Bool.and_eq_true, beq_iff_eq] at he
      exact ⟨rfl, fd, info, AList.mem_lookup_iff.mpr hmem, he.1, he.2.1⟩
  | false =>
      right
      refine ⟨rfl, ?_⟩
      intro fd info hlookup hdisplay
      have he := List.any_eq_false.mp hany ⟨fd, info⟩ (AList.mem_lookup_iff.mp hlookup)
      have hmark := hm fd
      rw [infoOf_of_lookup hlookup] at hmark
      simp only [hdisplay, hmark, beq_self_eq_true, Bool.true_and, Bool.not_false, Bool.and_true,
        Bool.not_eq_true] at he
      exact he

/-- A leak has a count that is not zero. -/
theorem usage_ne_zero_of_leaks {info : FenceInfo} (h : info.leaks = true) : info.usage ≠ 0 := by
  unfold FenceInfo.leaks at h
  simp only [Bool.and_eq_true, decide_eq_true_eq] at h
  omega

end Reports

/-! ### Every run -/

structure Inv (s : State) : Prop where
  count : ∀ fd, FenceMap.usageOf s.mFenceInfo fd = net s.history fd
  unmarked : Unmarked s.mFenceInfo
  once : ∀ fd, s.reports fd ≤ 1
  balanced : ∀ fd, FenceMap.usageOf s.mFenceInfo fd = 0 → s.reports fd = 0
  printed : ∀ display before, s.history = .validateFencePerFrame display :: before →
    ∀ fd info, s.mFenceInfo.lookup fd = some info → info.displayId = display →
      info.leaks = true → s.reports fd = 1

theorem net_cons {e : Event} {history : List Event} {fd : Int} :
    net (e :: history) fd = e.change fd + net history fd := by
  unfold net
  rw [List.map_cons, List.sum_cons]

theorem inv_initialState : Inv initialState where
  count _ := rfl
  unmarked _ := rfl
  once _ := Nat.zero_le 1
  balanced _ _ := rfl
  printed display before h := by cases h

section Steps

variable {s : State}

theorem step_setFenceInfo {t : Trace} (h : Inv s) (hreg : Regular s (.setFenceInfo t)) :
    Inv (step s (.setFenceInfo t)) := by
  obtain ⟨hclose, hlt, hge⟩ := hreg
  constructor
  · intro fd
    show FenceMap.usageOf (FenceMap.setFenceInfo s.mFenceInfo t) fd =
      net (.setFenceInfo t :: s.history) fd
    rw [usageOf_setFenceInfo, net_cons, ← h.count fd]
    unfold Event.change
    dsimp only
    by_cases hfd : t.fd = fd ∧ fence_valid fd = true
    · rw [if_pos hfd, if_pos hfd]
      rw [hfd.1] at hclose hlt hge
      rw [nextUsage_eq hclose hlt hge, Int.add_comm]
    · rw [if_neg hfd, if_neg hfd, Int.zero_add]
  · exact unmarked_setFenceInfo h.unmarked
  · intro fd
    show (if _ = 0 then 0 else s.reports fd) ≤ 1
    split
    · exact Nat.zero_le 1
    · exact h.once fd
  · intro fd hzero
    exact if_pos hzero
  · intro display before hhistory
    cases hhistory

theorem step_changeFenceInfoState {t : Trace} (h : Inv s) :
    Inv (step s (.changeFenceInfoState t)) := by
  constructor
  · intro fd
    show FenceMap.usageOf (FenceMap.changeFenceInfoState s.mFenceInfo t) fd =
      net (.changeFenceInfoState t :: s.history) fd
    rw [usageOf_changeFenceInfoState, net_cons, h.count fd]
    exact (Int.zero_add _).symm
  · exact unmarked_changeFenceInfoState h.unmarked
  · exact h.once
  · intro fd hzero
    apply h.balanced fd
    rw [← usageOf_changeFenceInfoState]
    exact hzero
  · intro display before hhistory
    cases hhistory

theorem step_resetFenceCurFlag (h : Inv s) : Inv (step s .resetFenceCurFlag) := by
  have husage : ∀ fd, FenceMap.usageOf (FenceMap.resetFenceCurFlag s.mFenceInfo) fd =
      FenceMap.usageOf s.mFenceInfo fd := by
    intro fd
    exact resetFenceCurFlag_keeps FenceInfo.usage fun _ _ => rfl
  constructor
  · intro fd
    show FenceMap.usageOf (FenceMap.resetFenceCurFlag s.mFenceInfo) fd =
      net (.resetFenceCurFlag :: s.history) fd
    rw [husage, net_cons, h.count fd]
    exact (Int.zero_add _).symm
  · intro fd
    exact (resetFenceCurFlag_keeps FenceInfo.leaking fun _ _ => rfl).trans (h.unmarked fd)
  · exact h.once
  · intro fd hzero
    apply h.balanced fd
    rw [← husage]
    exact hzero
  · intro display before hhistory
    cases hhistory

theorem step_validateFencePerFrame {display : Nat} (h : Inv s)
    (hreg : Regular s (.validateFencePerFrame display)) :
    Inv (step s (.validateFencePerFrame display)) := by
  have hcount : ∀ fd, FenceMap.usageOf s.mFenceInfo fd =
      net (.validateFencePerFrame display :: s.history) fd := by
    intro fd
    rw [net_cons, h.count fd]
    exact (Int.zero_add _).symm
  rcases validateFencePerFrame_eq h.unmarked display with ⟨hlist, hleak⟩ | ⟨hlist, hnone⟩
  · -- A leak of the display: every leak is printed, and none was printed before.
    have hzero := hreg hleak
    have hreports : ∀ fd, (step s (.validateFencePerFrame display)).reports fd =
        s.reports fd + (FenceMap.dumpNCheckLeak s.mFenceInfo).count fd := by
      intro fd
      rw [← hlist]
      rfl
    have hprinted : ∀ fd info, s.mFenceInfo.lookup fd = some info → info.leaks = true →
        (step s (.validateFencePerFrame display)).reports fd = 1 := by
      intro fd info hlookup hinfo
      have hmem := (mem_dumpNCheckLeak h.unmarked).mpr ⟨info, hlookup, hinfo⟩
      rw [hreports, hzero fd info hlookup hinfo, List.count_eq_one_of_mem dumpNCheckLeak_nodup hmem]
    have hother : ∀ fd, fd ∉ FenceMap.dumpNCheckLeak s.mFenceInfo →
        (step s (.validateFencePerFrame display)).reports fd = s.reports fd := by
      intro fd hmem
      rw [hreports, List.count_eq_zero_of_not_mem hmem, Nat.add_zero]
    constructor
    · exact hcount
    · exact h.unmarked
    · intro fd
      by_cases hmem : fd ∈ FenceMap.dumpNCheckLeak s.mFenceInfo
      · obtain ⟨info, hlookup, hinfo⟩ := (mem_dumpNCheckLeak h.unmarked).mp hmem
        rw [hprinted fd info hlookup hinfo]
      · rw [hother fd hmem]
        exact h.once fd
    · intro fd husage
      have hmem : fd ∉ FenceMap.dumpNCheckLeak s.mFenceInfo := by
        intro hmem
        obtain ⟨info, hlookup, hinfo⟩ := (mem_dumpNCheckLeak h.unmarked).mp hmem
        apply usage_ne_zero_of_leaks hinfo
        rw [← infoOf_of_lookup hlookup]
        exact husage
      rw [hother fd hmem]
      exact h.balanced fd husage
    · intro _ _ _ fd info hlookup _ hinfo
      exact hprinted fd info hlookup hinfo
  · have hreports : ∀ fd, (step s (.validateFencePerFrame display)).reports fd = s.reports fd := by
      intro fd
      show s.reports fd + (FenceMap.validateFencePerFrame s.mFenceInfo display).2.count fd = _
      rw [hlist, List.count_nil, Nat.add_zero]
    constructor
    · exact hcount
    · exact h.unmarked
    · intro fd
      rw [hreports]
      exact h.once fd
    · intro fd husage
      rw [hreports]
      exact h.balanced fd husage
    · intro display' before hhistory fd info hlookup hdisplay hinfo
      injection hhistory with hevent
      injection hevent with hdisplay'
      have hfalse := hnone fd info hlookup (hdisplay.trans hdisplay'.symm)
      exact absurd (hinfo.symm.trans hfalse) (by decide)

/-- **One event.** -/
theorem step_inv {e : Event} (h : Inv s) (hreg : Regular s e) : Inv (step s e) := by
  cases e with
  | setFenceInfo t => exact step_setFenceInfo h hreg
  | changeFenceInfoState t => exact step_changeFenceInfoState h
  | validateFencePerFrame display => exact step_validateFencePerFrame h hreg
  | resetFenceCurFlag => exact step_resetFenceCurFlag h

end Steps

/-- **Tracing is right.**  As long as fences are closed with a positive count and no printed
    leak is left when a leak is found, the counts are the sums of the events and every leak
    is printed once. -/
theorem traced_of_reachable {s : State}
    (h : Reachable (· = initialState) (guarded Regular (ofFun step)) s) : Traced s := by
  have hinv : Inv s := by
    refine h.invariant (I := Inv) ?_ ?_
    · rintro s rfl
      exact inv_initialState
    · rintro s e s' hs ⟨hreg, rfl⟩
      exact step_inv hs hreg
  exact ⟨hinv.count, hinv.once, hinv.printed⟩

/-! ### Runs without a condition -/

/-- What every sequence of events keeps. -/
structure CountInv (s : State) : Prop where
  count : ∀ fd, FenceMap.usageOf s.mFenceInfo fd = counted s.history fd
  unmarked : Unmarked s.mFenceInfo
  printed : ∀ display before, s.history = .validateFencePerFrame display :: before →
    ∀ fd info, s.mFenceInfo.lookup fd = some info → info.displayId = display →
      info.leaks = true → 1 ≤ s.reports fd

theorem bmod_counted (history : List Event) (fd : Int) :
    Int.bmod (counted history fd) (2 ^ 32) = counted history fd := by
  cases history with
  | nil => rfl
  | cons e before =>
      unfold counted
      dsimp only
      split
      · rfl
      · exact Int.bmod_bmod

/-- An event that does not trace a fence leaves its count. -/
theorem counted_skip {e : Event} {history : List Event} {fd : Int} (hchange : e.change fd = 0)
    (hcloses : e.closes fd = false) : counted (e :: history) fd = counted history fd := by
  conv_lhs => unfold counted
  rw [hchange, Int.add_zero, bmod_counted]
  simp [hcloses]

theorem counted_setFenceInfo {t : Trace} {history : List Event} {fd : Int}
    (hfd : t.fd = fd ∧ fence_valid fd = true) :
    counted (.setFenceInfo t :: history) fd = nextUsage (counted history fd) t.direction := by
  conv_lhs => unfold counted
  have hchange : Event.change fd (.setFenceInfo t) = t.direction.change := if_pos hfd
  have hcloses : Event.closes fd (.setFenceInfo t) = decide (t.direction = .CLOSE) := by
    show decide (t.fd = fd ∧ fence_valid fd = true ∧ t.direction = .CLOSE) = _
    rw [hfd.1, hfd.2]
    simp
  rw [hchange, hcloses]
  cases t.direction with
  | FROM => rfl
  | DUP => rfl
  | TO => rfl
  | CLOSE =>
      simp only [nextUsage, FenceDir.change, decide_true, true_and, Int.sub_eq_add_neg]
      split <;> omega
  | undefined =>
      rw [if_neg (by simp)]
      show Int.bmod (counted history fd + 0) (2 ^ 32) = counted history fd
      rw [Int.add_zero, bmod_counted]

section Unconditional

variable {s : State}

theorem countInv_setFenceInfo (h : CountInv s) (t : Trace) : CountInv (step s (.setFenceInfo t)) := by
  constructor
  · intro fd
    show FenceMap.usageOf (FenceMap.setFenceInfo s.mFenceInfo t) fd =
      counted (.setFenceInfo t :: s.history) fd
    rw [usageOf_setFenceInfo, h.count fd]
    by_cases hfd : t.fd = fd ∧ fence_valid fd = true
    · rw [if_pos hfd, counted_setFenceInfo hfd]
    · have hchange : Event.change fd (.setFenceInfo t) = 0 := if_neg hfd
      have hcloses : Event.closes fd (.setFenceInfo t) = false := by
        apply decide_eq_false
        intro hclose
        exact hfd ⟨hclose.1, hclose.2.1⟩
      rw [if_neg hfd, counted_skip hchange hcloses]
  · exact unmarked_setFenceInfo h.unmarked
  · intro display before hhistory
    cases hhistory

theorem countInv_changeFenceInfoState (h : CountInv s) (t : Trace) :
    CountInv (step s (.changeFenceInfoState t)) := by
  constructor
  · intro fd
    show FenceMap.usageOf (FenceMap.changeFenceInfoState s.mFenceInfo t) fd =
      counted (.changeFenceInfoState t :: s.history) fd
    rw [usageOf_changeFenceInfoState, counted_skip rfl rfl]
    exact h.count fd
  · exact unmarked_changeFenceInfoState h.unmarked
  · intro display before hhistory
    cases hhistory

theorem countInv_resetFenceCurFlag (h : CountInv s) : CountInv (step s .resetFenceCurFlag) := by
  constructor
  · intro fd
    show FenceMap.usageOf (FenceMap.resetFenceCurFlag s.mFenceInfo) fd =
      counted (.resetFenceCurFlag :: s.history) fd
    rw [counted_skip rfl rfl, ← h.count fd]
    exact resetFenceCurFlag_keeps FenceInfo.usage fun _ _ => rfl
  · intro fd
    exact (resetFenceCurFlag_keeps FenceInfo.leaking fun _ _ => rfl).trans (h.unmarked fd)
  · intro display before hhistory
    cases hhistory

theorem countInv_validateFencePerFrame (h : CountInv s) (display : Nat) :
    CountInv (step s (.validateFencePerFrame display)) := by
  constructor
  · intro fd
    show FenceMap.usageOf s.mFenceInfo fd = counted (.validateFencePerFrame display :: s.history) fd
    rw [counted_skip rfl rfl]
    exact h.count fd
  · exact h.unmarked
  · intro display' before hhistory fd info hlookup hdisplay hinfo
    injection hhistory with hevent
    injection hevent with hdisplay'
    show 1 ≤ s.reports fd + (FenceMap.validateFencePerFrame s.mFenceInfo display).2.count fd
    rcases validateFencePerFrame_eq h.unmarked display with ⟨hlist, -⟩ | ⟨-, hnone⟩
    · have hmem := (mem_dumpNCheckLeak h.unmarked).mpr ⟨info, hlookup, hinfo⟩
      have hcount := List.count_pos_iff.mpr hmem
      rw [hlist]
      omega
    · have hfalse := hnone fd info hlookup (hdisplay.trans hdisplay'.symm)
      exact absurd (hinfo.symm.trans hfalse) (by decide)

/-- **Every sequence of events.**  A count is the sum of the events since the fence was
    initialised or a close event found no positive count, and a validation leaves no leak of
    its display out. -/
theorem counted_of_reachable (h : Reachable (· = initialState) (ofFun step) s) : Counted s := by
  have hinv : CountInv s := by
    refine h.invariant (I := CountInv) ?_ ?_
    · rintro s rfl
      exact ⟨fun _ => rfl, fun _ => rfl, fun _ _ hhistory => nomatch hhistory⟩
    · rintro s e s' hs rfl
      cases e with
      | setFenceInfo t => exact countInv_setFenceInfo hs t
      | changeFenceInfoState t => exact countInv_changeFenceInfoState hs t
      | validateFencePerFrame display => exact countInv_validateFencePerFrame hs display
      | resetFenceCurFlag => exact countInv_resetFenceCurFlag hs
  exact ⟨hinv.count, hinv.printed⟩

end Unconditional

/-! ### One fence -/

def traceOf (direction : FenceDir) : Trace := ⟨7, 0, 2, 4, direction, false⟩

/-- A fence that is traced from a layer and still open when its frame ends. -/
def openFrame : State :=
  step (step initialState (.setFenceInfo (traceOf .FROM))) (.validateFencePerFrame 0)

theorem counted_of_reachable_openFrame :
    counted openFrame.history 7 = 1 ∧ Counted openFrame :=
  ⟨by decide +kernel, counted_of_reachable (.next (a := .validateFencePerFrame 0)
    (.next (a := .setFenceInfo (traceOf .FROM)) (.start rfl) rfl) rfl)⟩

/-- The next frame prints the leak again; and a fence that is closed twice counts as
    balanced. -/
theorem printed_twice_and_closed_twice :
    let again := step openFrame (.validateFencePerFrame 0)
    let closed := step (step (step initialState (.setFenceInfo (traceOf .FROM)))
      (.setFenceInfo (traceOf .CLOSE))) (.setFenceInfo (traceOf .CLOSE))
    Reachable (· = initialState) (ofFun step) again ∧ again.reports 7 = 2 ∧ ¬ Traced again ∧
      Reachable (· = initialState) (ofFun step) closed ∧
        FenceMap.usageOf closed.mFenceInfo 7 = 0 ∧ net closed.history 7 = -1 ∧ ¬ Traced closed := by
  intro again closed
  have hagain : again.reports 7 = 2 := by decide +kernel
  have husage : FenceMap.usageOf closed.mFenceInfo 7 = 0 := by decide +kernel
  have hnet : net closed.history 7 = -1 := by decide +kernel
  refine ⟨.next (.next (.next (.start rfl) rfl) rfl) rfl, hagain, ?_,
    .next (.next (.next (.start rfl) rfl) rfl) rfl, husage, hnet, ?_⟩
  · intro htraced
    have honce := htraced.once 7
    omega
  · intro htraced
    have hcount := htraced.count 7
    omega

end ExynosHal.FenceTracer
