/-
  ExynosHal/AssignmentRun.lean
  ============================
  **Rules for whole assignments.**

  An assignment is a chain of calls that goes on as long as they return
  `NO_ERROR`, with passes over the layers that start again when something
  changed.  A result about it has two halves: an invariant that every call keeps,
  whatever it returns, and an assertion that holds if the chain went on.  `Ends`
  pairs the two; `PassRule` says what has to be shown of the calls of a pass,
  and `assignPasses_ends` what then holds after the last one.
-/
import ExynosHal.ResourceManager
import ExynosHal.TransitionSystem

namespace ExynosHal.AssignmentRun

open ExynosHal.Assignment ExynosHal.CompositionRange ExynosHal.ResourceManager
open ExynosHal.TransitionSystem

/-! ### Calls that may end the chain -/

/-- `I` holds after the call, and `P` if it returned `NO_ERROR`. -/
structure Ends (I P : State → Prop) (r : State × Status) : Prop where
  keeps : I r.1
  ok : r.2 = .noError → P r.1

section Ends

variable {I P Q : State → Prop} {r : State × Status}

theorem Ends.pure {s : State} {st : Status} (hI : I s) (hP : P s) : Ends I P (s, st) :=
  ⟨hI, fun _ => hP⟩

theorem Ends.stop {s : State} {st : Status} (hI : I s) (hst : st ≠ .noError) : Ends I P (s, st) :=
  ⟨hI, fun h => absurd h hst⟩

theorem Ends.mono (h : Ends I P r) (hPQ : I r.1 → P r.1 → Q r.1) : Ends I Q r :=
  ⟨h.keeps, fun hst => hPQ h.keeps (h.ok hst)⟩

/-- What holds if the chain went on, the invariant among it. -/
theorem Ends.only (h : Ends I P r) : Ends (fun _ => True) (fun s => I s ∧ P s) r :=
  ⟨trivial, fun hst => ⟨h.keeps, h.ok hst⟩⟩

theorem Ends.andThen {next : State → State × Status} (h : Ends I P r)
    (hnext : ∀ s, I s → P s → Ends I Q (next s)) : Ends I Q (andThen r next) := by
  unfold ResourceManager.andThen
  by_cases hst : r.2 = .noError
  · rw [if_pos hst]; exact hnext r.1 h.keeps (h.ok hst)
  · rw [if_neg hst]; exact .stop h.keeps hst

/-- The loop goes through the first `n` indices; `P i` holds before round `i`. -/
theorem Ends.loop {P : Nat → State → Prop} {body : State → Nat → State × Status} {a n : Nat}
    (hbody : ∀ s i, a ≤ i → i < a + n → I s → P i s → Ends I (P (i + 1)) (body s i))
    {s : State} (hI : I s) (hP : P a s) :
    Ends I (P (a + n)) ((List.range' a n).foldl (untilStatus body) (s, .noError)) := by
  refine foldl_range' (P := fun i r => Ends I (P i) r) (fun i r ha hn hr => ?_) (.pure hI hP)
  unfold untilStatus
  by_cases hst : r.2 = .noError
  · rw [if_pos hst]; exact hbody r.1 i ha hn hr.keeps (hr.ok hst)
  · rw [if_neg hst]; exact .stop hr.keeps hst

/-- A loop over all layers that keeps an assertion. -/
theorem Ends.loop_all {body : State → Nat → State × Status} {n : Nat}
    (hbody : ∀ s i, i < n → I s → P s → Ends I P (body s i)) {s : State} (hI : I s) (hP : P s) :
    Ends I P ((List.range n).foldl (untilStatus body) (s, .noError)) := by
  rw [List.range_eq_range']
  exact .loop (P := fun _ => P) (fun s i _ hi => hbody s i (by omega)) hI hP

end Ends

/-! ### One layer -/

section Layer

variable (d : Display) (s : State) (i : Nat)

theorem assignLayer_state :
    ∃ hdr, (assignLayer d s i).1 = { s.countCheck with hdrDynamic := hdr } := by
  unfold assignLayer
  dsimp only
  split
  · exact ⟨s.hdrDynamic, rfl⟩
  · unfold failLayer
    split
    · exact ⟨_, rfl⟩
    · exact ⟨s.hdrDynamic, rfl⟩

/-- The state in which `assignLayers` asks for resources. -/
def met : State := s.record (.met i (hasShortage d s i))

/-- What one round of `assignLayers` can do with layer `i`, for which `assignLayer`
    answers `r`. -/
inductive LayerStep (p : OverlayPriority) (r : State × Assigned) : State × Status → Prop where
  | passed : s.validateType i = .client ∨ s.validateType i = .exynos
      ∨ (d.layer i).overlayPriority ≠ p → LayerStep p r (s, .noError)
  | device : s.validateType i ≠ .client → s.validateType i ≠ .exynos →
      r.2.compositionType = .device → LayerStep p r (takeWindow d r.1 i r.2, .noError)
  | exynos : s.validateType i ≠ .client → s.validateType i ≠ .exynos →
      r.2.compositionType = .exynos →
      LayerStep p r
        (addExynosCompositionLayer d ((assignM2mOf d r.1 r.2.m2mMPP i).setType i .exynos) i)
  | reassigned : LayerStep p r (reassign d r.1, .changed)
  | client : s.validateType i ≠ .client → s.validateType i ≠ .exynos →
      LayerStep p r ((addClientCompositionLayer d (r.1.setType i .client) i).1,
        (addClientCompositionLayer d (r.1.setType i .client) i).2.1)

theorem assignOneLayer_cases (p : OverlayPriority) :
    LayerStep d s i p (assignLayer d (met d s i) i) (assignOneLayer d p s i) := by
  unfold assignOneLayer
  by_cases ht : s.validateType i = .client ∨ s.validateType i = .exynos
  · rw [if_pos ht]
    exact .passed (ht.imp id .inl)
  rw [if_neg ht]
  obtain ⟨hc, he⟩ := not_or.mp ht
  by_cases hp : (d.layer i).overlayPriority ≠ p
  · rw [if_pos hp]
    exact .passed (.inr (.inr hp))
  rw [if_neg hp, ← met]
  generalize assignLayer d (met d s i) i = r
  obtain ⟨s', a⟩ := r
  dsimp only
  split
  · next h => exact .device hc he h
  · next h => exact .exynos hc he h
  · split
    · exact .reassigned
    · exact .client hc he

/-- Layers of another priority are passed over. -/
theorem assignOneLayer_other {p : OverlayPriority} (h : (d.layer i).overlayPriority ≠ p) :
    assignOneLayer d p s i = (s, .noError) := by
  unfold assignOneLayer
  by_cases ht : s.validateType i = .client ∨ s.validateType i = .exynos
  · rw [if_pos ht]
  · rw [if_neg ht, if_pos h]

end Layer

/-! ### A pass -/

/-- What a pass is to establish: `after i` once layer `i` has been visited, where
    `before i` held until then, and `settled x` for the targets. -/
structure Goals where
  before : Nat → State → Prop
  after : Nat → State → Prop
  settled : Source → State → Prop

/-- The step from `s` to `s'` is about the layers in `except` only. -/
structure Goals.KeptBut (G : Goals) (n : Nat) (except : Nat → Prop) (s s' : State) : Prop where
  before : ∀ j < n, ¬except j → G.before j s → G.before j s'
  after : ∀ j < n, ¬except j → G.after j s → G.after j s'
  settled : ∀ x, G.settled x s → G.settled x s'

theorem Goals.KeptBut.refl (G : Goals) (n : Nat) (except : Nat → Prop) (s : State) :
    G.KeptBut n except s s :=
  ⟨fun _ _ _ h => h, fun _ _ _ h => h, fun _ h => h⟩

/-- **What the calls of a pass have to meet** for `I` to be kept by it and for the
    goals to be reached. -/
structure PassRule (d : Display) (I : State → Prop) (G : Goals) : Prop where
  reset : ∀ s, I s →
    I (resetAssignedResources d s) ∧ ∀ i < d.layerNum, G.before i (resetAssignedResources d s)
  target : ∀ s x, I s → x = .client ∨ x = .exynos →
    Ends I (fun s' => G.settled x s' ∧ G.KeptBut d.layerNum (fun _ => False) s s')
      (assignCompositionTarget d s x)
  layer : ∀ s i, i < d.layerNum → I s → G.before i s →
    Ends I (fun s' => G.after i s' ∧ G.KeptBut d.layerNum (· = i) s s')
      (assignOneLayer d (d.layer i).overlayPriority s i)
  giveUp : ∀ s, I s → s.exynos.hasCompositionLayer = true → I (giveUpExynosComposition d s).1
  priority : ∀ s, I s →
    Ends I (G.KeptBut d.layerNum (fun _ => False) s) (setResourcePriority d s)

/-- The layers in `done` have been visited, the others not. -/
structure Goals.Reached (G : Goals) (n : Nat) (done : Nat → Prop) (targets : Source → Prop)
    (s : State) : Prop where
  after : ∀ i < n, done i → G.after i s
  before : ∀ i < n, ¬done i → G.before i s
  settled : ∀ x, targets x → G.settled x s

variable {d : Display} {I : State → Prop} {G : Goals}

theorem Goals.Reached.keep {done : Nat → Prop} {targets : Source → Prop} {n : Nat} {s s' : State}
    (h : G.Reached n done targets s) (hk : G.KeptBut n (fun _ => False) s s') :
    G.Reached n done targets s' where
  after i hi hd := hk.after i hi id (h.after i hi hd)
  before i hi hd := hk.before i hi id (h.before i hi hd)
  settled x hx := hk.settled x (h.settled x hx)

theorem Goals.Reached.congr {done done' : Nat → Prop} {targets : Source → Prop} {n : Nat}
    {s : State} (h : G.Reached n done targets s) (hd : ∀ i < n, done' i ↔ done i) :
    G.Reached n done' targets s where
  after i hi hi' := h.after i hi ((hd i hi).mp hi')
  before i hi hi' := h.before i hi fun hc => hi' ((hd i hi).mpr hc)
  settled := h.settled

/-- The layers of one more priority. -/
theorem PassRule.layers (R : PassRule d I G) {done : Nat → Prop} {targets : Source → Prop}
    {p : OverlayPriority} {s : State} (hI : I s)
    (hnew : ∀ i, (d.layer i).overlayPriority = p → ¬done i)
    (h : G.Reached d.layerNum done targets s) :
    Ends I (G.Reached d.layerNum (fun i => done i ∨ (d.layer i).overlayPriority = p) targets)
      (assignLayers d s p) := by
  let P k := G.Reached d.layerNum
    (fun i => done i ∨ (i < k ∧ (d.layer i).overlayPriority = p)) targets
  have hloop : Ends I (P (0 + d.layerNum)) ((List.range' 0 d.layerNum).foldl
      (untilStatus (assignOneLayer d p)) (s, .noError)) := .loop ?_ hI ?_
  · unfold assignLayers
    rw [List.range_eq_range']
    refine hloop.mono fun _ hr => hr.congr fun i hi => ?_
    simp [hi]
  · intro s i _ hi hI h
    have hi : i < d.layerNum := by omega
    by_cases hp : (d.layer i).overlayPriority = p
    · have hbefore : G.before i s := h.before i hi fun hc => by
        rcases hc with hc | ⟨hc, _⟩
        · exact hnew i hp hc
        · exact Nat.lt_irrefl i hc
      have hlayer := R.layer s i hi hI hbefore
      rw [hp] at hlayer
      refine hlayer.mono fun _ ⟨hafter, hk⟩ => ⟨fun j hj hd => ?_, fun j hj hd => ?_, fun x hx => ?_⟩
      · by_cases hji : j = i
        · exact hji ▸ hafter
        · refine hk.after j hj hji (h.after j hj (hd.imp id fun hc => ⟨?_, hc.2⟩))
          exact Nat.lt_of_le_of_ne (Nat.le_of_lt_succ hc.1) hji
      · have hji : j ≠ i := fun hc => hd (.inr ⟨by omega, hc ▸ hp⟩)
        exact hk.before j hj hji (h.before j hj fun hc =>
          hd (hc.imp id fun hc => ⟨Nat.lt_succ_of_lt hc.1, hc.2⟩))
      · exact hk.settled x (h.settled x hx)
    · rw [assignOneLayer_other d s i hp]
      refine .pure hI (h.congr fun j _ => ?_)
      constructor
      · rintro (hc | ⟨hlt, hc⟩)
        · exact .inl hc
        · exact .inr ⟨Nat.lt_of_le_of_ne (Nat.le_of_lt_succ hlt) fun e => hp (e ▸ hc), hc⟩
      · exact Or.imp id fun hc => ⟨Nat.lt_succ_of_lt hc.1, hc.2⟩
  · exact h.congr fun i _ => by simp

/-- All layers are visited and both targets settled. -/
def Goals.Done (G : Goals) (d : Display) (s : State) : Prop :=
  (∀ i < d.layerNum, G.after i s) ∧ G.settled .client s ∧ G.settled .exynos s

theorem giveUpExynosComposition_not_ok (d : Display) (s : State) :
    (giveUpExynosComposition d s).2 ≠ .noError := by
  unfold giveUpExynosComposition
  dsimp only
  split
  · exact nofun
  · next h => exact h

theorem countCheck_info (s : State) (x : Source) : s.countCheck.info x = s.info x := by
  cases x <;> rfl

/-- What `assignCompositionTarget` can do. -/
inductive TargetStep (d : Display) (s : State) (x : Source) : State × Status → Prop where
  | idle : (s.info x).hasCompositionLayer = false → TargetStep d s x (s.countCheck, .noError)
  | noDpu : d.useDpu = false → TargetStep d s x (s.countCheck, .noError)
  | invalid : TargetStep d s x (s.countCheck, .einval)
  | insufficient : (s.info x).hasCompositionLayer = true →
      TargetStep d s x (s.countCheck, .insufficientMPP)
  | assigned (o : MppId) : (s.info x).hasCompositionLayer = true → d.useDpu = true →
      isWindowInsufficient d s = false → findOtfMPPForTarget d s.countCheck x = some o →
      TargetStep d s x ((s.countCheck.assignOtf d o x).incrementWindow x, .noError)

theorem assignCompositionTarget_cases (d : Display) (s : State) (x : Source) :
    TargetStep d s x (assignCompositionTarget d s x) := by
  unfold assignCompositionTarget
  simp only [countCheck_info]
  by_cases hc : (s.info x).hasCompositionLayer = false
  · rw [if_pos hc]; exact .idle hc
  rw [if_neg hc]
  have hc : (s.info x).hasCompositionLayer = true := Bool.not_eq_false _ ▸ hc
  by_cases hm : x = .exynos ∧ s.countCheck.m2mMPP .exynos = none
  · rw [if_pos hm]; exact .insufficient hc
  rw [if_neg hm]
  by_cases hi : (s.info x).firstIndex < 0 ∨ (s.info x).lastIndex < 0
  · rw [if_pos hi]; exact .invalid
  rw [if_neg hi]
  by_cases hd : d.useDpu = false
  · rw [if_pos hd]; exact .noDpu hd
  rw [if_neg hd]
  by_cases hw : isWindowInsufficient d s.countCheck = true
  · rw [if_pos hw]; exact .insufficient hc
  rw [if_neg hw]
  split
  · next o ho => exact .assigned o hc (Bool.not_eq_false _ ▸ hd) (Bool.eq_false_iff.mpr hw) ho
  · exact .insufficient hc

/-- The exynos target is only given up if there is a composition. -/
theorem assignCompositionTarget_insufficient {s : State} {x : Source}
    (h : (assignCompositionTarget d s x).2 = .insufficientMPP) :
    (assignCompositionTarget d s x).1 = s.countCheck ∧ (s.info x).hasCompositionLayer = true := by
  have hstep := assignCompositionTarget_cases d s x
  generalize assignCompositionTarget d s x = r at h hstep
  cases hstep with
  | insufficient hc => exact ⟨rfl, hc⟩
  | _ => exact absurd h nofun

theorem PassRule.exynosTarget (R : PassRule d I G) {s : State} (hI : I s) :
    Ends I (fun s' => G.settled .exynos s' ∧ G.KeptBut d.layerNum (fun _ => False) s s')
      (assignExynosTarget d s) := by
  have ht := R.target s .exynos hI (.inr rfl)
  unfold assignExynosTarget
  dsimp only
  by_cases hst : (assignCompositionTarget d s .exynos).2 = .insufficientMPP
  · rw [if_pos hst]
    obtain ⟨heq, hc⟩ := assignCompositionTarget_insufficient hst
    refine .stop (R.giveUp _ ht.keeps ?_) (giveUpExynosComposition_not_ok d _)
    rw [heq]; exact hc
  · rw [if_neg hst]; exact ht

/-- **One pass.** -/
theorem PassRule.pass (R : PassRule d I G) {s : State} (hI : I s) :
    Ends I (G.Done d) (assignPass d s) := by
  obtain ⟨hI, hbefore⟩ := R.reset s hI
  have hclient := R.target _ .client hI (.inl rfl)
  unfold assignPass
  dsimp only
  refine Ends.andThen (P := G.Reached d.layerNum
    (fun i => (((False ∨ (d.layer i).overlayPriority = .max)
      ∨ (d.layer i).overlayPriority = .high) ∨ (d.layer i).overlayPriority = .mid)
      ∨ (d.layer i).overlayPriority = .low) fun x => x = .client ∨ x = .exynos) ?_ ?_
  · refine Ends.andThen ?_ fun s hI h => R.layers hI (fun i hp hc => by simp [hp] at hc) h
    refine Ends.andThen ?_ fun s hI h => R.layers hI (fun i hp hc => by simp [hp] at hc) h
    refine Ends.andThen (P := G.Reached d.layerNum
      (fun i => (False ∨ (d.layer i).overlayPriority = .max)
        ∨ (d.layer i).overlayPriority = .high) (· = .client)) ?_ ?_
    · refine Ends.andThen ?_ fun s hI h => R.layers hI (fun i hp hc => by simp [hp] at hc) h
      refine Ends.andThen ?_ fun s hI h => R.layers hI (fun i hp hc => hc) h
      exact hclient.mono fun _ ⟨hsettled, hk⟩ =>
        ⟨fun _ _ hc => hc.elim, fun i hi _ => hk.before i hi id (hbefore i hi),
          fun x hx => hx ▸ hsettled⟩
    · intro s hI h
      refine (R.exynosTarget hI).mono fun _ ⟨hsettled, hk⟩ => ?_
      have hkept := h.keep hk
      exact ⟨hkept.after, hkept.before, fun x hx => hx.elim (hkept.settled x) fun hx => hx ▸ hsettled⟩
  · intro s hI h
    refine (R.priority s hI).mono fun _ hk => ?_
    have hkept := h.keep hk
    refine ⟨fun i hi => hkept.after i hi ?_, hkept.settled _ (.inl rfl), hkept.settled _ (.inr rfl)⟩
    cases (d.layer i).overlayPriority <;> simp

/-- **All passes.**  The chain goes on behind a pass that changed nothing. -/
theorem PassRule.passes (R : PassRule d I G) (tries : Nat) {s : State} (hI : I s) :
    Ends I (G.Done d) (assignPasses d tries s) := by
  induction tries generalizing s with
  | zero => exact .stop hI nofun
  | succ tries ih =>
      have hpass := R.pass hI
      unfold assignPasses
      dsimp only
      split
      · exact hpass
      · split
        · exact .stop hpass.keeps nofun
        · split
          · exact ih hpass.keeps
          · exact hpass

/-! ### Adding a layer to the exynos composition -/

/-- The range with layer `k` in it, before the layers in between are handled. -/
def grown (d : Display) (s : State) (k : Nat) : State :=
  let s := s.countCheck.record
    (.added k (hasHighExynos d s.countCheck k) (hasHighPair d s.countCheck k))
  s.setExynosRange (grownFirst s k) (grownLast s k)

/-- What follows the loop over the sandwiched layers. -/
def settleSandwich (d : Display) (m : MppId) (a : Sandwich) : State × Status :=
  if a.status ≠ .noError then (a.state, a.status)
  else
    let r := if a.invalidFlag then handleNestedClientCompositionLayer d a.state
      else (a.state, .noError)
    if r.2.isError then r
    else settleExynosRange d m r.1 a.highPriLayers (a.changeFlag || decide (r.2 = .changed))

theorem addExynosCompositionLayer_eq (d : Display) (s : State) (k : Nat) :
    addExynosCompositionLayer d s k =
      if s.exynos.hasCompositionLayer = false then
        ({ s.countCheck with exynos := ⟨true, k, k⟩ }, .changed)
      else
        match s.m2mMPP .exynos with
        | none => (grown d s k, .einval)
        | some m =>
            if isIndexValid d (grown d s k) = false then (grown d s k, .einval)
            else settleSandwich d m (handleSandwitchedExynosCompositionLayer d m (grown d s k)) :=
  rfl

/-- What all parts of `addExynosCompositionLayer` keep, it keeps. -/
theorem addExynosCompositionLayer_keeps {s : State} {k : Nat} (hgrown : I (grown d s k))
    (hfirst : I { s.countCheck with exynos := ⟨true, k, k⟩ })
    (hsandwich : ∀ m a j, I a.state → I (sandwichExynos d m a j).state)
    (hnested : ∀ s, I s → I (handleNestedClientCompositionLayer d s).1)
    (hsettle : ∀ m s l changeFlag, I s → I (settleExynosRange d m s l changeFlag).1) :
    I (addExynosCompositionLayer d s k).1 := by
  rw [addExynosCompositionLayer_eq]
  split
  · exact hfirst
  · split
    · exact hgrown
    · next m _ =>
      split
      · exact hgrown
      · have ha : I (handleSandwitchedExynosCompositionLayer d m (grown d s k)).state :=
          foldl_keeps (P := fun a : Sandwich => I a.state) (fun a j => hsandwich m a j) _ hgrown
        generalize handleSandwitchedExynosCompositionLayer d m (grown d s k) = a at ha
        unfold settleSandwich
        split
        · exact ha
        · have hn : I (if a.invalidFlag then handleNestedClientCompositionLayer d a.state
              else (a.state, .noError)).1 := by
            split
            · exact hnested _ ha
            · exact ha
          dsimp only
          generalize (if a.invalidFlag then handleNestedClientCompositionLayer d a.state
            else (a.state, .noError)) = q at hn
          split
          · exact hn
          · exact hsettle m _ _ _ hn

/-! ### The loops around the passes -/

theorem giveUpExynosComposition_keeps
    (hgive : ∀ s i, I s → I (giveToClient d s i).1) (hinit : ∀ s, I s → I (s.initializeExynos d))
    {s : State} (h : I s) : I (giveUpExynosComposition d s).1 := by
  have hloop := fun a n => (show Ends I (fun _ => True) ((List.range' a n).foldl
    (untilStatus (giveToClient d)) (s, .noError)) from
    .loop (P := fun _ _ => True) (fun s i _ _ hI _ => ⟨hgive s i hI, fun _ => trivial⟩) h trivial).keeps
  unfold giveUpExynosComposition
  dsimp only
  split
  · exact hinit _ (hloop _ _)
  · exact hloop _ _

theorem addRequestedLayers_keeps (hadd : ∀ s i, i < d.layerNum → I s → I (addRequested d s i).1)
    {s : State} (h : I s) : I (addRequestedLayers d s).1 :=
  (show Ends I (fun _ => True) (addRequestedLayers d s) from
    .loop_all (fun s i hi hI _ => ⟨hadd s i hi hI, fun _ => trivial⟩) h trivial).keeps

/-! ### The loops behind the passes -/

/-- The two loops around the exynos range, for the number of sources that remain. -/
def extendAround (d : Display) (m : MppId) (s : State) (first last remain : Nat) : State :=
  let up := if 0 < remain then
      (List.range' (last + 1) (d.layerNum - (last + 1))).foldl (extendExynos d m) ⟨s, remain, true⟩
    else ⟨s, remain, true⟩
  if 0 < up.remainNum then
    ((List.range first).reverse.foldl (extendExynos d m) { up with running := true }).state
  else up.state

theorem extendAround_keeps {m : MppId} {s : State} {first last remain : Nat} {B : Nat → Prop}
    (hextend : ∀ a i, B i → I a.state → I (extendExynos d m a i).state)
    (hlow : ∀ i < first, B i) (hhigh : ∀ i < d.layerNum, last < i → B i) (h : I s) :
    I (extendAround d m s first last remain) := by
  have hloop : ∀ (l : List Nat) (a : Extension), (∀ i ∈ l, B i) → I a.state →
      I (l.foldl (extendExynos d m) a).state := by
    intro l
    induction l with
    | nil => exact fun _ _ ha => ha
    | cons i l ih =>
      intro a hl ha
      exact ih _ (fun j hj => hl j (List.mem_cons_of_mem i hj))
        (hextend a i (hl i List.mem_cons_self) ha)
  unfold extendAround
  dsimp only
  have hup : I (if 0 < remain then
      (List.range' (last + 1) (d.layerNum - (last + 1))).foldl (extendExynos d m) ⟨s, remain, true⟩
    else ⟨s, remain, true⟩).state := by
    split
    · refine hloop _ _ (fun i hi => ?_) h
      obtain ⟨k, hk, rfl⟩ := List.mem_range'.mp hi
      exact hhigh _ (by omega) (by omega)
    · exact h
  generalize (if 0 < remain then
      (List.range' (last + 1) (d.layerNum - (last + 1))).foldl (extendExynos d m)
        (Extension.mk s remain true)
    else (Extension.mk s remain true)) = up at hup
  split
  · exact hloop _ _ (fun i hi => hlow i (List.mem_range.mp (List.mem_reverse.mp hi))) hup
  · exact hup

theorem useMaxSources_eq (d : Display) (s : State) (m : MppId) :
    useMaxSources d s m = extendAround d m s s.exynos.firstIndex.toNat s.exynos.lastIndex.toNat
      (((d.mpp m).maxSrcLayerNum + 2 ^ 32
        - (s.exynos.lastIndex.toNat - s.exynos.firstIndex.toNat + 1)) % 2 ^ 32) := by
  unfold useMaxSources extendAround
  rfl

theorem assignResource_eq (d : Display) (s : State) :
    assignResource d s =
      andThen (andThen (addRequestedLayers d (initializeAssignment d s))
        (assignPasses d ASSIGN_RESOURCE_TRY_COUNT))
        fun s => updateClientComposition d (updateExynosComposition d s) := rfl

/-- The three steps of `updateExynosComposition`. -/
theorem updateExynosComposition_keeps {s : State}
    (hextend : ∀ m, s.m2mMPP .exynos = some m → s.exynos.hasCompositionLayer = true →
      I (useMaxSources d s m))
    (hsingle : ∀ s, I s → I (useSingleLayer d s)) (h : I s) :
    I (updateExynosComposition d s) := by
  unfold updateExynosComposition
  split
  · exact h
  · next m hm =>
    by_cases hc : s.exynos.hasCompositionLayer = false
    · rw [if_pos hc]; exact h
    · rw [if_neg hc]
      refine hsingle _ ?_
      split
      · exact hextend m hm (Bool.not_eq_false _ ▸ hc)
      · exact h

/-- The two loops of `updateClientComposition`, for what each round keeps. -/
theorem updateClientComposition_keeps {s : State}
    (hfirst : ∀ (a : Peeling) i, I a.state → I (peel d peelFirst a i).state)
    (hlast : ∀ (a : Peeling) i, I a.state → I (peel d peelLast a i).state) (h : I s) :
    I (updateClientComposition d s).1 := by
  have hdown : ∀ s, I s → I (peelDown d s).1 := by
    intro s hs
    unfold peelDown
    split
    · exact hs
    · exact foldl_keeps (P := fun a : Peeling => I a.state) hlast _ hs
  unfold updateClientComposition
  by_cases hidle : d.useDpu = false ∨ d.forceGpu ∨ s.client.hasCompositionLayer = false
  · rw [if_pos hidle]; exact h
  rw [if_neg hidle]
  split
  · exact h
  · have hup := foldl_keeps (P := fun a : Peeling => I a.state) hfirst
      (List.range' s.client.firstIndex.toNat
        (s.client.lastIndex.toNat + 1 - s.client.firstIndex.toNat)) (s := ⟨s, .noError, true⟩) h
    dsimp only
    split
    · exact hdown _ hup
    · exact hup

end ExynosHal.AssignmentRun
