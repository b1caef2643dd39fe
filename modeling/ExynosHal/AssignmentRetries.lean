/-
  ExynosHal/AssignmentRetries.lean
  ================================
  **How often the resource assignment starts over.**

  The retry loop of `ExynosResourceManager::assignResourceInternal` in
  `libhwc2.1/device/ExynosResourceManager.cpp`.  `ResourceManager` says what the
  steps of a pass do; here they are arbitrary, and what counts is which of them
  report `EXYNOS_ERROR_CHANGED`.

  After the loop the code decides by the counter alone whether the assignment
  succeeded.
-/
import ExynosHal.AssignmentRun

namespace ExynosHal.AssignmentRetries

open ExynosHal.Assignment ExynosHal.ResourceManager ExynosHal.AssignmentRun

/-! ### The loop -/

/-- How a pass ends. -/
inductive PassEnd where
  | finished
  | changed
  | failed (ret : Status)
deriving DecidableEq, Repr

/-- What `assignResourceInternal` returns.  The error of the exhausted counter is the
    `eUnknown` after the loop. -/
inductive Outcome where
  | noError
  | tryCount
  | failed (ret : Status)
deriving DecidableEq, Repr

/-- The steps that the function calls.  `assignExynosTarget` includes giving the exynos
    layers to the client; `setResourcePriority` reports whether something changed. -/
structure Checks (σ : Type) where
  addRequestedLayers : σ → σ × Status
  resetAssignedResources : σ → σ × Status
  assignClientTarget : σ → σ × Status
  assignLayers : OverlayPriority → σ → σ × Status
  assignExynosTarget : σ → σ × Status
  setResourcePriority : σ → σ × Bool
  updateExynosComposition : σ → σ × Status
  updateClientComposition : σ → σ × Status

/-- `if (ret != NO_ERROR) return ret;` -/
def orReturn {σ : Type} (r : σ × Status) (next : σ → σ × PassEnd) : σ × PassEnd :=
  if r.2 = .noError then next r.1 else (r.1, .failed r.2)

/-- A change starts over, another error returns. -/
def orRetry {σ : Type} (r : σ × Status) (next : σ → σ × PassEnd) : σ × PassEnd :=
  if r.2 = .noError then next r.1
  else if r.2 = .changed then (r.1, .changed)
  else (r.1, .failed r.2)

namespace Checks

variable {σ : Type} (c : Checks σ)

/-- The body of the `do` loop. -/
def pass (s : σ) : σ × PassEnd :=
  orReturn (c.resetAssignedResources s) fun s =>
  orReturn (c.assignClientTarget s) fun s =>
  orRetry (c.assignLayers .max s) fun s =>
  orRetry (c.assignLayers .high s) fun s =>
  orRetry (c.assignExynosTarget s) fun s =>
  orRetry (c.assignLayers .mid s) fun s =>
  orRetry (c.assignLayers .low s) fun s =>
    ((c.setResourcePriority s).1, if (c.setResourcePriority s).2 then .changed else .finished)

/-- The `do` loop: how many passes were made, and how the last one ended. -/
def doLoop (retry_count : Nat) (s : σ) : Nat × σ × PassEnd :=
  if (c.pass s).2 = .changed ∧ retry_count + 1 < ASSIGN_RESOURCE_TRY_COUNT then
    doLoop (retry_count + 1) (c.pass s).1
  else (retry_count + 1, c.pass s)
termination_by ASSIGN_RESOURCE_TRY_COUNT - retry_count

/-- `assignResourceInternal`, with the number of passes. -/
def assignResourceInternal (s : σ) : Nat × σ × Outcome :=
  let p := c.addRequestedLayers s
  if p.2 ≠ .noError then (0, p.1, .failed p.2)
  else
    let (retry_count, s, last) := c.doLoop 0 p.1
    match last with
    | .failed ret => (retry_count, s, .failed ret)
    | _ =>
        if retry_count = ASSIGN_RESOURCE_TRY_COUNT then (retry_count, s, .tryCount)
        else
          let r := c.updateExynosComposition s
          if r.2 ≠ .noError then (retry_count, r.1, .failed r.2)
          else
            let r := c.updateClientComposition r.1
            if r.2 ≠ .noError then (retry_count, r.1, .failed r.2)
            else (retry_count, r.1, .noError)

/-! ### The passes in their order -/

/-- The state before pass `k`, counted from 0. -/
def stateAt : Nat → σ → σ
  | 0, s => s
  | k + 1, s => stateAt k (c.pass s).1

/-- How pass `k` ends. -/
def endOf (k : Nat) (s : σ) : PassEnd := (c.pass (c.stateAt k s)).2

theorem doLoop_again {retry_count : Nat} {s : σ} (h : (c.pass s).2 = .changed)
    (hcount : retry_count + 1 < ASSIGN_RESOURCE_TRY_COUNT) :
    c.doLoop retry_count s = c.doLoop (retry_count + 1) (c.pass s).1 := by
  rw [doLoop, if_pos ⟨h, hcount⟩]

theorem doLoop_stop {retry_count : Nat} {s : σ}
    (h : ¬ ((c.pass s).2 = .changed ∧ retry_count + 1 < ASSIGN_RESOURCE_TRY_COUNT)) :
    c.doLoop retry_count s = (retry_count + 1, c.pass s) := by
  rw [doLoop, if_neg h]

/-- The loop stops at the first pass that does not end with a change, or when the counter
    is used up. -/
theorem doLoop_spec (retry_count : Nat) (s : σ) (h : retry_count < ASSIGN_RESOURCE_TRY_COUNT) :
    ∃ k, retry_count + k < ASSIGN_RESOURCE_TRY_COUNT ∧ (∀ j < k, c.endOf j s = .changed) ∧
      c.doLoop retry_count s = (retry_count + k + 1, c.stateAt (k + 1) s, c.endOf k s) ∧
      (c.endOf k s = .changed → retry_count + k + 1 = ASSIGN_RESOURCE_TRY_COUNT) := by
  fun_induction doLoop c retry_count s with
  | case1 retry_count s hagain ih =>
    obtain ⟨k, hk, hbefore, hloop, hlast⟩ := ih hagain.2
    refine ⟨k + 1, by omega, ?_, ?_, ?_⟩
    · intro j hj
      cases j with
      | zero => exact hagain.1
      | succ j => exact hbefore j (by omega)
    · rw [hloop]
      have hcount : retry_count + 1 + k + 1 = retry_count + (k + 1) + 1 := by omega
      rw [hcount]
      rfl
    · intro hchanged
      have hend := hlast hchanged
      omega
  | case2 retry_count s hstop =>
    refine ⟨0, h, ?_, rfl, ?_⟩
    · intro j hj
      exact absurd hj (Nat.not_lt_zero j)
    · intro hchanged
      have hnot : ¬ retry_count + 1 < ASSIGN_RESOURCE_TRY_COUNT := fun hlt => hstop ⟨hchanged, hlt⟩
      omega

end Checks

namespace Checks

variable {σ : Type} (c : Checks σ)

/-! ### What the caller may rely on -/

/-- The layers that the client asked for are entered, and the passes begin at `s₀`. -/
def Begins (s s₀ : σ) : Prop := c.addRequestedLayers s = (s₀, .noError)

structure RetriesRight (s : σ) : Prop where
  bounded : (c.assignResourceInternal s).1 ≤ ASSIGN_RESOURCE_TRY_COUNT
  succeeds : ∀ s₀, c.Begins s s₀ → ∀ k < ASSIGN_RESOURCE_TRY_COUNT,
    (∀ j < k, c.endOf j s₀ = .changed) → c.endOf k s₀ = .finished →
    (c.assignResourceInternal s).2.2 = .noError
  exhausted : (c.assignResourceInternal s).2.2 = .tryCount ↔
    ∃ s₀, c.Begins s s₀ ∧ ∀ j < ASSIGN_RESOURCE_TRY_COUNT, c.endOf j s₀ = .changed

/-- Both compositions can be updated after the passes. -/
def Updates (s : σ) : Prop :=
  (c.updateExynosComposition s).2 = .noError ∧
    (c.updateClientComposition (c.updateExynosComposition s).1).2 = .noError

/-- The first pass that finishes is not the last one allowed, and the compositions can be
    updated after it. -/
def InTime (s : σ) : Prop :=
  ∀ s₀, c.Begins s s₀ → ∀ k < ASSIGN_RESOURCE_TRY_COUNT,
    (∀ j < k, c.endOf j s₀ = .changed) → c.endOf k s₀ = .finished →
    k + 1 < ASSIGN_RESOURCE_TRY_COUNT ∧ c.Updates (c.stateAt (k + 1) s₀)

/-- The result after passes that did not begin. -/
theorem assign_rejected {s : σ} (h : (c.addRequestedLayers s).2 ≠ .noError) :
    c.assignResourceInternal s =
      (0, (c.addRequestedLayers s).1, .failed (c.addRequestedLayers s).2) := by
  unfold assignResourceInternal
  exact if_pos h

theorem assign_failed {s s₀ : σ} (hs : c.Begins s s₀) {n : Nat} {t : σ} {ret : Status}
    (h : c.doLoop 0 s₀ = (n, t, .failed ret)) :
    c.assignResourceInternal s = (n, t, .failed ret) := by
  unfold Begins at hs
  unfold assignResourceInternal
  rw [hs, if_neg (fun hne => hne rfl), h]

/-- The result when the counter is used up. -/
theorem assign_exhausted {s s₀ : σ} (hs : c.Begins s s₀) {t : σ} {last : PassEnd}
    (hlast : last = .changed ∨ last = .finished)
    (h : c.doLoop 0 s₀ = (ASSIGN_RESOURCE_TRY_COUNT, t, last)) :
    c.assignResourceInternal s = (ASSIGN_RESOURCE_TRY_COUNT, t, .tryCount) := by
  unfold Begins at hs
  unfold assignResourceInternal
  rw [hs, if_neg (fun hne => hne rfl), h]
  rcases hlast with rfl | rfl
  · exact if_pos rfl
  · exact if_pos rfl

/-- The result when a pass finishes in time. -/
theorem assign_finished {s s₀ : σ} (hs : c.Begins s s₀) {n : Nat} {t : σ}
    (hn : n ≠ ASSIGN_RESOURCE_TRY_COUNT) (h : c.doLoop 0 s₀ = (n, t, .finished)) :
    (c.assignResourceInternal s).1 = n ∧ (c.assignResourceInternal s).2.2 ≠ .tryCount ∧
      ((c.assignResourceInternal s).2.2 = .noError ↔ c.Updates t) := by
  unfold Begins at hs
  unfold assignResourceInternal Updates
  rw [hs, if_neg (fun hne => hne rfl), h]
  dsimp only
  rw [if_neg hn]
  by_cases hexynos : (c.updateExynosComposition t).2 = .noError
  · rw [if_neg (fun hne => hne hexynos)]
    by_cases hclient :
        (c.updateClientComposition (c.updateExynosComposition t).1).2 = .noError
    · rw [if_neg (fun hne => hne hclient)]
      exact ⟨rfl, nofun, fun _ => ⟨hexynos, hclient⟩, fun _ => rfl⟩
    · rw [if_pos hclient]
      exact ⟨rfl, nofun, nofun, fun hboth => absurd hboth.2 hclient⟩
  · rw [if_pos hexynos]
    exact ⟨rfl, nofun, nofun, fun hboth => absurd hboth.1 hexynos⟩

/-- Two passes that are both the first without a change are the same. -/
theorem firstEnd_unique {s : σ} {k k' : Nat} (h : ∀ j < k, c.endOf j s = .changed)
    (h' : ∀ j < k', c.endOf j s = .changed) (hk : c.endOf k s ≠ .changed)
    (hk' : c.endOf k' s ≠ .changed) : k = k' := by
  rcases Nat.lt_trichotomy k k' with hlt | heq | hgt
  · exact absurd (h' k hlt) hk
  · exact heq
  · exact absurd (h k' hgt) hk'

/-- There is one state in which the passes begin. -/
theorem Begins.unique {s s₀ t : σ} (h : c.Begins s s₀) (ht : c.Begins s t) : t = s₀ :=
  congrArg Prod.fst (ht.symm.trans h)

/-- No pass finishes: every promise holds, and there is nothing to finish in time. -/
theorem right_of_unfinished {s s₀ : σ} (hs : c.Begins s s₀)
    (hbound : (c.assignResourceInternal s).1 ≤ ASSIGN_RESOURCE_TRY_COUNT)
    (hnever : ∀ k < ASSIGN_RESOURCE_TRY_COUNT, (∀ j < k, c.endOf j s₀ = .changed) →
      c.endOf k s₀ ≠ .finished)
    (hexhausted : (c.assignResourceInternal s).2.2 = .tryCount ↔
      ∀ j < ASSIGN_RESOURCE_TRY_COUNT, c.endOf j s₀ = .changed) :
    c.RetriesRight s ↔ c.InTime s := by
  refine iff_of_true ⟨hbound, ?_, ?_⟩ ?_
  · intro t ht k hk hbefore hfinished
    rw [Begins.unique c hs ht] at hbefore hfinished
    exact absurd hfinished (hnever k hk hbefore)
  · rw [hexhausted]
    constructor
    · intro hall
      exact ⟨s₀, hs, hall⟩
    · rintro ⟨t, ht, hall⟩
      rwa [Begins.unique c hs ht] at hall
  · intro t ht k hk hbefore hfinished
    rw [Begins.unique c hs ht] at hbefore hfinished
    exact absurd hfinished (hnever k hk hbefore)

/-- All passes end with a change. -/
theorem right_of_changed {s s₀ : σ} (hs : c.Begins s s₀) {t : σ}
    (hall : ∀ j < ASSIGN_RESOURCE_TRY_COUNT, c.endOf j s₀ = .changed)
    (hloop : c.doLoop 0 s₀ = (ASSIGN_RESOURCE_TRY_COUNT, t, .changed)) :
    c.RetriesRight s ↔ c.InTime s := by
  have hresult := c.assign_exhausted hs (Or.inl rfl) hloop
  apply c.right_of_unfinished hs
  · exact Nat.le_of_eq (congrArg Prod.fst hresult)
  · intro k hk _ hfinished
    rw [hall k hk] at hfinished
    cases hfinished
  · rw [hresult]
    exact ⟨fun _ => hall, fun _ => rfl⟩

/-- A pass fails. -/
theorem right_of_failed {s s₀ : σ} (hs : c.Begins s s₀) {k : Nat} {t : σ} {ret : Status}
    (hk : k < ASSIGN_RESOURCE_TRY_COUNT) (hbefore : ∀ j < k, c.endOf j s₀ = .changed)
    (hend : c.endOf k s₀ = .failed ret) (hloop : c.doLoop 0 s₀ = (k + 1, t, .failed ret)) :
    c.RetriesRight s ↔ c.InTime s := by
  have hresult := c.assign_failed hs hloop
  apply c.right_of_unfinished hs
  · rw [hresult]
    exact hk
  · intro k' _ hbefore' hfinished
    have hsame := c.firstEnd_unique hbefore hbefore' (by rw [hend]; nofun)
      (by rw [hfinished]; nofun)
    rw [← hsame, hend] at hfinished
    cases hfinished
  · rw [hresult]
    refine ⟨nofun, ?_⟩
    intro hall
    have hchanged := hall k hk
    rw [hend] at hchanged
    cases hchanged

/-- A pass finishes: the promises hold if it was not the last one allowed and the updates
    succeed. -/
theorem right_of_finished {s s₀ : σ} (hs : c.Begins s s₀) {k : Nat}
    (hk : k < ASSIGN_RESOURCE_TRY_COUNT) (hbefore : ∀ j < k, c.endOf j s₀ = .changed)
    (hend : c.endOf k s₀ = .finished)
    (hloop : c.doLoop 0 s₀ = (k + 1, c.stateAt (k + 1) s₀, .finished)) :
    c.RetriesRight s ↔ c.InTime s := by
  have hnotAll : ¬ ∃ t, c.Begins s t ∧ ∀ j < ASSIGN_RESOURCE_TRY_COUNT,
      c.endOf j t = .changed := by
    rintro ⟨t, ht, hall⟩
    rw [Begins.unique c hs ht] at hall
    have hchanged := hall k hk
    rw [hend] at hchanged
    cases hchanged
  by_cases htime : k + 1 = ASSIGN_RESOURCE_TRY_COUNT
  · rw [htime] at hloop
    have hresult := c.assign_exhausted hs (Or.inr rfl) hloop
    refine iff_of_false ?_ ?_
    · intro h
      exact hnotAll (h.exhausted.mp (by rw [hresult]))
    · intro h
      have hlt := (h s₀ hs k hk hbefore hend).1
      omega
  · obtain ⟨hcount, hnotTry, hiff⟩ := c.assign_finished hs htime hloop
    constructor
    · intro h t ht k' hk' hbefore' hfinished
      rw [Begins.unique c hs ht] at hbefore' hfinished ⊢
      have hsame : k' = k := c.firstEnd_unique hbefore' hbefore (by rw [hfinished]; nofun)
        (by rw [hend]; nofun)
      rw [hsame]
      exact ⟨by omega, hiff.mp (h.succeeds s₀ hs k hk hbefore hend)⟩
    · intro h
      refine ⟨?_, ?_, ?_⟩
      · rw [hcount]
        exact hk
      · intro _ _ _ _ _ _
        exact hiff.mpr (h s₀ hs k hk hbefore hend).2
      · exact ⟨fun htry => absurd htry hnotTry, fun hall => absurd hall hnotAll⟩

/-- **When the counter tells the truth.**  The passes are bounded, a finishing pass is a
    success and the try-count error means that all passes ended with a change, if and only
    if no run finishes in exactly the last pass and the compositions can be updated after
    the pass that finishes. -/
theorem retries_right (s : σ) : c.RetriesRight s ↔ c.InTime s := by
  by_cases hbegin : (c.addRequestedLayers s).2 = .noError
  · have hs : c.Begins s (c.addRequestedLayers s).1 := Prod.ext rfl hbegin
    obtain ⟨k, hk, hbefore, hloop, hlast⟩ := c.doLoop_spec 0 (c.addRequestedLayers s).1 (by decide)
    rw [Nat.zero_add] at hk hloop hlast
    cases hend : c.endOf k (c.addRequestedLayers s).1 with
    | changed =>
      have hcount := hlast hend
      rw [hcount, hend] at hloop
      apply c.right_of_changed hs _ hloop
      intro j hj
      rcases Nat.lt_or_ge j k with hlt | hge
      · exact hbefore j hlt
      · have hjk : j = k := by omega
        rw [hjk]
        exact hend
    | failed ret =>
      rw [hend] at hloop
      exact c.right_of_failed hs hk hbefore hend hloop
    | finished =>
      rw [hend] at hloop
      exact c.right_of_finished hs hk hbefore hend hloop
  · have hnone : ∀ s₀, ¬ c.Begins s s₀ := fun s₀ hs => hbegin (congrArg Prod.snd hs)
    have hresult := c.assign_rejected hbegin
    refine iff_of_true ⟨?_, fun s₀ hs => absurd hs (hnone s₀), ?_⟩
      (fun s₀ hs => absurd hs (hnone s₀))
    · rw [hresult]
      exact Nat.zero_le _
    · rw [hresult]
      exact ⟨nofun, fun ⟨s₀, hs, _⟩ => absurd hs (hnone s₀)⟩

end Checks

/-! ### A run that finishes in the last pass -/

/-- Every pass before the last one changes something; the state counts the passes. -/
def settlesLate : Checks Nat where
  addRequestedLayers s := (s, .noError)
  resetAssignedResources s := (s + 1, .noError)
  assignClientTarget s := (s, .noError)
  assignLayers priority s :=
    (s, if priority = .max ∧ s < ASSIGN_RESOURCE_TRY_COUNT then .changed else .noError)
  assignExynosTarget s := (s, .noError)
  setResourcePriority s := (s, false)
  updateExynosComposition s := (s, .noError)
  updateClientComposition s := (s, .noError)

theorem settlesLate_pass (s : Nat) :
    settlesLate.pass s =
      (s + 1, if s + 1 < ASSIGN_RESOURCE_TRY_COUNT then .changed else .finished) := by
  by_cases h : s + 1 < ASSIGN_RESOURCE_TRY_COUNT
  · simp [Checks.pass, orReturn, orRetry, settlesLate, h]
  · simp [Checks.pass, orReturn, orRetry, settlesLate, h]

theorem settlesLate_stateAt (k s : Nat) : settlesLate.stateAt k s = s + k := by
  induction k generalizing s with
  | zero => rfl
  | succ k ih =>
    rw [Checks.stateAt, settlesLate_pass, ih]
    omega

/-- Pass 100 finishes without a change, and the function returns the try-count error. -/
theorem settled_but_rejected :
    (∀ j < 99, settlesLate.endOf j 0 = .changed) ∧ settlesLate.endOf 99 0 = .finished ∧
      (settlesLate.assignResourceInternal 0).2.2 = .tryCount ∧
      ¬ settlesLate.RetriesRight 0 := by
  have hends : ∀ j, settlesLate.endOf j 0 =
      if j + 1 < ASSIGN_RESOURCE_TRY_COUNT then .changed else .finished := by
    intro j
    rw [Checks.endOf, settlesLate_stateAt, settlesLate_pass, Nat.zero_add]
  have hbefore : ∀ j < 99, settlesLate.endOf j 0 = .changed := by
    intro j hj
    rw [hends, if_pos (by unfold ASSIGN_RESOURCE_TRY_COUNT; omega)]
  have hlast : settlesLate.endOf 99 0 = .finished := by
    rw [hends]
    rfl
  obtain ⟨k, hk, hchanged, hloop, hexit⟩ := settlesLate.doLoop_spec 0 0 (by decide)
  have hk99 : k = 99 := by
    unfold ASSIGN_RESOURCE_TRY_COUNT at hk hexit
    rcases Nat.lt_or_ge k 99 with hlt | hge
    · have hcount := hexit (hbefore k hlt)
      omega
    · omega
  rw [hk99, hlast] at hloop
  have hresult := settlesLate.assign_exhausted (s := 0) rfl (Or.inr rfl) hloop
  refine ⟨hbefore, hlast, by rw [hresult], ?_⟩
  intro h
  have hok := h.succeeds 0 rfl 99 (by decide) hbefore hlast
  rw [hresult] at hok
  cases hok

/-! ### The passes of the model -/

/-- The steps as `ResourceManager` has them. -/
def modelChecks (d : Display) : Checks State where
  addRequestedLayers := ResourceManager.addRequestedLayers d
  resetAssignedResources s := (ResourceManager.resetAssignedResources d s, .noError)
  assignClientTarget s := assignCompositionTarget d s .client
  assignLayers priority s := ResourceManager.assignLayers d s priority
  assignExynosTarget := ResourceManager.assignExynosTarget d
  setResourcePriority s :=
    ((ResourceManager.setResourcePriority d s).1,
      decide ((ResourceManager.setResourcePriority d s).2 = .changed))
  updateExynosComposition s := (ResourceManager.updateExynosComposition d s, .noError)
  updateClientComposition := ResourceManager.updateClientComposition d

def PassEnd.status : PassEnd → Status
  | .finished => .noError
  | .changed => .changed
  | .failed ret => ret

theorem setResourcePriority_status (d : Display) (s : State) :
    (ResourceManager.setResourcePriority d s).2 = .noError ∨
      (ResourceManager.setResourcePriority d s).2 = .changed := by
  unfold ResourceManager.setResourcePriority
  dsimp only
  split
  · exact Or.inl rfl
  · split
    · exact Or.inl rfl
    · split
      · exact Or.inr rfl
      · dsimp only
        split
        · exact Or.inr rfl
        · exact Or.inl rfl

theorem assignClientTarget_status (d : Display) (s : State) :
    (assignCompositionTarget d s .client).2 ≠ .changed := by
  have hstep := assignCompositionTarget_cases d s .client
  generalize assignCompositionTarget d s .client = r at hstep
  cases hstep <;> nofun

/-- `orRetry` and `andThen` agree on the status. -/
theorem orRetry_status {r : State × Status} {next : State → State × PassEnd}
    {next' : State → State × Status}
    (h : ∀ s, ((next s).1, (next s).2.status) = next' s) :
    ((orRetry r next).1, (orRetry r next).2.status) = andThen r next' := by
  unfold orRetry andThen
  by_cases h0 : r.2 = .noError
  · rw [if_pos h0, if_pos h0]
    exact h r.1
  · rw [if_neg h0, if_neg h0]
    split
    · rename_i hchanged
      exact Prod.ext rfl hchanged.symm
    · rfl

/-- A step whose errors return, if it never reports a change. -/
theorem orReturn_status {r : State × Status} {next : State → State × PassEnd}
    {next' : State → State × Status} (h : ∀ s, ((next s).1, (next s).2.status) = next' s) :
    ((orReturn r next).1, (orReturn r next).2.status) = andThen r next' := by
  unfold orReturn andThen
  by_cases h0 : r.2 = .noError
  · rw [if_pos h0, if_pos h0]
    exact h r.1
  · rw [if_neg h0, if_neg h0]
    rfl

theorem andThen_assoc (r : State × Status) (f g : State → State × Status) :
    andThen (andThen r f) g = andThen r fun s => andThen (f s) g := by
  unfold andThen
  by_cases h : r.2 = .noError
  · simp [h]
  · simp [h]

/-- A pass of the model is a pass with its steps. -/
theorem assignPass_eq (d : Display) (s : State) :
    (((modelChecks d).pass s).1, ((modelChecks d).pass s).2.status) = assignPass d s := by
  have hpriority : ∀ s, (((ResourceManager.setResourcePriority d s).1,
      (if decide ((ResourceManager.setResourcePriority d s).2 = .changed) then PassEnd.changed
        else .finished).status) : State × Status) = ResourceManager.setResourcePriority d s := by
    intro s
    rcases setResourcePriority_status d s with h | h
    · exact Prod.ext rfl (by rw [h]; rfl)
    · exact Prod.ext rfl (by rw [h]; rfl)
  unfold assignPass
  simp only [andThen_assoc]
  exact orReturn_status fun s => orRetry_status fun s => orRetry_status fun s =>
    orRetry_status fun s => orRetry_status fun s => orRetry_status hpriority

/-- What the loop of the model answers, read off the loop over its steps. -/
def loopStatus (r : Nat × State × PassEnd) : State × Status :=
  match r.2.2 with
  | .failed ret => (r.2.1, ret)
  | _ => (r.2.1, if r.1 = ASSIGN_RESOURCE_TRY_COUNT then .unknown else .noError)

theorem orRetry_failed {r : State × Status} {next : State → State × PassEnd} {ret : Status}
    (hnext : ∀ s, (next s).2 = .failed ret → ret ≠ .noError ∧ ret ≠ .changed)
    (h : (orRetry r next).2 = .failed ret) : ret ≠ .noError ∧ ret ≠ .changed := by
  unfold orRetry at h
  split at h
  · exact hnext r.1 h
  · rename_i h0
    split at h
    · cases h
    · rename_i hchanged
      cases h
      exact ⟨h0, hchanged⟩

theorem orReturn_failed {r : State × Status} {next : State → State × PassEnd} {ret : Status}
    (hr : r.2 ≠ .changed)
    (hnext : ∀ s, (next s).2 = .failed ret → ret ≠ .noError ∧ ret ≠ .changed)
    (h : (orReturn r next).2 = .failed ret) : ret ≠ .noError ∧ ret ≠ .changed := by
  unfold orReturn at h
  split at h
  · exact hnext r.1 h
  · rename_i h0
    cases h
    exact ⟨h0, hr⟩

/-- A failed pass has neither of the two statuses that go on. -/
theorem pass_failed (d : Display) {s : State} {ret : Status}
    (h : ((modelChecks d).pass s).2 = .failed ret) : ret ≠ .noError ∧ ret ≠ .changed := by
  have hpriority : ∀ s : State, ((ResourceManager.setResourcePriority d s).1,
      if decide ((ResourceManager.setResourcePriority d s).2 = .changed) then PassEnd.changed
        else .finished).2 = .failed ret → ret ≠ .noError ∧ ret ≠ .changed := by
    intro s hs
    dsimp only at hs
    split at hs <;> cases hs
  have hreset : (Status.noError : Status) ≠ .changed := by decide
  refine orReturn_failed hreset (fun s => ?_) h
  refine orReturn_failed (assignClientTarget_status d s) fun s => ?_
  exact orRetry_failed fun s => orRetry_failed fun s => orRetry_failed fun s =>
    orRetry_failed fun s => orRetry_failed hpriority

/-- The loop of the model is the loop over its steps. -/
theorem assignPasses_eq (d : Display) (tries : Nat) : ∀ (retry_count : Nat) (s : State),
    retry_count + tries + 1 = ASSIGN_RESOURCE_TRY_COUNT →
    assignPasses d (tries + 1) s = loopStatus ((modelChecks d).doLoop retry_count s) := by
  induction tries with
  | zero =>
    intro retry_count s hcount
    have hlast : ¬ retry_count + 1 < ASSIGN_RESOURCE_TRY_COUNT := by omega
    rw [(modelChecks d).doLoop_stop fun h => hlast h.2, assignPasses, ← assignPass_eq]
    cases hend : ((modelChecks d).pass s).2 with
    | finished => simp [loopStatus, PassEnd.status, hend, ← hcount]
    | changed => simp [loopStatus, PassEnd.status, hend, ← hcount]
    | failed ret => simp [loopStatus, PassEnd.status, hend, pass_failed d hend]
  | succ tries ih =>
    intro retry_count s hcount
    have hnot : retry_count + 1 ≠ ASSIGN_RESOURCE_TRY_COUNT := by omega
    rw [assignPasses, ← assignPass_eq]
    cases hend : ((modelChecks d).pass s).2 with
    | finished =>
      rw [(modelChecks d).doLoop_stop fun h => absurd (hend.symm.trans h.1) nofun]
      simp [loopStatus, PassEnd.status, hend, hnot]
    | changed =>
      rw [(modelChecks d).doLoop_again hend (by omega), ← ih (retry_count + 1) _ (by omega)]
      simp [PassEnd.status]
    | failed ret =>
      rw [(modelChecks d).doLoop_stop fun h => absurd (hend.symm.trans h.1) nofun]
      simp [loopStatus, PassEnd.status, hend, pass_failed d hend]

def Outcome.status : Outcome → Status
  | .noError => .noError
  | .tryCount => .unknown
  | .failed ret => ret

/-- `ResourceManager.assignResourceInternal` is the function with its steps. -/
theorem assignResourceInternal_eq (d : Display) (s : State) :
    ResourceManager.assignResourceInternal d s =
      (((modelChecks d).assignResourceInternal s).2.1,
        ((modelChecks d).assignResourceInternal s).2.2.status) := by
  have hpasses : ∀ s, assignPasses d ASSIGN_RESOURCE_TRY_COUNT s =
      loopStatus ((modelChecks d).doLoop 0 s) := fun s => assignPasses_eq d 99 0 s rfl
  unfold ResourceManager.assignResourceInternal Checks.assignResourceInternal
  have hadd : (modelChecks d).addRequestedLayers s = ResourceManager.addRequestedLayers d s := rfl
  rw [hadd]
  by_cases hbegin : (ResourceManager.addRequestedLayers d s).2 = .noError
  · simp only [andThen, hbegin, if_true, ne_eq, not_true_eq_false, if_false, hpasses]
    obtain ⟨k, -, -, hloop, -⟩ := (modelChecks d).doLoop_spec 0
      (ResourceManager.addRequestedLayers d s).1 (by decide)
    have hexynos : ∀ t, (modelChecks d).updateExynosComposition t =
        (ResourceManager.updateExynosComposition d t, .noError) := fun _ => rfl
    have hclient : ∀ t, (modelChecks d).updateClientComposition t =
        ResourceManager.updateClientComposition d t := fun _ => rfl
    rw [hloop]
    generalize (modelChecks d).stateAt (k + 1) _ = t
    generalize 0 + k + 1 = n
    cases hend : (modelChecks d).endOf k (ResourceManager.addRequestedLayers d s).1 with
    | failed ret => simp [loopStatus, Outcome.status, pass_failed d hend]
    | _ =>
      by_cases hn : n = ASSIGN_RESOURCE_TRY_COUNT
      · simp [loopStatus, Outcome.status, hn]
      · simp only [loopStatus, hn, if_false, if_true, hexynos, hclient, not_true_eq_false]
        by_cases hstatus : (ResourceManager.updateClientComposition d
            (ResourceManager.updateExynosComposition d t)).2 = .noError
        · rw [if_neg (fun hne => hne hstatus)]
          exact Prod.ext rfl hstatus
        · rw [if_pos hstatus]
          rfl
  · simp only [andThen, hbegin, if_false, ne_eq, not_false_eq_true, if_true, Outcome.status]

end ExynosHal.AssignmentRetries
