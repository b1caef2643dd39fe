/-
  ExynosHal/GemHandles.lean
  =========================
  **The GEM handles of a framebuffer in the making.**

  `FramebufferManager::getBuffer` imports the dma-bufs of a window as GEM handles
  and closes them again when it returns, whichever way it returns.  How many it
  closes is in a variable that the first exits leave unset, and two dma-bufs that
  are the same one have one handle, which is closed twice.  Apart from this every
  handle is closed once, and a failure adds no framebuffer (`handles_meet_iff`).
-/
import ExynosHal.FramebufferCache
import ExynosHal.FramebufferLifetime
import Mathlib.Tactic.SplitIfs

namespace ExynosHal.GemHandles

open ExynosHal.WindowConfig ExynosHal.FramebufferManager ExynosHal.FramebufferCache

/-! ### The program with its handles -/

/-- What a call does with the kernel's handles. -/
structure Trace where
  /-- The handles that the kernel gave, one for each import. -/
  imported : List Nat := []
  closed : List Nat := []
  /-- The places of the array `handles` that were read or written. -/
  indices : List Nat := []
  /-- The import of a buffer or the making of the framebuffer failed. -/
  failed : Bool := false
deriving DecidableEq, Repr

/-- What is in memory that the call did not set: the variable `bufferNum`, and what is behind the
    array `handles`. -/
structure Leftover where
  bufferNum : Nat
  behind : Nat → Nat

/-- `getBufHandleFromFd` for `n` buffers from `i` on, until one of them fails. -/
def importHandles (prime : Int → Nat) (c : WinConfig) : Nat → Nat → List Nat × Bool
  | _, 0 => ([], true)
  | i, n + 1 =>
    let handle := prime (fdOf c i)
    if handle = 0 then ([], false)
    else (handle :: (importHandles prime c (i + 1) n).1, (importHandles prime c (i + 1) n).2)

/-- What is at a place of `handles`: a handle, the first of them for the further planes, 0, or what
    is behind the array. -/
def handleAt (m : Leftover) (imported : List Nat) (planes i : Nat) : Nat :=
  match imported[i]? with
  | some handle => handle
  | none =>
    if i < planes then imported.headD 0
    else if i < HWC_DRM_BO_MAX_PLANES then 0
    else m.behind i

/-- `retCallback`, where the window is not one of a colour. -/
def retCallback (bufferNum : Nat) (handles : Nat → Nat) (t : Trace) : Trace :=
  { t with
    closed := ((List.range bufferNum).map handles).filter (· ≠ 0)
    indices := t.indices ++ List.range bufferNum }

section Program

variable {D : Type} [DecidableEq D] (desc : Nat → FormatDesc) (type : D → DisplayType) (m : Leftover)

/-- `getBuffer` from the lookup on, for a window with `bufferNum` buffers. -/
def importAndAdd (w : World D) (d : D) (c : WinConfig) (caching : Bool) (a : Answers) (fd : FormatDesc) :
    (World D × Option Nat) × Trace :=
  match if caching then lookup desc w c else none with
  | some _ => (getBuffer desc type w d c caching a, retCallback fd.bufferNum (handleAt m [] 0) {})
  | none =>
    let got := importHandles a.prime c 0 fd.bufferNum
    if got.2 = false then
      ((w, none), retCallback fd.bufferNum (handleAt m got.1 0)
        { imported := got.1, indices := List.range (got.1.length + 1), failed := true })
    else
      let planes := filledPlanes fd.bufferNum (planeCount c fd)
      (createBuffer desc type w d c caching a, retCallback fd.bufferNum (handleAt m got.1 planes)
        { imported := got.1, indices := List.range planes, failed := !a.addFB })

/-- `getBuffer` with what it does with handles. -/
def getBufferTraced (w : World D) (d : D) (c : WinConfig) (caching : Bool) (a : Answers) :
    (World D × Option Nat) × Trace :=
  let bufferOf :=
    let fd := desc c.format
    if fd.isImplementationDefined || fd.drmFormat == DRM_FORMAT_UNDEFINED then
      ((w, none), retCallback m.bufferNum (handleAt m [] 0) {})
    else if fd.bufferNum = 0 || fd.planeNum = 0 || fd.planeNum > MAX_PLANE_NUM then
      ((w, none), retCallback fd.bufferNum (handleAt m [] 0) {})
    else importAndAdd desc type m w d c caching a fd
  match c.state with
  | .buffer => bufferOf
  | .cursor => bufferOf
  | .color =>
    match if caching then lookup desc w c else none with
    | some _ => (getBuffer desc type w d c caching a, { indices := [0] })
    | none => (createBuffer desc type w d c caching a, { indices := [0], failed := !a.addFB })
  | .disabled => ((w, none), retCallback m.bufferNum (handleAt m [] 0) {})
  | .update => ((w, none), retCallback m.bufferNum (handleAt m [] 0) {})

/-- A call is right when every handle that it got is closed once and no other is, the array is
    never left, and a failure is reported and changes nothing. -/
structure Meets (w : World D) (r : (World D × Option Nat) × Trace) : Prop where
  once : r.2.closed.Nodup
  all : ∀ handle, handle ∈ r.2.closed ↔ handle ∈ r.2.imported
  bounds : ∀ i ∈ r.2.indices, i < HWC_DRM_BO_MAX_PLANES
  reported : r.2.failed = true → r.1.2 = none
  unchanged : r.1.2 = none → r.1.1 = w

/-- The condition on a window with a buffer: its format is known, or the unset variable happens to
    be small; the format has no more buffers than there are places; and the buffers that are
    imported have different handles. -/
structure RegularBuffer (w : World D) (c : WinConfig) (caching : Bool) (a : Answers) (fd : FormatDesc) :
    Prop where
  unset : (fd.isImplementationDefined = true ∨ fd.drmFormat = DRM_FORMAT_UNDEFINED) →
    m.bufferNum ≤ HWC_DRM_BO_MAX_PLANES
  known : fd.isImplementationDefined = false → fd.drmFormat ≠ DRM_FORMAT_UNDEFINED →
    fd.bufferNum ≤ HWC_DRM_BO_MAX_PLANES ∧
      (fd.planeNum ≠ 0 → fd.planeNum ≤ MAX_PLANE_NUM → (caching = true → lookup desc w c = none) →
        (importHandles a.prime c 0 fd.bufferNum).1.Nodup)

def Regular (w : World D) (c : WinConfig) (caching : Bool) (a : Answers) : Prop :=
  match c.state with
  | .buffer => RegularBuffer desc m w c caching a (desc c.format)
  | .cursor => RegularBuffer desc m w c caching a (desc c.format)
  | .color => True
  | .disabled => m.bufferNum ≤ HWC_DRM_BO_MAX_PLANES
  | .update => m.bufferNum ≤ HWC_DRM_BO_MAX_PLANES

end Program

/-! ### The callback -/

section Callback

variable {m : Leftover} {prime : Int → Nat} {c : WinConfig}

theorem importHandles_length (prime : Int → Nat) (c : WinConfig) (i n : Nat) :
    (importHandles prime c i n).1.length ≤ n ∧
      ((importHandles prime c i n).2 = true ↔ (importHandles prime c i n).1.length = n) := by
  induction n generalizing i with
  | zero => simp [importHandles]
  | succ n ih =>
    obtain ⟨hle, heq⟩ := ih (i + 1)
    unfold importHandles
    by_cases hzero : prime (fdOf c i) = 0
    · simp [hzero]
    · simp only [hzero, if_false, List.length_cons, heq]
      omega

theorem importHandles_ne_zero (prime : Int → Nat) (c : WinConfig) (i n : Nat) :
    ∀ handle ∈ (importHandles prime c i n).1, handle ≠ 0 := by
  induction n generalizing i with
  | zero => simp [importHandles]
  | succ n ih =>
    unfold importHandles
    by_cases hzero : prime (fdOf c i) = 0
    · simp [hzero]
    · simp only [hzero, if_false, List.mem_cons]
      rintro handle (rfl | hmem)
      · exact hzero
      · exact ih (i + 1) handle hmem

/-- The import fails exactly when the handle of one buffer is 0. -/
theorem importHandles_fails (i n : Nat) :
    (importHandles prime c i n).2 = !((List.range' i n).any fun k => prime (fdOf c k) == 0) := by
  induction n generalizing i with
  | zero => rfl
  | succ n ih =>
    unfold importHandles
    rw [List.range'_succ, List.any_cons]
    by_cases hzero : prime (fdOf c i) = 0
    · simp [hzero]
    · simp [hzero, ih]

/-- Within the array the callback closes what was imported. -/
theorem closed_eq {imported : List Nat} {n planes : Nat} (hn : n ≤ HWC_DRM_BO_MAX_PLANES)
    (hle : imported.length ≤ n) (hne : ∀ handle ∈ imported, handle ≠ 0)
    (hplanes : planes = 0 ∨ imported.length = n) :
    ((List.range n).map (handleAt m imported planes)).filter (· ≠ 0) = imported := by
  obtain ⟨k, rfl⟩ := Nat.exists_eq_add_of_le hle
  have hfirst : (List.range imported.length).map (handleAt m imported planes) = imported := by
    apply List.ext_getElem (by simp)
    intro i hi hi'
    simp [handleAt, hi']
  have hrest : ((List.range k).map fun j => handleAt m imported planes (imported.length + j)).filter
      (fun handle => decide (handle ≠ 0)) = [] := by
    rw [List.filter_eq_nil_iff]
    intro handle hmem
    obtain ⟨j, hj, rfl⟩ := List.mem_map.mp hmem
    rw [List.mem_range] at hj
    rcases hplanes with rfl | hfull
    · have hlt : imported.length + j < HWC_DRM_BO_MAX_PLANES := by omega
      simp [handleAt, hlt]
    · omega
  have hall : imported.filter (fun handle => decide (handle ≠ 0)) = imported := by
    rw [List.filter_eq_self]
    intro handle hmem
    exact decide_eq_true (hne handle hmem)
  rw [List.range_add, List.map_append, List.filter_append, hfirst, List.map_map]
  have hcomp : (handleAt m imported planes ∘ fun x => imported.length + x) =
      fun j => handleAt m imported planes (imported.length + j) := rfl
  rw [hcomp, hrest, hall, List.append_nil]

end Callback

section Calls

variable {D : Type}

/-- Whatever the call did before, its callback is right when it stays in the array and no handle
    was imported twice. -/
theorem callback_meets_iff {m : Leftover} {w : World D} {r : World D × Option Nat}
    {imported indices : List Nat} {n planes : Nat} {failed : Bool} (hle : imported.length ≤ n)
    (hne : ∀ handle ∈ imported, handle ≠ 0) (hplanes : planes = 0 ∨ imported.length = n)
    (hindices : n ≤ HWC_DRM_BO_MAX_PLANES → ∀ i ∈ indices, i < HWC_DRM_BO_MAX_PLANES)
    (hreported : failed = true → r.2 = none) (hunchanged : r.2 = none → r.1 = w) :
    Meets w (r, retCallback n (handleAt m imported planes)
        { imported := imported, indices := indices, failed := failed }) ↔
      n ≤ HWC_DRM_BO_MAX_PLANES ∧ imported.Nodup := by
  constructor
  · intro h
    have hn : n ≤ HWC_DRM_BO_MAX_PLANES := by
      by_contra hgt
      apply absurd (h.bounds HWC_DRM_BO_MAX_PLANES _) (Nat.lt_irrefl _)
      apply List.mem_append.mpr (Or.inr (List.mem_range.mpr _))
      omega
    have hclosed := closed_eq (m := m) hn hle hne hplanes
    have honce := h.once
    rw [retCallback, hclosed] at honce
    exact ⟨hn, honce⟩
  · rintro ⟨hn, hnodup⟩
    have hclosed := closed_eq (m := m) hn hle hne hplanes
    constructor
    · rw [retCallback, hclosed]
      exact hnodup
    · rw [retCallback, hclosed]
      exact fun handle => Iff.rfl
    · intro i hi
      rcases List.mem_append.mp hi with hi | hi
      · exact hindices hn i hi
      · rw [List.mem_range] at hi
        omega
    · exact hreported
    · exact hunchanged

/-- A callback with nothing to close. -/
theorem nothing_meets_iff {m : Leftover} {w : World D} (n : Nat) {r : World D × Option Nat} (hunchanged : r.2 = none → r.1 = w) :
    Meets w (r, retCallback n (handleAt m [] 0) {}) ↔ n ≤ HWC_DRM_BO_MAX_PLANES := by
  have hall : ∀ handle ∈ ([] : List Nat), handle ≠ 0 := by simp
  have hnone : n ≤ HWC_DRM_BO_MAX_PLANES → ∀ i ∈ ([] : List Nat), i < HWC_DRM_BO_MAX_PLANES := by simp
  have hfailed : false = true → r.2 = none := fun h => nomatch h
  have h := callback_meets_iff (m := m) (Nat.zero_le n) hall (Or.inl rfl) hnone hfailed hunchanged
  simpa using h

variable [DecidableEq D] {desc : Nat → FormatDesc} {type : D → DisplayType} {m : Leftover}
  {w : World D} {d : D} {c : WinConfig} {caching : Bool} {a : Answers}

theorem createBuffer_unchanged (h : (createBuffer desc type w d c caching a).2 = none) :
    (createBuffer desc type w d c caching a).1 = w := by
  unfold createBuffer at h ⊢
  cases hk : creation desc a.prime c with
  | none => rfl
  | some k =>
    rw [hk] at h
    cases hadd : a.addFB with
    | false => simp
    | true =>
      cases caching <;> simp [hadd] at h

theorem createBuffer_reported (h : (!a.addFB) = true) : (createBuffer desc type w d c caching a).2 = none := by
  unfold createBuffer
  split
  · rfl
  · rw [if_pos (by simpa using h)]

theorem getBuffer_hit {hit : Framebuffer × List Framebuffer}
    (h : (if caching then lookup desc w c else none) = some hit) :
    (getBuffer desc type w d c caching a).2 ≠ none := by
  unfold getBuffer
  rw [h]
  exact fun hnone => nomatch hnone

theorem importAndAdd_meets_iff {fd : FormatDesc} (hplanes : fd.planeNum ≤ MAX_PLANE_NUM) :
    Meets w (importAndAdd desc type m w d c caching a fd) ↔ fd.bufferNum ≤ HWC_DRM_BO_MAX_PLANES ∧
      ((caching = true → lookup desc w c = none) → (importHandles a.prime c 0 fd.bufferNum).1.Nodup) := by
  obtain ⟨hle, hfull⟩ := importHandles_length a.prime c 0 fd.bufferNum
  have hne := importHandles_ne_zero a.prime c 0 fd.bufferNum
  unfold importAndAdd
  cases hhit : (if caching then lookup desc w c else none) with
  | some hit =>
    simp only
    rw [nothing_meets_iff _ fun hnone => absurd hnone (getBuffer_hit hhit)]
    constructor
    · intro hn
      refine ⟨hn, fun hmiss => ?_⟩
      cases caching with
      | false => cases hhit
      | true =>
        rw [if_pos rfl, hmiss rfl] at hhit
        cases hhit
    · exact fun h => h.1
  | none =>
    have hmiss : caching = true → lookup desc w c = none := by
      rintro rfl
      exact hhit
    have hshort : (importHandles a.prime c 0 fd.bufferNum).2 = false →
        (importHandles a.prime c 0 fd.bufferNum).1.length < fd.bufferNum := by
      intro hfail
      apply Nat.lt_of_le_of_ne hle
      intro heq
      rw [hfull.mpr heq] at hfail
      cases hfail
    have hasked : ((caching = true → lookup desc w c = none) →
        (importHandles a.prime c 0 fd.bufferNum).1.Nodup) ↔ (importHandles a.prime c 0 fd.bufferNum).1.Nodup :=
      ⟨fun h => h hmiss, fun h _ => h⟩
    rw [hasked]
    simp only
    by_cases hfail : (importHandles a.prime c 0 fd.bufferNum).2 = false
    · rw [if_pos hfail]
      apply callback_meets_iff (r := (w, none)) hle hne (Or.inl rfl) _ (fun _ => rfl) (fun _ => rfl)
      intro hn i hi
      have hlt := hshort hfail
      rw [List.mem_range] at hi
      omega
    · rw [if_neg hfail]
      have hdone := hfull.mp (by simpa using hfail)
      apply callback_meets_iff hle hne (Or.inr hdone) _ createBuffer_reported createBuffer_unchanged
      intro hn i hi
      rw [List.mem_range] at hi
      have hcount : planeCount c fd ≤ fd.planeNum + 1 := by
        unfold planeCount
        split <;> omega
      have hfilled : filledPlanes fd.bufferNum (planeCount c fd) ≤ HWC_DRM_BO_MAX_PLANES := by
        unfold filledPlanes
        unfold MAX_PLANE_NUM at hplanes
        unfold HWC_DRM_BO_MAX_PLANES at hn ⊢
        split <;> omega
      omega

theorem buffer_meets_iff (fd : FormatDesc) :
    Meets w (if fd.isImplementationDefined || fd.drmFormat == DRM_FORMAT_UNDEFINED then
        ((w, none), retCallback m.bufferNum (handleAt m [] 0) {})
      else if fd.bufferNum = 0 || fd.planeNum = 0 || fd.planeNum > MAX_PLANE_NUM then
        ((w, none), retCallback fd.bufferNum (handleAt m [] 0) {})
      else importAndAdd desc type m w d c caching a fd) ↔ RegularBuffer desc m w c caching a fd := by
  by_cases hunknown : fd.isImplementationDefined = true ∨ fd.drmFormat = DRM_FORMAT_UNDEFINED
  · rw [if_pos (by simpa using hunknown), nothing_meets_iff (r := (w, none)) _ fun _ => rfl]
    constructor
    · intro hn
      constructor
      · exact fun _ => hn
      · intro hdef hdrm
        rcases hunknown with h | h
        · rw [hdef] at h
          cases h
        · exact absurd h hdrm
    · exact fun h => h.unset hunknown
  · rw [if_neg (by simpa using hunknown)]
    rw [not_or, Bool.not_eq_true] at hunknown
    have hregular : RegularBuffer desc m w c caching a fd ↔ fd.bufferNum ≤ HWC_DRM_BO_MAX_PLANES ∧
        (fd.planeNum ≠ 0 → fd.planeNum ≤ MAX_PLANE_NUM → (caching = true → lookup desc w c = none) →
          (importHandles a.prime c 0 fd.bufferNum).1.Nodup) := by
      constructor
      · exact fun h => h.known hunknown.1 hunknown.2
      · intro h
        constructor
        · intro hagain
          rw [hunknown.1] at hagain
          exact absurd (hagain.resolve_left (by simp)) hunknown.2
        · exact fun _ _ => h
    rw [hregular]
    by_cases hinvalid : fd.bufferNum = 0 ∨ fd.planeNum = 0 ∨ fd.planeNum > MAX_PLANE_NUM
    · rw [if_pos (by simpa [or_assoc] using hinvalid), nothing_meets_iff (r := (w, none)) _ fun _ => rfl]
      constructor
      · intro hn
        refine ⟨hn, fun hzero hmax _ => ?_⟩
        rcases hinvalid with h | h | h
        · rw [h]
          exact List.nodup_nil
        · exact absurd h hzero
        · omega
      · exact fun h => h.1
    · rw [if_neg (by simpa [or_assoc] using hinvalid)]
      rw [not_or, not_or, Nat.not_lt] at hinvalid
      rw [importAndAdd_meets_iff hinvalid.2.2]
      constructor
      · exact fun h => ⟨h.1, fun _ _ => h.2⟩
      · exact fun h => ⟨h.1, h.2 hinvalid.2.1 hinvalid.2.2⟩

/-- A window of a colour has no GEM handle. -/
theorem color_meets :
    Meets w (match if caching then lookup desc w c else none with
      | some _ => (getBuffer desc type w d c caching a, ({ indices := [0] } : Trace))
      | none => (createBuffer desc type w d c caching a, { indices := [0], failed := !a.addFB })) := by
  have hzero : ∀ i ∈ [0], i < HWC_DRM_BO_MAX_PLANES := by
    intro i hi
    rw [List.mem_singleton] at hi
    subst hi
    decide
  cases hhit : (if caching then lookup desc w c else none) with
  | some hit =>
    exact ⟨List.nodup_nil, fun _ => Iff.rfl, hzero, (fun h => nomatch h),
      fun hnone => absurd hnone (getBuffer_hit hhit)⟩
  | none => exact ⟨List.nodup_nil, fun _ => Iff.rfl, hzero, createBuffer_reported, createBuffer_unchanged⟩

theorem bufferLayout_unknown {fd : FormatDesc}
    (h : (fd.isImplementationDefined || fd.drmFormat == DRM_FORMAT_UNDEFINED) = true) :
    bufferLayout c fd = none := by
  rw [Bool.or_eq_true, beq_iff_eq] at h
  unfold bufferLayout
  rcases h with h | h
  · rw [if_pos h]
  · rw [if_pos h]
    split <;> rfl

theorem bufferLayout_invalid {fd : FormatDesc}
    (h : (fd.bufferNum = 0 || fd.planeNum = 0 || fd.planeNum > MAX_PLANE_NUM) = true) :
    bufferLayout c fd = none := by
  simp only [Bool.or_eq_true, decide_eq_true_eq, or_assoc] at h
  unfold bufferLayout
  split
  · rfl
  split
  · rfl
  split
  · rfl
  · rename_i hbuffer
    rw [if_pos (h.resolve_left hbuffer)]

/-- A failed import leaves no arguments for a framebuffer. -/
theorem creation_of_failure (hcolor : c.state ≠ .color) (hlayout : layout desc c = bufferLayout c (desc c.format))
    (hfail : (importHandles a.prime c 0 (desc c.format).bufferNum).2 = false) :
    creation desc a.prime c = none := by
  unfold creation
  rw [hlayout]
  cases hl : bufferLayout c (desc c.format) with
  | none => rfl
  | some l =>
    have hnum : l.bufferNum = (desc c.format).bufferNum := by
      rw [(bufferLayout_spec hl).2]
    rw [importHandles_fails, ← hnum, ← List.range_eq_range', Bool.not_eq_false'] at hfail
    have hany : ((List.range l.bufferNum).map fun i => a.prime (fdOf c i)).any (· == 0) = true := by
      rw [List.any_map]
      exact hfail
    simp only [handles, if_neg hcolor, hany, if_true, Option.bind_some, Option.map_none]

/-- Apart from the handles the call is that of the manager's model. -/
theorem getBufferTraced_fst :
    (getBufferTraced desc type m w d c caching a).1 = getBuffer desc type w d c caching a := by
  have hnone : layout desc c = none → getBuffer desc type w d c caching a = (w, none) := by
    intro hlayout
    have hlookup : lookup desc w c = none := by simp [lookup, hlayout]
    have hcreation : creation desc a.prime c = none := by simp [creation, hlayout]
    unfold getBuffer createBuffer
    rw [hlookup, hcreation]
    cases caching <;> rfl
  have hmiss : (if caching then lookup desc w c else none) = none →
      createBuffer desc type w d c caching a = getBuffer desc type w d c caching a := by
    intro h
    unfold getBuffer
    rw [h]
  have hbuffer : c.state = .buffer ∨ c.state = .cursor →
      (getBufferTraced desc type m w d c caching a).1 = getBuffer desc type w d c caching a := by
    intro hstate
    have hlayout : layout desc c = bufferLayout c (desc c.format) := by
      rcases hstate with h | h <;> simp [layout, h]
    have hcolor : c.state ≠ .color := by
      rcases hstate with h | h <;> rw [h] <;> decide
    have htraced : getBufferTraced desc type m w d c caching a =
        if (desc c.format).isImplementationDefined || (desc c.format).drmFormat == DRM_FORMAT_UNDEFINED then
          ((w, none), retCallback m.bufferNum (handleAt m [] 0) {})
        else if (desc c.format).bufferNum = 0 || (desc c.format).planeNum = 0 ||
            (desc c.format).planeNum > MAX_PLANE_NUM then
          ((w, none), retCallback (desc c.format).bufferNum (handleAt m [] 0) {})
        else importAndAdd desc type m w d c caching a (desc c.format) := by
      rcases hstate with h | h <;> simp [getBufferTraced, h]
    rw [htraced]
    split_ifs with hunknown hinvalid
    · exact (hnone (hlayout.trans (bufferLayout_unknown hunknown))).symm
    · exact (hnone (hlayout.trans (bufferLayout_invalid hinvalid))).symm
    unfold importAndAdd
    cases hhit : (if caching then lookup desc w c else none) with
    | some hit => rfl
    | none =>
      simp only
      split_ifs with hfail
      · rw [← hmiss hhit, createBuffer, creation_of_failure hcolor hlayout hfail]
      · exact hmiss hhit
  cases hstate : c.state with
  | buffer => exact hbuffer (Or.inl hstate)
  | cursor => exact hbuffer (Or.inr hstate)
  | color =>
    unfold getBufferTraced
    rw [hstate]
    simp only
    cases hhit : (if caching then lookup desc w c else none) with
    | some hit => rfl
    | none => exact hmiss hhit
  | disabled =>
    rw [hnone (by simp [layout, hstate])]
    simp [getBufferTraced, hstate]
  | update =>
    rw [hnone (by simp [layout, hstate])]
    simp [getBufferTraced, hstate]

/-- **A call is right exactly when the array is not left and no handle is imported twice**, from
    any state, with any answers of the kernel and whatever was in memory before. -/
theorem handles_meet_iff (desc : Nat → FormatDesc) (type : D → DisplayType) (m : Leftover) (w : World D) (d : D)
    (c : WinConfig) (caching : Bool) (a : Answers) :
    Meets w (getBufferTraced desc type m w d c caching a) ↔ Regular desc m w c caching a := by
  unfold getBufferTraced Regular
  cases hstate : c.state with
  | buffer => exact buffer_meets_iff _
  | cursor => exact buffer_meets_iff _
  | color => exact iff_of_true color_meets trivial
  | disabled => exact nothing_meets_iff _ fun _ => rfl
  | update => exact nothing_meets_iff _ fun _ => rfl

end Calls

/-! ### One dma-buf twice -/

/-- The row of `HAL_PIXEL_FORMAT_EXYNOS_YCbCr_420_SP_M`, whose planes are two buffers. -/
def nv12mDesc : FormatDesc where
  isImplementationDefined := false
  isSBWCDecomp := false
  drmFormat := 0x3231564e
  planeNum := 2
  bufferNum := 2
  bytePerPixel := 1
  sbwcType := .none
  bitType := .BIT8

/-- A window whose two planes are in one dma-buf. -/
def sharedPlanes : WinConfig :=
  { FramebufferLifetime.rgbaWindow 7 with fd_idma := (7, 7, -1) }

/-- The handle of the dma-buf is closed twice. -/
theorem sharedPlanes_closed_twice :
    ¬Meets (World.empty : World DisplayType) (getBufferTraced (fun _ => nv12mDesc) id ⟨0, fun _ => 0⟩
      World.empty .PRIMARY sharedPlanes true FramebufferLifetime.willing) := by
  intro h
  have honce := h.once
  revert honce
  decide +kernel

end ExynosHal.GemHandles
