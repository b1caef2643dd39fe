/-
  ExynosHal/ModeAgreement.lean
  ============================
  **Driver and display on one mode.**

  A deferred request waits in the desired state until a frame carries it to the
  driver; then the active state takes it over.  While no request waits, driver and
  active state agree, and both are what was last asked for (`modes_agree`).

  The desired state is also where a tested request leaves its mode, a request for
  the active mode does not withdraw the one that waits, and `setActiveConfig`
  reports success whatever the driver said: where these happen at the wrong time
  another mode is delivered than was asked for (`modes_disagree`).
-/
import ExynosHal.DrmModes

namespace ExynosHal.ModeAgreement

open ExynosHal.TransitionSystem ExynosHal.DrmModes

/-! ### Runs -/

/-- The modes of a connector; `next_mode_id` counts from one. -/
structure Connector where
  modes : List DrmMode
  ids : ∀ m ∈ modes, m.id ≠ 0

/-- The interface, and the mode of the last request that was accepted. -/
structure World where
  iface : Interface := {}
  requested : DrmMode := {}

/-- The mode that a call asks for; a test asks for none. -/
def asked (modes : List DrmMode) : Call → Option DrmMode
  | .setActiveConfigWithConstraints config false _ => findMode modes config
  | .setActiveConfig config _ => findMode modes config
  | _ => none

def step (k : Connector) (w : World) (c : Call) : World :=
  let r := exec k.modes w.iface c
  { iface := r.1
    requested := if r.2 = HWC2_ERROR_NONE then (asked k.modes c).getD w.requested
      else w.requested }

/-- How many commits failed. -/
def failures (d : Device) : Nat :=
  d.commits.countP fun c => c.errno ≠ 0

/-- The mode that a delivery would commit. -/
def pendingMode (s : Interface) : Option DrmModeModeInfo :=
  if s.mDesiredModeState.needs_modeset then some (s.device.modeInfo s.mDesiredModeState.blob_id)
  else none

/-- The driver has what the display takes for its mode. -/
def Settled (s : Interface) : Prop :=
  s.device.driverMode = ToDrmModeModeInfo s.mActiveModeState.mode

/-- A call that comes at the right time: while a request waits there is no test of another mode
    that passes, no request for the active mode and no reset; an immediate request finds the driver
    on the active mode, if that is its mode, and succeeds otherwise. -/
def RegularCall (k : Connector) (w : World) : Call → Prop
  | .setActiveConfigWithConstraints config test a =>
    w.iface.mDesiredModeState.needs_modeset = true →
      if test then (findMode k.modes config).isSome →
        w.iface.mDesiredModeState.mode.id ≠ config → sameMode w.iface config = false →
          ¬(a.create = 0 ∧ a.addsOk ∧ a.commit = 0)
      else sameMode w.iface config = false
  | .setActiveConfig config a =>
    (findMode k.modes config).isSome →
      if sameMode w.iface config then Settled w.iface else a.create = 0 ∧ a.addsOk ∧ a.commit = 0
  | .resetConfigRequestState => w.iface.mDesiredModeState.needs_modeset = false
  | .deliverWinConfigData _ => True
  | .setActiveDrmMode _ _ => False
  | .clearActiveDrmMode _ => False

def RegularlyReached (k : Connector) : World → Prop :=
  Reachable (fun w => ∃ crtc, w = { iface := { crtcId := crtc } }) (guarded (RegularCall k) (ofFun (step k)))

/-! ### Blobs that stay -/

section Modes

variable {k : Connector} {d d' : Device} {st : ModeState} {s s' : Interface} {w : World}

theorem modeInfo_grow (h : d.blobs <+: d'.blobs) {n : Nat} (hn : n ≤ d.blobs.length) :
    d'.modeInfo n = d.modeInfo n := by
  cases n with
  | zero => rfl
  | succ n =>
    obtain ⟨more, hmore⟩ := h
    unfold Device.modeInfo
    simp only [← hmore, List.getElem?_append_left hn]

theorem modeInfo_last (d : Device) (mode : DrmMode) :
    (d.withMode mode).modeInfo (d.blobs.length + 1) = ToDrmModeModeInfo mode := by
  simp [Device.modeInfo, Device.withMode]

theorem modeBlob_logged (d : Device) (testOnly : Bool) (blob : Nat) (e : Errno) :
    (d.logged testOnly blob e).modeBlob =
      if testOnly ∨ e ≠ 0 then d.modeBlob else blob := by
  unfold Device.modeBlob Device.logged
  simp only [List.filterMap_cons, Commit.applied]
  split_ifs <;> rfl

theorem modeBlob_congr (h : d'.commits = d.commits) : d'.modeBlob = d.modeBlob := by
  unfold Device.modeBlob
  rw [h]

/-- The state's blob was made for its mode, which is one of the connector's. -/
structure Named (k : Connector) (d : Device) (st : ModeState) : Prop where
  made : st.blob_id ≤ d.blobs.length
  info : d.modeInfo st.blob_id = ToDrmModeModeInfo st.mode
  known : st.blob_id ≠ 0 → findMode k.modes st.mode.id = some st.mode
  none : st.blob_id = 0 → st.mode = {}

theorem Named.start : Named k d {} := ⟨Nat.zero_le _, rfl, fun h => absurd rfl h, fun _ => rfl⟩

theorem Named.grow (h : Named k d st) (hd : d.blobs <+: d'.blobs) : Named k d' st :=
  ⟨Nat.le_trans h.made hd.length_le, (modeInfo_grow hd h.made).trans h.info, h.known, h.none⟩

/-- The needs flag is no part of it. -/
theorem Named.flag (h : Named k d st) (needs : Bool) :
    Named k d { st with needs_modeset := needs } :=
  ⟨h.made, h.info, h.known, h.none⟩

theorem id_of_findMode {modes : List DrmMode} {config : Nat} {mode : DrmMode}
    (h : findMode modes config = some mode) : mode.id = config := by
  have := List.find?_some h
  simpa using this

theorem Named.new {config : Nat} {mode : DrmMode} (h : findMode k.modes config = some mode)
    (hd : (d.withMode mode).blobs <+: d'.blobs) (needs : Bool) (old : Nat) :
    Named k d' ⟨needs, mode, d.blobs.length + 1, old⟩ := by
  have hlen : d.blobs.length + 1 ≤ (d.withMode mode).blobs.length := by
    simp [Device.withMode]
  refine ⟨Nat.le_trans hlen hd.length_le, ?_, ?_, fun h => absurd h (Nat.succ_ne_zero _)⟩
  · rw [modeInfo_grow hd hlen]
    exact modeInfo_last d mode
  · intro _
    rw [id_of_findMode h]
    exact h

/-- A state of a known id holds the mode with that id. -/
theorem Named.mode_eq (hst : Named k d st) {config : Nat} {mode : DrmMode}
    (h : findMode k.modes config = some mode) (hid : st.mode.id = config) :
    st.blob_id ≠ 0 ∧ st.mode = mode := by
  have hblob : st.blob_id ≠ 0 := by
    intro hzero
    have hmem : mode ∈ k.modes := List.mem_of_find?_eq_some h
    apply k.ids mode hmem
    rw [id_of_findMode h, ← hid, hst.none hzero]
  refine ⟨hblob, ?_⟩
  have hknown := hst.known hblob
  rw [hid, h] at hknown
  exact (Option.some.inj hknown).symm

end Modes

/-! ### What a frame leaves alone -/

section Frames

variable {s s' s'' : Interface} {f : Frame}

/-- A step that changes no mode, neither here nor in the driver. -/
structure KeepsModes (s s' : Interface) : Prop where
  active : s'.mActiveModeState = s.mActiveModeState
  desired : s'.mDesiredModeState = s.mDesiredModeState
  blobs : s.device.blobs <+: s'.device.blobs
  driver : s'.device.modeBlob = s.device.modeBlob
  request : s.mDrmReq.mode = none → s'.mDrmReq.mode = none

/-- A step like this without a commit that fails. -/
structure SameModes (s s' : Interface) : Prop extends KeepsModes s s' where
  failed : failures s'.device = failures s.device

theorem KeepsModes.trans (h : KeepsModes s s') (h' : KeepsModes s' s'') : KeepsModes s s'' :=
  ⟨h'.active.trans h.active, h'.desired.trans h.desired, h.blobs.trans h'.blobs,
    h'.driver.trans h.driver, fun hr => h'.request (h.request hr)⟩

theorem SameModes.refl (s : Interface) : SameModes s s :=
  ⟨⟨rfl, rfl, List.prefix_rfl, rfl, fun h => h⟩, rfl⟩

theorem SameModes.trans (h : SameModes s s') (h' : SameModes s' s'') : SameModes s s'' :=
  ⟨h.toKeepsModes.trans h'.toKeepsModes, h'.failed.trans h.failed⟩

theorem SameModes.proceed {r : Interface × Int} {next : Interface → Interface × Int}
    (h : SameModes s r.1) (hnext : ∀ s', SameModes s' (next s').1) :
    SameModes s (proceed r next).1 := by
  rcases proceed_cases r next with ⟨-, heq⟩ | ⟨-, heq⟩
  · rw [heq]
    exact h
  · rw [heq]
    exact h.trans (hnext r.1)

/-- More blobs, and another item of the request. -/
theorem SameModes.create (data : BlobData) (req : DrmModeAtomicReq)
    (hreq : s.mDrmReq.mode = none → req.mode = none) (region : PartialRegionState) :
    SameModes s { s with
      device := { s.device with blobs := s.device.blobs ++ [data] }
      mDrmReq := req
      mPartialRegionState := region } :=
  ⟨⟨rfl, rfl, List.prefix_append _ _, rfl, hreq⟩, rfl⟩

theorem SameModes.addProperty {property : Property} (h : property ≠ .mode_property) (value : Nat)
    (e : Errno) :
    SameModes s { s with mDrmReq := (s.mDrmReq.atomicAddProperty property value e).1 } := by
  refine ⟨⟨rfl, rfl, List.prefix_rfl, rfl, ?_⟩, rfl⟩
  intro hr
  exact (mode_atomicAddProperty h value e).trans hr

theorem renewRegion_sameModes (rect : DrmClipRect) (e : Errno) :
    SameModes s (renewRegion s rect e).1 := by
  rcases renewRegion_cases s rect e with ⟨-, heq⟩ | ⟨-, heq⟩
  · rw [heq]
    apply SameModes.create
    intro hr
    split
    · exact hr
    · exact hr
  · rw [heq]
    exact SameModes.refl s

theorem setupPartialRegion_sameModes (f : Frame) : SameModes s (setupPartialRegion s f).1 := by
  unfold setupPartialRegion
  split
  · exact SameModes.refl s
  · apply SameModes.proceed
    · split
      · exact renewRegion_sameModes _ _
      · exact SameModes.refl s
    · intro s'
      exact SameModes.addProperty (by decide) _ _

theorem setFrameStaticMeta_sameModes (w : Window) : SameModes s (setFrameStaticMeta s w).1 := by
  rcases setFrameStaticMeta_cases s w with ⟨-, heq⟩ | ⟨info, -, -, heq⟩
  · rw [heq]
    exact SameModes.refl s
  · rw [heq]
    apply SameModes.create
    intro hr
    exact (mode_atomicAddProperty (by decide) _ _).trans hr

theorem setupWindow_sameModes (f : Frame) (w : Window) : SameModes s (setupWindow s f w).1 := by
  unfold setupWindow
  split_ifs
  · exact SameModes.refl s
  · exact setFrameStaticMeta_sameModes w
  · exact SameModes.refl s

theorem setupWindows_sameModes (f : Frame) (ws : List Window) :
    SameModes s (setupWindows s f ws).1 := by
  induction ws generalizing s with
  | nil => exact SameModes.refl s
  | cons w ws ih => exact (setupWindow_sameModes f w).proceed fun s' => ih

theorem setupFrame_sameModes (f : Frame) : SameModes s (setupFrame s f).1 := by
  apply (SameModes.refl s).proceed
  intro s
  apply (setupPartialRegion_sameModes f).proceed
  intro s
  apply (SameModes.refl s).proceed
  intro s
  exact setupWindows_sameModes f f.windows

theorem resetDrmReq_sameModes (answers : Nat → Errno) : SameModes s (resetDrmReq s answers) := by
  have hcommits : (resetDrmReq s answers).device.commits = s.device.commits := close_commits
  have hblobs : (resetDrmReq s answers).device.blobs = s.device.blobs := close_blobs
  refine ⟨⟨rfl, rfl, ?_, modeBlob_congr hcommits, fun _ => rfl⟩, ?_⟩
  · exact hblobs ▸ List.prefix_rfl
  · unfold failures
    rw [hcommits]

/-- The commit of a frame names no mode. -/
theorem commitFrame_keeps (hreq : s.mDrmReq.mode = none) (f : Frame) :
    KeepsModes s (commitFrame s f).1 := by
  refine ⟨rfl, rfl, List.prefix_rfl, ?_, fun h => h⟩
  simp [commitFrame, DrmModeAtomicReq.commit, Device.modeBlob, Commit.applied, hreq]

theorem commitFrame_same (hreq : s.mDrmReq.mode = none) {f : Frame}
    (h : ¬(commitFrame s f).2 < 0) : SameModes s (commitFrame s f).1 := by
  have hcommit : f.commit = 0 := Decidable.byContradiction fun hne => h (ret_neg.mpr hne)
  refine ⟨commitFrame_keeps hreq f, ?_⟩
  simp [commitFrame, DrmModeAtomicReq.commit, failures, hcommit]

/-- The frame after the commit of a mode: it fails and changes no mode, or it goes out and the
    desired mode is applied. -/
theorem finishFrame_cases (hreq : s.mDrmReq.mode = none) (f : Frame) (r : Interface × Int)
    (hr : proceed (setupFrame s f) (fun s => proceed (commitFrame s f)
      fun s => (applyDesired s, NO_ERROR)) = r) :
    r.2 < 0 ∧ KeepsModes s r.1 ∨
      r.2 = NO_ERROR ∧ ∃ s', SameModes s s' ∧ r.1 = applyDesired s' := by
  have hsetup : SameModes s (setupFrame s f).1 := setupFrame_sameModes f
  have hreq' := hsetup.request hreq
  rcases proceed_cases (setupFrame s f) (fun s => proceed (commitFrame s f)
    fun s => (applyDesired s, NO_ERROR)) with ⟨hneg, heq⟩ | ⟨-, heq⟩
  · rw [heq] at hr
    subst hr
    exact Or.inl ⟨hneg, hsetup.toKeepsModes⟩
  · rcases proceed_cases (commitFrame (setupFrame s f).1 f)
      (fun s => (applyDesired s, NO_ERROR)) with ⟨hneg, heq'⟩ | ⟨hok, heq'⟩
    · rw [heq, heq'] at hr
      subst hr
      exact Or.inl ⟨hneg, hsetup.toKeepsModes.trans (commitFrame_keeps hreq' f)⟩
    · rw [heq, heq'] at hr
      subst hr
      exact Or.inr ⟨rfl, _, hsetup.trans (commitFrame_same hreq' hok), rfl⟩

end Frames

section Deliveries

variable {s : Interface} {f : Frame}

/-- What a delivery that fails leaves: the mode may have gone to the driver already. -/
structure Failed (s s' : Interface) : Prop where
  active : s'.mActiveModeState = s.mActiveModeState
  desired : s'.mDesiredModeState = s.mDesiredModeState
  blobs : s.device.blobs <+: s'.device.blobs
  driver : s'.device.modeBlob = s.device.modeBlob ∨
    s.mDesiredModeState.needs_modeset = true ∧
      s'.device.modeBlob = s.mDesiredModeState.blob_id

/-- What a delivery leaves that carried a mode to the driver. -/
structure Applied (s s' : Interface) : Prop where
  active : s'.mActiveModeState = { s.mActiveModeState with
    mode := s.mDesiredModeState.mode
    blob_id := s.mDesiredModeState.blob_id
    old_blob_id := s.mActiveModeState.blob_id }
  desired : s'.mDesiredModeState = {}
  blobs : s.device.blobs <+: s'.device.blobs
  driver : s'.device.modeBlob = s.mDesiredModeState.blob_id
  failed : failures s'.device = failures s.device

theorem resetDrmReq_mode (s : Interface) (answers : Nat → Errno) :
    (resetDrmReq s answers).mDrmReq.mode = none := rfl

theorem KeepsModes.toFailed {s' : Interface} (h : KeepsModes s s') : Failed s s' :=
  ⟨h.active, h.desired, h.blobs, Or.inl h.driver⟩

theorem deliver_quiet (hneeds : s.mDesiredModeState.needs_modeset = false)
    (hreq : s.mDrmReq.mode = none) (f : Frame) :
    (deliverWinConfigData s f).2 < 0 ∧ KeepsModes s (deliverWinConfigData s f).1 ∨
      (deliverWinConfigData s f).2 = NO_ERROR ∧ SameModes s (deliverWinConfigData s f).1 := by
  have hbody : deliverFrame s f = proceed (setupFrame s f) (fun s => proceed (commitFrame s f)
      fun s => (applyDesired s, NO_ERROR)) := by
    rw [deliverFrame_eq, hneeds]
    rfl
  unfold deliverWinConfigData
  rcases finishFrame_cases hreq f _ hbody.symm with ⟨hneg, hkeep⟩ | ⟨hret, s', hsame, heq⟩
  · exact Or.inl ⟨hneg, hkeep.trans (resetDrmReq_sameModes _).toKeepsModes⟩
  · have happly : applyDesired s' = s' := by
      unfold applyDesired
      rw [hsame.desired, hneeds]
      rfl
    refine Or.inr ⟨hret, ?_⟩
    simp only [heq, happly]
    exact hsame.trans (resetDrmReq_sameModes _)

theorem applyDesired_applied {s' : Interface} (hneeds : s.mDesiredModeState.needs_modeset = true)
    (hdriver : s.device.modeBlob = s.mDesiredModeState.blob_id) (h : SameModes s s') :
    Applied s (applyDesired s') := by
  have hneeds' : s'.mDesiredModeState.needs_modeset = true := by rw [h.desired, hneeds]
  have hdevice : (applyDesired s').device = s'.device := by
    unfold applyDesired
    split <;> rfl
  refine ⟨?_, ?_, ?_, ?_, ?_⟩
  · simp only [applyDesired, h.active, h.desired, hneeds, if_true, ModeState.apply,
      ModeState.setMode]
  · simp only [applyDesired, hneeds', if_true, ModeState.apply]
  · rw [hdevice]
    exact h.blobs
  · rw [hdevice, h.driver, hdriver]
  · rw [hdevice, h.failed]

theorem Applied.reset {s' : Interface} (h : Applied s s') (answers : Nat → Errno) :
    Applied s (resetDrmReq s' answers) := by
  have hreset := resetDrmReq_sameModes (s := s') answers
  exact ⟨hreset.active.trans h.active, hreset.desired.trans h.desired,
    h.blobs.trans hreset.blobs, hreset.driver.trans h.driver, hreset.failed.trans h.failed⟩

theorem deliver_pending (hneeds : s.mDesiredModeState.needs_modeset = true)
    (hreq : s.mDrmReq.mode = none) (f : Frame) :
    (deliverWinConfigData s f).2 < 0 ∧ Failed s (deliverWinConfigData s f).1 ∨
      (deliverWinConfigData s f).2 = NO_ERROR ∧ Applied s (deliverWinConfigData s f).1 := by
  unfold deliverWinConfigData
  rw [deliverFrame_eq, if_pos hneeds]
  rcases deliverModeSet_cases s f.modeset with ⟨-, r, hneg, heq⟩ | ⟨-, heq⟩
  · rw [heq]
    simp only [proceed, if_pos hneg]
    exact Or.inl ⟨hneg, (resetDrmReq_sameModes _).toKeepsModes.toFailed⟩
  · rw [heq]
    obtain ⟨d, hd⟩ : ∃ d, s.device.logged false s.mDesiredModeState.blob_id f.modeset.commit = d :=
      ⟨_, rfl⟩
    rw [hd]
    have hdriver : d.modeBlob = if f.modeset.commit ≠ 0 then s.device.modeBlob
        else s.mDesiredModeState.blob_id := by
      rw [← hd, modeBlob_logged]
      simp only [Bool.false_eq_true, false_or]
    have hblobs : d.blobs = s.device.blobs := by
      rw [← hd]
      rfl
    by_cases hcommit : f.modeset.commit = 0
    · -- the driver has the mode from here on
      rw [if_neg (not_not_intro hcommit)] at hdriver
      have hfailed : failures d = failures s.device := by
        rw [← hd]
        simp [failures, Device.logged, hcommit]
      have hgo : ¬ret f.modeset.commit < 0 := by
        rw [hcommit]
        decide
      simp only [proceed, if_neg hgo]
      rcases finishFrame_cases (s := { s with device := d }) hreq f _ rfl with
        ⟨hneg, hkeep⟩ | ⟨hret, s', hsame, heq'⟩
      · have hall := hkeep.trans (resetDrmReq_sameModes f.destroys).toKeepsModes
        exact Or.inl ⟨hneg, hall.active, hall.desired, hblobs ▸ hall.blobs,
          Or.inr ⟨hneeds, hall.driver.trans hdriver⟩⟩
      · have hall := (applyDesired_applied (s := { s with device := d }) hneeds hdriver
          hsame).reset f.destroys
        rw [← heq'] at hall
        exact Or.inr ⟨hret, hall.active, hall.desired, hblobs ▸ hall.blobs, hall.driver,
          hall.failed.trans hfailed⟩
    · rw [if_pos hcommit] at hdriver
      have hneg : ret f.modeset.commit < 0 := ret_neg.mpr hcommit
      simp only [proceed, if_pos hneg]
      have hall := resetDrmReq_sameModes (s := { s with device := d }) f.destroys
      exact Or.inl ⟨hneg, hall.active, hall.desired, hblobs ▸ hall.blobs,
        Or.inl (hall.driver.trans hdriver)⟩

end Deliveries

/-! ### Agreement over a run -/

section Agreement

variable {k : Connector} {w w' : World} {s : Interface}

/-- What holds between the calls: while no request waits, the driver, the active state and the last
    request agree; a request that waits is the last one. -/
structure Agrees (k : Connector) (w : World) : Prop where
  active : Named k w.iface.device w.iface.mActiveModeState
  desired : Named k w.iface.device w.iface.mDesiredModeState
  driver : w.iface.device.modeBlob ≤ w.iface.device.blobs.length
  request : w.iface.mDrmReq.mode = none
  settled : w.iface.mDesiredModeState.needs_modeset = false →
    Settled w.iface ∧ w.iface.mActiveModeState.mode = w.requested
  pending : w.iface.mDesiredModeState.needs_modeset = true →
    w.iface.mDesiredModeState.blob_id ≠ 0 ∧ w.iface.mDesiredModeState.mode = w.requested

theorem Agrees.start (crtc : Nat) : Agrees k { iface := { crtcId := crtc } } :=
  ⟨Named.start, Named.start, Nat.zero_le _, rfl, fun _ => ⟨rfl, rfl⟩, fun h => nomatch h⟩

theorem driverMode_grow {d d' : Device} (hblobs : d.blobs <+: d'.blobs)
    (hmode : d'.modeBlob = d.modeBlob) (h : d.modeBlob ≤ d.blobs.length) :
    d'.driverMode = d.driverMode := by
  unfold Device.driverMode
  rw [hmode]
  exact modeInfo_grow hblobs h

/-- A call that leaves the modes, and asks for none or is refused. -/
theorem Agrees.keep (h : Agrees k w) (hkeep : KeepsModes w.iface w'.iface)
    (hreq : w'.requested = w.requested) : Agrees k w' := by
  refine ⟨?_, ?_, ?_, hkeep.request h.request, ?_, ?_⟩
  · rw [hkeep.active]
    exact h.active.grow hkeep.blobs
  · rw [hkeep.desired]
    exact h.desired.grow hkeep.blobs
  · rw [hkeep.driver]
    exact Nat.le_trans h.driver hkeep.blobs.length_le
  · rw [hkeep.desired, hreq]
    intro hneeds
    unfold Settled
    rw [driverMode_grow hkeep.blobs hkeep.driver h.driver, hkeep.active]
    exact h.settled hneeds
  · rw [hkeep.desired, hreq]
    exact h.pending

theorem sameMode_spec {config : Nat} (h : sameMode s config = true) :
    s.mActiveModeState.blob_id ≠ 0 ∧ s.mActiveModeState.mode.id = config := by
  simpa [sameMode] using h

/-- The mode that is desired after a request is the one asked for. -/
theorem Agrees.store (h : Agrees k w) {config : Nat} {mode : DrmMode} {e : Errno} {d d' : Device}
    {blob : Nat} (hfind : findMode k.modes config = some mode)
    (hblob : requestBlob w.iface mode config e = (d, blob, NO_ERROR)) (needs : Bool)
    (hd' : d'.blobs = d.blobs) (answers : Nat → Errno) :
    w.iface.device.blobs <+: d.blobs ∧
      Named k (stored w.iface d' needs mode blob answers).device
        (stored w.iface d' needs mode blob answers).mDesiredModeState ∧
      (stored w.iface d' needs mode blob answers).mDesiredModeState.blob_id ≠ 0 ∧
      (stored w.iface d' needs mode blob answers).mDesiredModeState.mode = mode := by
  rcases requestBlob_cases w.iface mode config e with ⟨-, -, heq⟩ | ⟨-, he, heq⟩ | ⟨hid, heq⟩
  · rw [heq] at hblob
    cases hblob
    have hne : w.iface.device.blobs.length + 1 ≠ 0 := Nat.succ_ne_zero _
    simp only [stored, if_pos hne]
    refine ⟨List.prefix_append _ _, ?_, hne, trivial⟩
    apply Named.new hfind
    have hblobs := (dropped_blobs d' w.iface.mDesiredModeState.old_blob_id answers).trans hd'
    exact hblobs ▸ List.prefix_rfl
  · rw [heq] at hblob
    simp only [Prod.mk.injEq] at hblob
    exact absurd (ret_eq_zero.mp hblob.2.2) he
  · rw [heq] at hblob
    cases hblob
    obtain ⟨hne, hmode⟩ := h.desired.mode_eq hfind hid
    simp only [stored, ne_eq, not_true_eq_false, if_false]
    refine ⟨List.prefix_rfl, ?_, hne, hmode⟩
    apply (h.desired.flag needs).grow
    exact hd' ▸ List.prefix_rfl

/-- A request that is stored, with the test of it or without. -/
theorem Agrees.stored (h : Agrees k w) {config : Nat} {mode : DrmMode} {e : Errno} {d d' : Device}
    {blob : Nat} (hfind : findMode k.modes config = some mode)
    (hblob : requestBlob w.iface mode config e = (d, blob, NO_ERROR)) (needs : Bool)
    (hd' : d'.blobs = d.blobs) (hdriver : d'.modeBlob = w.iface.device.modeBlob)
    (answers : Nat → Errno) (hw' : w'.iface = stored w.iface d' needs mode blob answers)
    (hsettled : needs = false →
      w.iface.mDesiredModeState.needs_modeset = false ∧ w'.requested = w.requested)
    (hpending : needs = true → w'.requested = mode) : Agrees k w' := by
  obtain ⟨hblobs, hdesired, hne, hmode⟩ := h.store hfind hblob needs hd' answers
  rw [← hw'] at hdesired hne hmode
  have hactive : w'.iface.mActiveModeState = w.iface.mActiveModeState := by
    rw [hw']
    unfold DrmModes.stored
    split <;> rfl
  have hneeds : w'.iface.mDesiredModeState.needs_modeset = needs := by
    rw [hw']
    unfold DrmModes.stored
    split <;> rfl
  have hreq : w'.iface.mDrmReq = w.iface.mDrmReq := by
    rw [hw']
    unfold DrmModes.stored
    split <;> rfl
  have hmodeBlob : w'.iface.device.modeBlob = w.iface.device.modeBlob := by
    rw [hw', ← hdriver]
    unfold DrmModes.stored
    split
    · exact modeBlob_congr (dropped_commits _ _ _)
    · rfl
  have hgrow : w.iface.device.blobs <+: w'.iface.device.blobs := by
    have heq : w'.iface.device.blobs = d.blobs := by
      rw [hw', ← hd']
      unfold DrmModes.stored
      split
      · exact dropped_blobs _ _ _
      · rfl
    rw [heq]
    exact hblobs
  refine ⟨?_, hdesired, ?_, hreq ▸ h.request, ?_, ?_⟩
  · rw [hactive]
    exact h.active.grow hgrow
  · rw [hmodeBlob]
    exact Nat.le_trans h.driver hgrow.length_le
  · intro hfalse
    obtain ⟨hw, hrequested⟩ := hsettled (hneeds ▸ hfalse)
    unfold Settled
    rw [driverMode_grow hgrow hmodeBlob h.driver, hactive, hrequested]
    exact h.settled hw
  · intro htrue
    exact ⟨hne, hmode.trans (hpending (hneeds ▸ htrue)).symm⟩

end Agreement

/-! ### Every call -/

section Calls

variable {k : Connector} {w : World}

theorem KeepsModes.refl (s : Interface) : KeepsModes s s := (SameModes.refl s).toKeepsModes

/-- A device with more blobs and the same mode. -/
theorem KeepsModes.device {s : Interface} {d : Device} (hblobs : s.device.blobs <+: d.blobs)
    (hdriver : d.modeBlob = s.device.modeBlob) : KeepsModes s { s with device := d } :=
  ⟨rfl, rfl, hblobs, hdriver, fun h => h⟩

theorem requestBlob_device {s : Interface} {mode : DrmMode} {config : Nat} {e : Errno} {d : Device}
    {blob : Nat} (h : requestBlob s mode config e = (d, blob, NO_ERROR)) :
    s.device.blobs <+: d.blobs ∧ d.commits = s.device.commits := by
  rcases requestBlob_cases s mode config e with ⟨-, -, heq⟩ | ⟨-, he, heq⟩ | ⟨-, heq⟩
  · rw [heq] at h
    cases h
    exact ⟨List.prefix_append _ _, rfl⟩
  · rw [heq] at h
    simp only [Prod.mk.injEq] at h
    exact absurd (ret_eq_zero.mp h.2.2) he
  · rw [heq] at h
    cases h
    exact ⟨List.prefix_rfl, rfl⟩

theorem Agrees.constraints (h : Agrees k w) (config : Nat) (test : Bool) (a : ModeAnswers)
    (hreg : RegularCall k w (.setActiveConfigWithConstraints config test a)) :
    Agrees k (step k w (.setActiveConfigWithConstraints config test a)) := by
  rcases setActiveConfigWithConstraints_cases k.modes w.iface config test a with
    ⟨r, heq, hr⟩ | ⟨mode, d, blob, used, hfind, hsame, hblob, -, hcases⟩
  · refine h.keep ?_ ?_
    · simp only [step, exec, heq]
      exact KeepsModes.refl _
    · simp only [step, exec, heq]
      rcases hr with rfl | ⟨rfl, hfound, hsame⟩
      · rfl
      · cases test with
        | true => rfl
        | false =>
          -- the active mode is asked for, and nothing waits
          obtain ⟨mode, hfind⟩ := Option.isSome_iff_exists.mp hfound
          have hquiet : w.iface.mDesiredModeState.needs_modeset = false := by
            rw [← Bool.not_eq_true]
            intro hneeds
            have hnot : sameMode w.iface config = false := hreg hneeds
            rw [hnot] at hsame
            cases hsame
          have hmode := (h.active.mode_eq hfind (sameMode_spec hsame).2).2
          simp only [asked, hfind, if_true, Option.getD_some, ← hmode]
          exact (h.settled hquiet).2
  · obtain ⟨hgrow, hcommits⟩ := requestBlob_device hblob
    have hdriver : d.modeBlob = w.iface.device.modeBlob := modeBlob_congr hcommits
    rcases hcases with ⟨rfl, -, r, hneg, heq⟩ | ⟨rfl, -, hcommit, heq⟩ | ⟨rfl, hadds, hcommit, heq⟩ |
      ⟨rfl, heq⟩
    · refine h.keep ?_ ?_
      · simp only [step, exec, heq]
        exact KeepsModes.device hgrow hdriver
      · simp [step, asked]
    · refine h.keep ?_ ?_
      · simp only [step, exec, heq]
        apply KeepsModes.device
        · rw [dropped_blobs]
          exact hgrow
        · rw [modeBlob_congr (dropped_commits _ _ _), modeBlob_logged]
          exact hdriver
      · simp [step, asked]
    · have hrequested : (step k w (.setActiveConfigWithConstraints config true a)).requested =
          w.requested := by
        simp [step, asked]
      have hlogged : (d.logged true used a.commit).modeBlob = w.iface.device.modeBlob := by
        rw [modeBlob_logged]
        exact hdriver
      have hblobs : (d.logged true used a.commit).blobs = d.blobs := rfl
      refine h.stored hfind hblob w.iface.mDesiredModeState.needs_modeset hblobs hlogged a.destroys
        ?_ ?_ ?_
      · simp only [step, exec, heq]
      · intro hquiet
        exact ⟨hquiet, hrequested⟩
      · intro hneeds
        rw [hrequested]
        -- a request waits, so that the test is of its mode
        have hid : w.iface.mDesiredModeState.mode.id = config := by
          apply Decidable.byContradiction
          intro hne
          apply hreg hneeds (by rw [hfind]; rfl) hne hsame
          refine ⟨?_, hadds, hcommit⟩
          rcases requestBlob_cases w.iface mode config a.create with ⟨-, hc, -⟩ | ⟨-, hc, hb⟩ | ⟨hid, -⟩
          · exact hc
          · rw [hblob] at hb
            simp only [Prod.mk.injEq] at hb
            exact absurd (ret_eq_zero.mp hb.2.2.symm) hc
          · exact absurd hid hne
        rw [← (h.pending hneeds).2]
        exact (h.desired.mode_eq hfind hid).2
    · have hrequested : (step k w (.setActiveConfigWithConstraints config false a)).requested =
          mode := by
        simp [step, exec, heq, asked, hfind]
      refine h.stored hfind hblob true rfl hdriver a.destroys ?_ (fun h => nomatch h)
        fun _ => hrequested
      simp only [step, exec, heq]

theorem Agrees.setActiveConfig (h : Agrees k w) (config : Nat) (a : ModeAnswers)
    (hreg : RegularCall k w (.setActiveConfig config a)) :
    Agrees k (step k w (.setActiveConfig config a)) := by
  cases hfind : findMode k.modes config with
  | none =>
    have heq : exec k.modes w.iface (.setActiveConfig config a) =
        (w.iface, HWC2_ERROR_BAD_CONFIG) := by
      simp only [exec, DrmModes.setActiveConfig, hfind]
    refine h.keep ?_ ?_
    · simp only [step, heq]
      exact KeepsModes.refl _
    · simp only [step, heq]
      rfl
  | some mode =>
    have hid := id_of_findMode hfind
    have hrequested : (step k w (.setActiveConfig config a)).requested = mode := by
      simp [step, exec, DrmModes.setActiveConfig, asked, hfind, HWC2_ERROR_NONE]
    have hiface : (step k w (.setActiveConfig config a)).iface =
        resetConfigRequestState (setActiveDrmMode w.iface mode a).1 := by
      simp [step, exec, DrmModes.setActiveConfig, hfind]
    have hgo : if sameMode w.iface config then Settled w.iface
        else a.create = 0 ∧ a.addsOk ∧ a.commit = 0 := hreg (by rw [hfind]; rfl)
    rcases setActiveDrmMode_cases w.iface mode a with ⟨hsame, heq⟩ | ⟨hsame, hcases⟩
    · rw [hid] at hsame
      rw [if_pos hsame] at hgo
      rw [heq] at hiface
      have hmode := (h.active.mode_eq hfind (sameMode_spec hsame).2).2
      refine ⟨?_, ?_, ?_, ?_, ?_, ?_⟩
      · rw [hiface]
        exact h.active
      · rw [hiface]
        exact h.desired.flag false
      · rw [hiface]
        exact h.driver
      · rw [hiface]
        exact h.request
      · intro _
        rw [hiface, hrequested]
        exact ⟨hgo, hmode⟩
      · rw [hiface]
        intro hneeds
        cases hneeds
    · rw [hid] at hsame
      rw [hsame, if_neg Bool.false_ne_true] at hgo
      obtain ⟨hcreate, hadds, hcommit⟩ := hgo
      rcases hcases with ⟨hc, -⟩ | ⟨-, hc, -⟩ | ⟨-, -, hc, -⟩ | ⟨-, -, -, heq⟩
      · exact absurd hcreate hc
      · exact absurd hadds hc
      · exact absurd hcommit hc
      · rw [heq, hcommit] at hiface
        have hblobs : (step k w (.setActiveConfig config a)).iface.device.blobs =
            (w.iface.device.withMode mode).blobs := by
          rw [hiface]
          exact dropped_blobs _ _ _
        have hdriver : (step k w (.setActiveConfig config a)).iface.device.modeBlob =
            w.iface.device.blobs.length + 1 := by
          rw [hiface]
          exact (modeBlob_congr (dropped_commits _ _ _)).trans (modeBlob_logged _ _ _ _)
        have hactive : Named k (step k w (.setActiveConfig config a)).iface.device
            (step k w (.setActiveConfig config a)).iface.mActiveModeState := by
          rw [hiface]
          rw [hiface] at hblobs
          apply Named.new (hid.symm ▸ hfind)
          exact hblobs ▸ List.prefix_rfl
        refine ⟨hactive, ?_, ?_, ?_, ?_, ?_⟩
        · have hgrow : w.iface.device.blobs <+:
              (step k w (.setActiveConfig config a)).iface.device.blobs := by
            rw [hblobs]
            exact List.prefix_append _ _
          have hdesired := (h.desired.flag false).grow hgrow
          rw [hiface] at hdesired ⊢
          exact hdesired
        · rw [hdriver, hblobs]
          simp [Device.withMode]
        · rw [hiface]
          exact h.request
        · intro _
          rw [hrequested]
          unfold Settled Device.driverMode
          rw [hdriver, ← hactive.info, hiface]
          exact ⟨rfl, rfl⟩
        · rw [hiface]
          intro hneeds
          cases hneeds

theorem Agrees.resetConfigRequestState (h : Agrees k w)
    (hreg : RegularCall k w .resetConfigRequestState) :
    Agrees k (step k w .resetConfigRequestState) := by
  have hquiet : w.iface.mDesiredModeState.needs_modeset = false := hreg
  refine h.keep ⟨rfl, ?_, List.prefix_rfl, rfl, fun h => h⟩ rfl
  simp only [step, exec, DrmModes.resetConfigRequestState, ← hquiet]

theorem Agrees.deliver (h : Agrees k w) (f : Frame) :
    Agrees k (step k w (.deliverWinConfigData f)) := by
  have hrequested : (step k w (.deliverWinConfigData f)).requested = w.requested := by
    simp [step, asked]
  by_cases hneeds : w.iface.mDesiredModeState.needs_modeset = true
  · have hmode : (step k w (.deliverWinConfigData f)).iface.mDrmReq.mode = none :=
      resetDrmReq_mode _ _
    rcases deliver_pending hneeds h.request f with ⟨-, hfailed⟩ | ⟨-, happlied⟩
    · refine ⟨?_, ?_, ?_, hmode, ?_, ?_⟩
      · exact hfailed.active ▸ h.active.grow hfailed.blobs
      · exact hfailed.desired ▸ h.desired.grow hfailed.blobs
      · rcases hfailed.driver with hdriver | ⟨-, hdriver⟩
        · exact hdriver ▸ Nat.le_trans h.driver hfailed.blobs.length_le
        · exact hdriver ▸ Nat.le_trans h.desired.made hfailed.blobs.length_le
      · intro hquiet
        have hfalse := (congrArg ModeState.needs_modeset hfailed.desired).symm.trans hquiet
        rw [hneeds] at hfalse
        cases hfalse
      · intro _
        rw [hrequested]
        exact hfailed.desired ▸ h.pending hneeds
    · have hactive : Named k (step k w (.deliverWinConfigData f)).iface.device
          (step k w (.deliverWinConfigData f)).iface.mActiveModeState := by
        have hgrown := h.desired.grow happlied.blobs
        exact happlied.active ▸ ⟨hgrown.made, hgrown.info, hgrown.known, hgrown.none⟩
      refine ⟨hactive, happlied.desired ▸ Named.start, ?_, hmode, ?_, ?_⟩
      · exact happlied.driver ▸ Nat.le_trans h.desired.made happlied.blobs.length_le
      · intro _
        have hblob : (step k w (.deliverWinConfigData f)).iface.device.modeBlob =
            (step k w (.deliverWinConfigData f)).iface.mActiveModeState.blob_id :=
          happlied.driver.trans (congrArg ModeState.blob_id happlied.active).symm
        have hnow : (step k w (.deliverWinConfigData f)).iface.mActiveModeState.mode =
            w.iface.mDesiredModeState.mode := by
          change (deliverWinConfigData w.iface f).1.mActiveModeState.mode = _
          rw [happlied.active]
        refine ⟨?_, ?_⟩
        · unfold Settled Device.driverMode
          rw [hblob]
          exact hactive.info
        · rw [hnow, hrequested]
          exact (h.pending hneeds).2
      · intro hpending
        have hfalse := (congrArg ModeState.needs_modeset happlied.desired).symm.trans hpending
        cases hfalse
  · rw [Bool.not_eq_true] at hneeds
    rcases deliver_quiet hneeds h.request f with ⟨-, hkeep⟩ | ⟨-, hsame⟩
    · exact h.keep hkeep hrequested
    · exact h.keep hsame.toKeepsModes hrequested

theorem Agrees.next (h : Agrees k w) (c : Call) (hreg : RegularCall k w c) :
    Agrees k (step k w c) := by
  cases c with
  | setActiveConfigWithConstraints config test a => exact h.constraints config test a hreg
  | setActiveConfig config a => exact h.setActiveConfig config a hreg
  | resetConfigRequestState => exact h.resetConfigRequestState hreg
  | deliverWinConfigData f => exact h.deliver f
  | setActiveDrmMode mode a => exact hreg.elim
  | clearActiveDrmMode a => exact hreg.elim

theorem RegularlyReached.agrees (h : RegularlyReached k w) : Agrees k w := by
  refine Reachable.invariant ?_ ?_ h
  · rintro w ⟨crtc, rfl⟩
    exact Agrees.start crtc
  · rintro w c w' hw ⟨hreg, rfl⟩
    exact hw.next c hreg

/-- A commit that fails is not counted. -/
theorem failures_logged {d : Device} (testOnly : Bool) (blob : Nat) {e : Errno} (h : e = 0) :
    failures (d.logged testOnly blob e) = failures d := by
  simp [failures, Device.logged, h]

theorem failures_congr {d d' : Device} (h : d'.commits = d.commits) : failures d' = failures d := by
  unfold failures
  rw [h]

theorem stored_failures (s : Interface) (d : Device) (needs : Bool) (mode : DrmMode) (blob : Nat)
    (answers : Nat → Errno) :
    failures (stored s d needs mode blob answers).device = failures d := by
  unfold stored
  split
  · exact failures_congr (dropped_commits _ _ _)
  · rfl

/-- A call that returns success had no commit that failed. -/
theorem Agrees.failures_eq (h : Agrees k w) (c : Call) (hreg : RegularCall k w c)
    (hret : (exec k.modes w.iface c).2 = NO_ERROR) :
    failures (exec k.modes w.iface c).1.device = failures w.iface.device := by
  cases c with
  | setActiveConfigWithConstraints config test a =>
    simp only [exec] at hret ⊢
    rcases setActiveConfigWithConstraints_cases k.modes w.iface config test a with
      ⟨r, heq, -⟩ | ⟨mode, d, blob, used, -, -, hblob, -, hcases⟩
    · rw [heq]
    · have hcommits := (requestBlob_device hblob).2
      rcases hcases with ⟨-, -, r, hneg, heq⟩ | ⟨-, -, hcommit, heq⟩ | ⟨-, -, hcommit, heq⟩ |
        ⟨-, heq⟩
      · rw [heq]
        exact failures_congr hcommits
      · rw [heq] at hret
        exact absurd (ret_eq_zero.mp hret) hcommit
      · rw [heq]
        simp only [stored_failures, failures_logged true used hcommit]
        exact failures_congr hcommits
      · rw [heq]
        simp only [stored_failures]
        exact failures_congr hcommits
  | setActiveConfig config a =>
    simp only [exec, DrmModes.setActiveConfig] at hret ⊢
    cases hfind : findMode k.modes config with
    | none => rfl
    | some mode =>
      have hgo : if sameMode w.iface config then Settled w.iface
          else a.create = 0 ∧ a.addsOk ∧ a.commit = 0 := hreg (by rw [hfind]; rfl)
      rw [← id_of_findMode hfind] at hgo
      simp only [DrmModes.resetConfigRequestState]
      rcases setActiveDrmMode_cases w.iface mode a with ⟨-, heq⟩ | ⟨hsame, hcases⟩
      · rw [heq]
      · rw [hsame, if_neg Bool.false_ne_true] at hgo
        obtain ⟨hcreate, hadds, hcommit⟩ := hgo
        rcases hcases with ⟨hc, -⟩ | ⟨-, hc, -⟩ | ⟨-, -, hc, -⟩ | ⟨-, -, -, heq⟩
        · exact absurd hcreate hc
        · exact absurd hadds hc
        · exact absurd hcommit hc
        · rw [heq]
          exact (failures_congr (dropped_commits _ _ _)).trans (failures_logged _ _ hcommit)
  | resetConfigRequestState => rfl
  | deliverWinConfigData f =>
    simp only [exec] at hret ⊢
    by_cases hneeds : w.iface.mDesiredModeState.needs_modeset = true
    · rcases deliver_pending hneeds h.request f with ⟨hneg, -⟩ | ⟨-, happlied⟩
      · exact absurd hret (Int.ne_of_lt hneg)
      · exact happlied.failed
    · rw [Bool.not_eq_true] at hneeds
      rcases deliver_quiet hneeds h.request f with ⟨hneg, -⟩ | ⟨-, hsame⟩
      · exact absurd hret (Int.ne_of_lt hneg)
      · exact hsame.failed
  | setActiveDrmMode mode a => exact hreg.elim
  | clearActiveDrmMode a => exact hreg.elim

end Calls

/-! ### The modes agree -/

section Theorem

variable {k : Connector} {w : World}

theorem needs_of_test (s : Interface) (config : Nat) (a : ModeAnswers) :
    (setActiveConfigWithConstraints k.modes s config true a).1.mDesiredModeState.needs_modeset =
      s.mDesiredModeState.needs_modeset := by
  rcases setActiveConfigWithConstraints_cases k.modes s config true a with
    ⟨r, heq, -⟩ | ⟨mode, d, blob, used, -, -, -, -, hcases⟩
  · rw [heq]
  · rcases hcases with ⟨-, -, r, -, heq⟩ | ⟨-, -, -, heq⟩ | ⟨-, -, -, heq⟩ | ⟨htest, -⟩
    · rw [heq]
    · rw [heq]
    · rw [heq]
      unfold stored
      split <;> rfl
    · cases htest

/-- A test changes no request that waits. -/
theorem Agrees.pendingMode_eq (h : Agrees k w) (config : Nat) (a : ModeAnswers)
    (hreg : RegularCall k w (.setActiveConfigWithConstraints config true a)) :
    pendingMode (setActiveConfigWithConstraints k.modes w.iface config true a).1 =
      pendingMode w.iface := by
  have hflag := needs_of_test (k := k) w.iface config a
  by_cases hneeds : w.iface.mDesiredModeState.needs_modeset = true
  · -- before and after, what waits is the last request
    have hnext := h.constraints config true a hreg
    have hrequested : (step k w (.setActiveConfigWithConstraints config true a)).requested =
        w.requested := by
      simp [step, asked]
    have hinfo := hnext.desired.info
    rw [(hnext.pending (hflag.trans hneeds)).2, hrequested, ← (h.pending hneeds).2,
      ← h.desired.info] at hinfo
    simp only [pendingMode, hflag, hneeds, if_true]
    exact congrArg some hinfo
  · simp only [pendingMode, hflag, if_neg hneeds]

/-- **Mode agreement.** In a run of regular calls a frame that goes out leaves driver and active
    state on the mode that was last asked for; a test leaves the mode that waits for a frame; and
    no call whose commit failed returns success. -/
theorem modes_agree (h : RegularlyReached k w) :
    (∀ f, (deliverWinConfigData w.iface f).2 = NO_ERROR →
      (deliverWinConfigData w.iface f).1.device.driverMode =
          ToDrmModeModeInfo (deliverWinConfigData w.iface f).1.mActiveModeState.mode ∧
        (deliverWinConfigData w.iface f).1.mActiveModeState.mode = w.requested) ∧
      (∀ config a, RegularCall k w (.setActiveConfigWithConstraints config true a) →
        pendingMode (setActiveConfigWithConstraints k.modes w.iface config true a).1 =
          pendingMode w.iface) ∧
      ∀ c, RegularCall k w c →
        failures w.iface.device < failures (exec k.modes w.iface c).1.device →
          (exec k.modes w.iface c).2 ≠ NO_ERROR := by
  have hw := h.agrees
  refine ⟨?_, fun config a hreg => hw.pendingMode_eq config a hreg, ?_⟩
  · intro f hret
    have hnext := hw.deliver f
    have hquiet : (deliverWinConfigData w.iface f).1.mDesiredModeState.needs_modeset = false := by
      by_cases hneeds : w.iface.mDesiredModeState.needs_modeset = true
      · rcases deliver_pending hneeds hw.request f with ⟨hneg, -⟩ | ⟨-, happlied⟩
        · exact absurd hret (Int.ne_of_lt hneg)
        · rw [happlied.desired]
      · rw [Bool.not_eq_true] at hneeds
        rcases deliver_quiet hneeds hw.request f with ⟨hneg, -⟩ | ⟨-, hsame⟩
        · exact absurd hret (Int.ne_of_lt hneg)
        · rw [hsame.desired, hneeds]
    obtain ⟨hsettled, hmode⟩ := hnext.settled hquiet
    refine ⟨hsettled, hmode.trans ?_⟩
    simp [step, asked]
  · intro c hreg hlt hret
    rw [hw.failures_eq c hreg hret] at hlt
    exact Nat.lt_irrefl _ hlt

end Theorem

/-! ### A mode nobody asked for -/

def panelMode (id vrefresh : Nat) : DrmMode := { id := id, timing := { vrefresh := vrefresh } }

/-- A panel with 60, 90 and 120 frames a second. -/
def panel : Connector := ⟨[panelMode 1 60, panelMode 2 90, panelMode 3 120], by decide⟩

def runCalls (calls : List Call) : World := calls.foldl (step panel) {}

/-- The panel is on the first mode, and the second was asked for. -/
def secondWaits : List Call :=
  [.setActiveConfig 1 {}, .setActiveConfigWithConstraints 2 false {}]

/-- The second mode is delivered. -/
theorem secondMode_agrees :
    (deliverWinConfigData (runCalls secondWaits).iface {}).1.device.driverMode =
        ToDrmModeModeInfo (panelMode 2 90) ∧
      (deliverWinConfigData (runCalls secondWaits).iface {}).1.mActiveModeState.mode =
        panelMode 2 90 := by
  have hstart : RegularlyReached panel {} := Reachable.start ⟨0, rfl⟩
  have hreg : RegularCall panel {} (.setActiveConfig 1 {}) := fun _ => ⟨rfl, ⟨rfl, rfl⟩, rfl⟩
  have hfirst : RegularlyReached panel (runCalls [.setActiveConfig 1 {}]) :=
    Reachable.next hstart ⟨hreg, rfl⟩
  have hsecond : RegularlyReached panel (runCalls secondWaits) := by
    refine Reachable.next hfirst ⟨?_, rfl⟩
    intro hneeds
    cases hneeds
  obtain ⟨hdriver, hmode⟩ := (modes_agree hsecond).1 {} (by decide +kernel)
  have hrequested : (runCalls secondWaits).requested = panelMode 2 90 := by decide +kernel
  rw [hrequested] at hmode
  rw [hmode] at hdriver
  exact ⟨hdriver, hmode⟩

/-- The frame's answer, the driver's mode, the active mode and the requested one. -/
def delivered (calls : List Call) : Int × Nat × Nat × Nat :=
  let w := runCalls calls
  let r := deliverWinConfigData w.iface {}
  (r.2, r.1.device.driverMode.vrefresh, r.1.mActiveModeState.mode.timing.vrefresh,
    w.requested.timing.vrefresh)

/-- **Modes that disagree.** A test that passes while the second mode waits has the third one
    delivered; a request for the active mode, and a reset, are not what the next frame follows; a
    mode that went to the driver before its frame failed stays there when the active mode is asked
    for again; and a request whose commit failed returns success. -/
theorem modes_disagree :
    delivered (secondWaits ++ [.setActiveConfigWithConstraints 3 true {}]) = (0, 120, 120, 90) ∧
      delivered (secondWaits ++ [.setActiveConfigWithConstraints 1 false {}]) = (0, 90, 90, 60) ∧
      delivered (secondWaits ++ [.resetConfigRequestState]) = (0, 60, 60, 90) ∧
      delivered (secondWaits ++ [.deliverWinConfigData { commit := 5 }, .setActiveConfig 1 {}]) =
        (0, 90, 60, 60) ∧
      (let w := runCalls [.setActiveConfig 1 {}]
        let r := exec panel.modes w.iface (.setActiveConfig 2 { commit := 22 })
        failures w.iface.device < failures r.1.device ∧ r.2 = NO_ERROR) := by
  decide +kernel

end ExynosHal.ModeAgreement
