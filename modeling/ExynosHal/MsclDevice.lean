/-
  ExynosHal/MsclDevice.lean
  =========================
  **A memory-to-memory scaler as the compositors of `libacryl` drive it.**

  `AcrylicCompositorMSCL9810` and `AcrylicCompositorMSCL3830` share what is here:
  two queues, the controls of the transform, the protection and the conversion
  of colours.  What else a compositor keeps is the `rest` of a `Scaler`.  `Holds`
  is what is known of a device in the middle of an execute, part by part; every
  step has a rule that changes the parts it works on.
-/
import ExynosHal.AcrylFormats
import ExynosHal.HalTransform
import ExynosHal.ScalerQueue

namespace ExynosHal.MsclDevice

open ExynosHal ExynosHal.AcrylSettings ExynosHal.AcrylFormats ExynosHal.HalTransform
open ExynosHal.Fallible ExynosHal.ScalerQueue ExynosHal.ScalerQueue.Side

/-- `VIDIOC_S_CTRL`, if the value is to be set. -/
def setCtrl {σ : Type} (needed ok : Bool) (set : σ → σ) (s : σ) : σ × Bool :=
  if needed then if ok then (set s, true) else (s, false) else (s, true)

/-- One thing for either direction. -/
structure Both (α : Type) where
  source : α
  target : α
deriving DecidableEq, Repr

def Both.all {α : Type} (a : α) : Both α := ⟨a, a⟩

/-! ### The transform -/

/-- The transform that is recorded and the controls of the driver; `rotate` is 90 degrees or none. -/
structure Orientation where
  mCurrentTransform : BitVec 32 := 0
  mTransformChanged : Bool := false
  hflip : Bool := false
  vflip : Bool := false
  rotate : Bool := false
deriving DecidableEq, Repr

/-- What comes of setting the three controls. -/
structure TransformReplies where
  hflip : Bool := true
  vflip : Bool := true
  rotate : Bool := true
deriving DecidableEq, Repr

/-- The controls that are set are set successfully. -/
structure TransformReplies.Pass (r : TransformReplies) (trdiff : BitVec 32) : Prop where
  hflip : hFlip trdiff = true → r.hflip = true
  vflip : vFlip trdiff = true → r.vflip = true
  rotate : rotates trdiff = true → r.rotate = true

/-- What comes of taking the buffers back from both directions, and of the conversion. -/
structure ResetReplies where
  streamoff : Both Bool := .all true
  reqbufs : Both Bool := .all true
  csc : Bool × Bool := (true, true)
deriving DecidableEq, Repr

namespace Orientation

def setTransform (transform : BitVec 32) (r : TransformReplies) (o : Orientation) : Orientation × Bool :=
  let trdiff := o.mCurrentTransform ^^^ transform
  let o := { o with mTransformChanged := trdiff ≠ 0 }
  andThen (setCtrl (hFlip trdiff) r.hflip (fun o => { o with hflip := hFlip transform }) o) fun o =>
  andThen (setCtrl (vFlip trdiff) r.vflip (fun o => { o with vflip := vFlip transform }) o) fun o =>
  andThen (setCtrl (rotates trdiff) r.rotate (fun o => { o with rotate := rotates transform }) o) fun o =>
  ({ o with mCurrentTransform := transform }, true)

/-- The controls are those of a transform. -/
structure Shows (transform : BitVec 32) (o : Orientation) : Prop where
  hflip : o.hflip = hFlip transform
  vflip : o.vflip = vFlip transform
  rotate : o.rotate = rotates transform

/-- **Where the record agrees with a transform** and nothing is set, so does the driver. -/
structure Agrees (transform : BitVec 32) (o : Orientation) : Prop where
  hflip : hFlip (o.mCurrentTransform ^^^ transform) = false → o.hflip = hFlip transform
  vflip : vFlip (o.mCurrentTransform ^^^ transform) = false → o.vflip = vFlip transform
  rotate : rotates (o.mCurrentTransform ^^^ transform) = false → o.rotate = rotates transform

variable {o : Orientation} {transform : BitVec 32}

theorem setCtrl_ends {σ : Type} {needed ok : Bool} {set : σ → σ} {s : σ} {P : σ → Prop}
    (hset : needed = true → P (set s)) (hkeep : needed = false → P s) :
    Ends (setCtrl needed ok set s) (fun _ => True) (fun t => P t ∧ (needed = true → ok = true)) := by
  unfold setCtrl
  cases needed with
  | false => exact ends_success ⟨hkeep rfl, fun h => nomatch h⟩
  | true =>
    cases ok with
    | false => exact ends_failure trivial
    | true => exact ends_success ⟨hset rfl, fun _ => rfl⟩

theorem setTransform_ends (r : TransformReplies) (h : o.Agrees transform) :
    Ends (o.setTransform transform r) (fun _ => True) (fun o' => o'.Shows transform ∧
      o'.mTransformChanged = decide (o.mCurrentTransform ^^^ transform ≠ 0) ∧
      r.Pass (o.mCurrentTransform ^^^ transform)) := by
  unfold setTransform
  -- One control after the other shows the transform.
  refine Ends.andThen (setCtrl_ends (P := fun o' => o'.hflip = hFlip transform ∧ o'.vflip = o.vflip ∧
    o'.rotate = o.rotate ∧ o'.mTransformChanged = decide (o.mCurrentTransform ^^^ transform ≠ 0))
    (fun _ => ⟨rfl, rfl, rfl, rfl⟩) fun hsame => ⟨h.hflip hsame, rfl, rfl, rfl⟩) fun o₁ h₁ => ?_
  obtain ⟨⟨hh, hv, hr, hchanged⟩, hpassH⟩ := h₁
  refine Ends.andThen (setCtrl_ends (P := fun o' => o'.hflip = hFlip transform ∧
    o'.vflip = vFlip transform ∧ o'.rotate = o.rotate ∧
    o'.mTransformChanged = decide (o.mCurrentTransform ^^^ transform ≠ 0))
    (fun _ => ⟨hh, rfl, hr, hchanged⟩) fun hsame => ⟨hh, hv.trans (h.vflip hsame), hr, hchanged⟩)
    fun o₂ h₂ => ?_
  obtain ⟨⟨hh, hv, hr, hchanged⟩, hpassV⟩ := h₂
  refine Ends.andThen (setCtrl_ends (P := fun o' => o'.Shows transform ∧
    o'.mTransformChanged = decide (o.mCurrentTransform ^^^ transform ≠ 0))
    (fun _ => ⟨⟨hh, hv, rfl⟩, hchanged⟩) fun hsame => ⟨⟨hh, hv, hr.trans (h.rotate hsame)⟩, hchanged⟩)
    fun o₃ h₃ => ?_
  obtain ⟨⟨hshows, hchanged⟩, hpassR⟩ := h₃
  exact ends_success ⟨⟨hshows.hflip, hshows.vflip, hshows.rotate⟩, hchanged, hpassH, hpassV, hpassR⟩

end Orientation

/-! ### The conversion of colours -/

/-- The controls of the conversion. -/
structure Csc where
  eq : Option Colorspace := none
  range : Option Bool := none
deriving DecidableEq, Repr

def Csc.configure (eq : Colorspace) (range : Bool) (okEq okRange : Bool) (c : Csc) : Csc × Bool :=
  andThen (setCtrl true okEq (fun c => { c with eq := some eq }) c) fun c =>
  setCtrl true okRange (fun c => { c with range := some range }) c

theorem Csc.configure_ends (eq : Colorspace) (range okEq okRange : Bool) (c : Csc) :
    Ends (c.configure eq range okEq okRange) (fun _ => True) (fun c => c = ⟨some eq, some range⟩) := by
  cases okEq with
  | false => exact ends_failure trivial
  | true =>
    cases okRange with
    | false => exact ends_failure trivial
    | true => exact ends_success rfl

/-- Controls that are right already stay so. -/
theorem Csc.configure_keeps (eq : Colorspace) (range okEq okRange : Bool) :
    (Csc.configure eq range okEq okRange ⟨some eq, some range⟩).1 = ⟨some eq, some range⟩ := by
  cases okEq <;> cases okRange <;> rfl

/-! ### The device -/

/-- What comes of giving a direction its buffers. -/
structure PrepareReplies where
  reqbufs : Bool := true
  streamon : Bool := true
  /-- The second `VIDIOC_REQBUFS`. -/
  cancel : Bool := true
deriving DecidableEq, Repr

structure Scaler (F X : Type) where
  orientation : Orientation := {}
  mProtectedContent : Bool := false
  /-- `V4L2_CID_CONTENT_PROTECTION` of the driver. -/
  protection : Bool := false
  csc : Csc := {}
  source : Side F := .created
  target : Side F := .created
  rest : X
deriving DecidableEq, Repr

variable {F X : Type}

namespace Scaler

def onSource (f : Side F → Side F × Bool) : Scaler F X → Scaler F X × Bool :=
  within Scaler.source (fun q d => { d with source := q }) f

def onTarget (f : Side F → Side F × Bool) : Scaler F X → Scaler F X × Bool :=
  within Scaler.target (fun q d => { d with target := q }) f

def dequeueBuffer (ok : Both Bool) (d : Scaler F X) : Scaler F X × Bool :=
  andThen (onSource (Side.dequeueBuffer ok.source) d) (onTarget (Side.dequeueBuffer ok.target))

def setTransform (transform : BitVec 32) (r : TransformReplies) : Scaler F X → Scaler F X × Bool :=
  within Scaler.orientation (fun o d => { d with orientation := o }) (Orientation.setTransform transform r)

/-- Both directions, whatever comes of it. -/
def resetModes (r : ResetReplies) (d : Scaler F X) : Scaler F X :=
  let d := (onSource (Side.resetMode r.streamoff.source r.reqbufs.source) d).1
  (onTarget (Side.resetMode r.streamoff.target r.reqbufs.target) d).1

def configureCSC (eq : Colorspace) (range : Bool) (ok : Bool × Bool) : Scaler F X → Scaler F X × Bool :=
  within Scaler.csc (fun c d => { d with csc := c }) (Csc.configure eq range ok.1 ok.2)

def protect (isProtected ok : Bool) (d : Scaler F X) : Scaler F X × Bool :=
  setCtrl (isProtected ≠ d.mProtectedContent) ok
    (fun d => { d with protection := isProtected, mProtectedContent := isProtected }) d

def prepareBuffers (w : Both (Want F)) (r : Both PrepareReplies) (d : Scaler F X) : Scaler F X × Bool :=
  andThen (onSource (Side.prepareExecute w.source r.source.reqbufs r.source.streamon r.source.cancel) d)
    (onTarget (Side.prepareExecute w.target r.target.reqbufs r.target.streamon r.target.cancel))

def setQbuf (d : Scaler F X) : Scaler F X := { d with source := d.source.setQbuf, target := d.target.setQbuf }

/-! ### What holds of a device -/

/-- **The parts of a device**, with `p` the protection that is recorded. -/
structure Holds (A B : Side F → Prop) (O : Orientation → Prop) (p : Bool) (R : Csc → X → Prop)
    (d : Scaler F X) : Prop where
  source : A d.source
  target : B d.target
  orientation : O d.orientation
  recorded : d.mProtectedContent = p
  protection : d.protection = p
  rest : R d.csc d.rest

variable {A A' A'' B B' B'' : Side F → Prop} {O O' O'' : Orientation → Prop} {p : Bool}
variable {R R' R'' : Csc → X → Prop} {d : Scaler F X} {w : Both (Want F)}

theorem Holds.mono (h : Holds A B O p R d) (hA : ∀ q, A q → A' q) (hB : ∀ q, B q → B' q)
    (hO : ∀ o, O o → O' o) (hR : ∀ c x, R c x → R' c x) : Holds A' B' O' p R' d :=
  ⟨hA _ h.source, hB _ h.target, hO _ h.orientation, h.recorded, h.protection, hR _ _ h.rest⟩

theorem Holds.onSource {f : Side F → Side F × Bool} (h : Holds A B O p R d)
    (hf : Ends (f d.source) A' A'') :
    Ends (Scaler.onSource f d) (Holds A' B O p R) (Holds A'' B O p R) :=
  hf.within (fun _ hq => ⟨hq, h.target, h.orientation, h.recorded, h.protection, h.rest⟩)
    (fun _ hq => ⟨hq, h.target, h.orientation, h.recorded, h.protection, h.rest⟩)

theorem Holds.onTarget {f : Side F → Side F × Bool} (h : Holds A B O p R d)
    (hf : Ends (f d.target) B' B'') :
    Ends (Scaler.onTarget f d) (Holds A B' O p R) (Holds A B'' O p R) :=
  hf.within (fun _ hq => ⟨h.source, hq, h.orientation, h.recorded, h.protection, h.rest⟩)
    (fun _ hq => ⟨h.source, hq, h.orientation, h.recorded, h.protection, h.rest⟩)

/-- One direction after the other. -/
theorem Holds.onBoth {f g : Side F → Side F × Bool} (h : Holds A B O p R d)
    (hf : Ends (f d.source) A A'') (hg : ∀ q, B q → Ends (g q) B B'') (hA : ∀ q, A'' q → A q) :
    Ends (andThen (Scaler.onSource f d) (Scaler.onTarget g)) (Holds A B O p R) (Holds A'' B'' O p R) := by
  refine (h.onSource hf).andThen fun d' h' => ?_
  refine (h'.onTarget (hg _ h'.target)).mono (fun d'' h'' => ?_) fun d'' h'' => h''
  exact h''.mono hA (fun _ hq => hq) (fun _ ho => ho) fun _ _ hr => hr

theorem Holds.setTransform {transform : BitVec 32} (r : TransformReplies) (h : Holds A B O p R d)
    (hagrees : d.orientation.Agrees transform) :
    Ends (d.setTransform transform r) (Holds A B (fun _ => True) p R)
      (Holds A B (fun o => o.Shows transform ∧
        o.mTransformChanged = decide (d.orientation.mCurrentTransform ^^^ transform ≠ 0) ∧
        r.Pass (d.orientation.mCurrentTransform ^^^ transform)) p R) :=
  (Orientation.setTransform_ends r hagrees).within
    (fun _ ho => ⟨h.source, h.target, ho, h.recorded, h.protection, h.rest⟩)
    (fun _ ho => ⟨h.source, h.target, ho, h.recorded, h.protection, h.rest⟩)

theorem Holds.resetModes {r : ResetReplies} (h : Holds A B O p R d)
    (hsource : A' (d.source.resetMode r.streamoff.source r.reqbufs.source).1)
    (htarget : B' (d.target.resetMode r.streamoff.target r.reqbufs.target).1) :
    Holds A' B' O p R (d.resetModes r) :=
  ⟨hsource, htarget, h.orientation, h.recorded, h.protection, h.rest⟩

theorem Holds.configureCSC {eq : Colorspace} {range : Bool} (ok : Bool × Bool) (h : Holds A B O p R d)
    (hfail : ∀ c, R' c d.rest) (hok : R'' ⟨some eq, some range⟩ d.rest) :
    Ends (d.configureCSC eq range ok) (Holds A B O p R') (Holds A B O p R'') :=
  (Csc.configure_ends eq range ok.1 ok.2 d.csc).within
    (fun c _ => ⟨h.source, h.target, h.orientation, h.recorded, h.protection, hfail c⟩)
    (fun _ hc => ⟨h.source, h.target, h.orientation, h.recorded, h.protection, hc ▸ hok⟩)

theorem Holds.protect {isProtected : Bool} (ok : Bool) (h : Holds A B O p R d) :
    Ends (d.protect isProtected ok) (Holds A B O p R) (Holds A B O isProtected R) := by
  unfold Scaler.protect setCtrl
  split
  · split
    · exact ends_success ⟨h.source, h.target, h.orientation, rfl, rfl, h.rest⟩
    · exact ends_failure h
  · rename_i hsame
    have hp : p = isProtected := by
      rw [← h.recorded]
      exact (Decidable.not_not.mp fun hne => hsame (decide_eq_true hne)).symm
    exact ends_success (hp ▸ h)

theorem Holds.dequeueBuffer {P Q : F → Prop} (ok : Both Bool)
    (h : Holds (Sound P) (Sound Q) O p R d) :
    Ends (d.dequeueBuffer ok)
      (Holds (fun q => q.Sound P ∧ q.setup = d.source.setup) (fun q => q.Sound Q ∧ q.setup = d.target.setup)
        O p R)
      (Holds (fun q => (q.Sound P ∧ q.qbuf = false ∧ q.setup = d.source.setup) ∧
          (d.source.qbuf = true → ok.source = true))
        (fun q => (q.Sound Q ∧ q.qbuf = false ∧ q.setup = d.target.setup) ∧
          (d.target.qbuf = true → ok.target = true)) O p R) := by
  have hd : Holds (Sound P) (fun q => q = d.target) O p R d :=
    ⟨h.source, rfl, h.orientation, h.recorded, h.protection, h.rest⟩
  have hfail : ∀ d' : Scaler F X,
      Holds (fun q => q.Sound P ∧ q.setup = d.source.setup) (fun q => q = d.target) O p R d' →
      Holds (fun q => q.Sound P ∧ q.setup = d.source.setup) (fun q => q.Sound Q ∧ q.setup = d.target.setup)
        O p R d' := fun d' h' =>
    ⟨h'.source, ⟨h'.target.symm ▸ h.target, congrArg setup h'.target⟩, h'.orientation, h'.recorded,
      h'.protection, h'.rest⟩
  refine Ends.andThen ((hd.onSource (dequeueBuffer_ends ok.source h.source)).mono hfail fun _ h' => h')
    fun d' h' => ?_
  have htarget := dequeueBuffer_ends (P := Q) ok.target (h'.target ▸ h.target)
  refine (h'.onTarget htarget).mono (fun d'' h'' => ?_) fun d'' h'' => ?_
  · exact h''.mono (fun _ hq => ⟨hq.1.1, hq.1.2.2⟩) (fun _ hq => h'.target ▸ hq) (fun _ ho => ho) fun _ _ hr => hr
  · exact h''.mono (fun _ hq => hq) (fun _ hq => h'.target ▸ hq) (fun _ ho => ho) fun _ _ hr => hr

theorem Holds.prepareBuffers {r : Both PrepareReplies}
    (hsource : r.source.streamon = false → r.source.cancel = true)
    (htarget : r.target.streamon = false → r.target.cancel = true)
    (h : Holds (Configured w.source) (Configured w.target) O p R d) :
    Ends (d.prepareBuffers w r) (Holds (Configured w.source) (Configured w.target) O p R)
      (Holds (Prepared w.source) (Prepared w.target) O p R) :=
  h.onBoth (prepareExecute_ends _ _ _ hsource h.source)
    (fun _ hq => prepareExecute_ends _ _ _ htarget hq) fun _ hq => hq.configured

end Scaler

end ExynosHal.MsclDevice
