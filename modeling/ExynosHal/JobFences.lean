/-
  ExynosHal/JobFences.lean
  ========================
  **The jobs a G2D compositor hands to its driver, and their fences.**

  `AcrylicCompositorM2M1SHOT2_G2D::executeG2D` and the two `execute` of
  `libacryl/acrylic_g2d.cpp`.  The descriptor of the job is a member: what one call leaves
  in it the next one starts from.  Release fences are asked for of the target, of the
  sources with an acquire fence and of the others, as long as the client's array has
  room, and read back from the images that asked.

  The fences are right on every run.  The mode is not: a call that does not block sets
  the flag of the descriptor and nothing clears it (`run_meets_iff`).
-/
import Mathlib.Data.List.Basic
import Mathlib.Data.List.GetD
import Mathlib.Logic.Function.Basic

namespace ExynosHal.JobFences

/-! ### The descriptor -/

def M2M1SHOT2_IMGFLAG_ACQUIRE_FENCE : BitVec 32 := 1 <<< 1
def M2M1SHOT2_IMGFLAG_RELEASE_FENCE : BitVec 32 := 1 <<< 2
def M2M1SHOT2_IMGFLAG_PREMUL_ALPHA : BitVec 32 := 1 <<< 4
def M2M1SHOT2_IMGFLAG_GLOBAL_ALPHA : BitVec 32 := 1 <<< 5
def M2M1SHOT2_IMGFLAG_UORDER_ADDR : BitVec 32 := 1 <<< 6
def M2M1SHOT2_IMGFLAG_COMPRESSED : BitVec 32 := 1 <<< 7
def M2M1SHOT2_IMGFLAG_COLORFILL : BitVec 32 := 1 <<< 11
def M2M1SHOT2_IMGFLAG_SECURE : BitVec 32 := 1 <<< 12

def M2M1SHOT2_FLAG_NONBLOCK : BitVec 32 := 1 <<< 2
def M2M1SHOT2_FLAG_ERROR : BitVec 32 := 1 <<< 4

/-- `m2m1shot2_image`. -/
structure Image where
  flags : BitVec 32
  fence : Int
deriving DecidableEq, Repr, Inhabited

/-- The image has an acquire fence. -/
def Image.acquires (image : Image) : Bool := image.flags &&& M2M1SHOT2_IMGFLAG_ACQUIRE_FENCE != 0

/-- The image asks for a release fence. -/
def Image.asks (image : Image) : Bool := image.flags &&& M2M1SHOT2_IMGFLAG_RELEASE_FENCE != 0

def Image.request (image : Image) : Image :=
  { image with flags := image.flags ||| M2M1SHOT2_IMGFLAG_RELEASE_FENCE }

/-- `m2m1shot2`, with as many sources as `mMaxSourceCount`. -/
structure M2m1shot2 where
  flags : BitVec 32
  target : Image
  num_sources : Nat
  sources : List Image
deriving DecidableEq, Repr

/-- The descriptor of a new compositor. -/
def M2m1shot2.cleared : M2m1shot2 := ⟨0, ⟨0, 0⟩, 0, []⟩

/-- The images of the job. -/
def M2m1shot2.images (desc : M2m1shot2) : List Image :=
  desc.target :: desc.sources.take desc.num_sources

def M2m1shot2.nonblocking (desc : M2m1shot2) : Bool := desc.flags &&& M2M1SHOT2_FLAG_NONBLOCK != 0

/-- The descriptors in the images that ask for one. -/
def M2m1shot2.returned (desc : M2m1shot2) : List Int :=
  (desc.images.filter (·.asks)).map (·.fence)

/-! ### The client's call -/

/-- `AcrylicCanvas`; `planes` is the plane count of its format. -/
structure Canvas where
  fence : Int
  compressed : Bool
  secure : Bool
  uOrder : Bool
  planes : Nat
  bufferCount : Nat

/-- A layer.  When its resampling takes a transit image, `prescaled` is the canvas that
`prescaleSource` has left, or `none` within when that failed. -/
structure Layer where
  canvas : Canvas
  prescaled : Option (Option Canvas)

/-- Which `execute` is called, with the client's array or handle. -/
inductive Args
  | fences (fence : Option (Nat → Int)) (num_fences : Nat)
  | handle (given : Bool)

def Args.fence : Args → Option (Nat → Int)
  | .fences fence _ => fence
  | .handle _ => none

def Args.num_fences : Args → Nat
  | .fences _ num_fences => num_fences
  | .handle _ => 0

/-- The call asks for an execution that does not block. -/
def Args.nonblocking : Args → Bool
  | .fences _ _ => true
  | .handle given => given

/-- A call, with all it finds: the compositor's layers in their order, what
`validateAllLayers` says, the driver, and the contents of memory that is allocated. -/
structure Call where
  args : Args
  valid : Bool
  maxLayerCount : Nat
  background : Bool
  canvas : Canvas
  layers : List Layer
  process : M2m1shot2 → Int × M2m1shot2
  unset : Nat → Image

def Call.baseidx (call : Call) : Nat := if call.background then 1 else 0

def Call.layercount (call : Call) : Nat := call.layers.length + call.baseidx

/-! ### Configuring the images -/

/-- `prepareImage`: whether it succeeds, and the image. -/
def prepareImage (layer : Canvas) : Bool × Image :=
  let flags : BitVec 32 :=
    (if 0 ≤ layer.fence then M2M1SHOT2_IMGFLAG_ACQUIRE_FENCE else 0) |||
    (if layer.compressed then M2M1SHOT2_IMGFLAG_COMPRESSED else 0) |||
    (if layer.secure then M2M1SHOT2_IMGFLAG_SECURE else 0) |||
    (if layer.uOrder then M2M1SHOT2_IMGFLAG_UORDER_ADDR else 0)
  (!decide (layer.bufferCount < layer.planes), ⟨flags, if 0 ≤ layer.fence then layer.fence else 0⟩)

/-- The end of `prepareSource`, past the two uses of `prepareImage`. -/
def finishSource (r : Bool × Image) : Bool × Image :=
  if r.1 then
    (true, { r.2 with
      flags := r.2.flags ||| M2M1SHOT2_IMGFLAG_GLOBAL_ALPHA ||| M2M1SHOT2_IMGFLAG_PREMUL_ALPHA })
  else r

/-- `prepareSource`, over the image that stands in the array. -/
def prepareSource (image : Image) (layer : Layer) : Bool × Image :=
  match layer.prescaled with
  | some none => (false, image)
  | some (some transit) => finishSource (prepareImage transit)
  | none => finishSource (prepareImage layer.canvas)

/-- The loop over the layers, from the source `i` on. -/
def prepareLoop : Nat → List Layer → List Image → Bool × List Image
  | _, [], sources => (true, sources)
  | i, layer :: layers, sources =>
    let r := prepareSource (sources.getD i default) layer
    if r.1 then prepareLoop (i + 1) layers (sources.set i r.2) else (false, sources.set i r.2)

/-- The source of the background colour. -/
def backgroundImage : Image := ⟨M2M1SHOT2_IMGFLAG_COLORFILL, 0⟩

/-- `executeG2D` up to the number of sources. -/
def configure (desc : M2m1shot2) (call : Call) : Bool × M2m1shot2 :=
  if !call.valid then (false, desc)
  else if call.background && decide (call.maxLayerCount < call.layercount) then (false, desc)
  else
    let desc := if desc.sources.length < call.layercount then
        { desc with sources := (List.range call.layercount).map call.unset } else desc
    let target := prepareImage call.canvas
    if !target.1 then (false, { desc with target := target.2 })
    else
      let sources := if call.background then desc.sources.set 0 backgroundImage else desc.sources
      let r := prepareLoop call.baseidx call.layers sources
      let desc := { desc with
        target := { target.2 with flags := target.2.flags ||| M2M1SHOT2_IMGFLAG_PREMUL_ALPHA }
        sources := r.2 }
      if r.1 then (true, { desc with num_sources := call.layercount % 256 }) else (false, desc)

/-! ### Asking for release fences -/

/-- A loop over the sources from `baseidx` to `num_sources`, here as guards: outside of its
bounds, and once the array has no more room, nothing happens. -/
def requestPass (chosen : Image → Bool) (num_fences baseidx num_sources : Nat) :
    Nat → Nat → List Image → Nat × List Image
  | _, fence_idx, [] => (fence_idx, [])
  | i, fence_idx, image :: rest =>
    if baseidx ≤ i ∧ fence_idx < num_fences ∧ i < num_sources ∧ chosen image then
      let r := requestPass chosen num_fences baseidx num_sources (i + 1) (fence_idx + 1) rest
      (r.1, image.request :: r.2)
    else
      let r := requestPass chosen num_fences baseidx num_sources (i + 1) fence_idx rest
      (r.1, image :: r.2)

/-- The target and the loop over the sources, twice: first the images with an acquire
fence, then, if the array has room left, the ones that do not ask yet. -/
def requestFences (num_fences baseidx : Nat) (desc : M2m1shot2) : Nat × M2m1shot2 :=
  let target := if desc.target.acquires then (1, desc.target.request) else (0, desc.target)
  let r := requestPass Image.acquires num_fences baseidx desc.num_sources 0 target.1 desc.sources
  let desc := { desc with target := target.2, sources := r.2 }
  if r.1 < num_fences then
    let target := if desc.target.asks then (r.1, desc.target) else (r.1 + 1, desc.target.request)
    let r := requestPass (fun image => !image.asks) num_fences baseidx desc.num_sources 0 target.1
      desc.sources
    (r.1, { desc with target := target.2, sources := r.2 })
  else (r.1, desc)

/-! ### The client's array -/

/-- Entries written one after the other from `fence_idx` on. -/
def writeAll (fence : Nat → Int) (fence_idx : Nat) : List Int → Nat → Int
  | [] => fence
  | fd :: fds => writeAll (Function.update fence fence_idx fd) (fence_idx + 1) fds

/-- `while (fence_idx < num_fences) fence[fence_idx++] = -1`. -/
def fillInvalid (fence : Nat → Int) (fence_idx num_fences : Nat) : Nat → Int :=
  writeAll fence fence_idx (List.replicate (num_fences - fence_idx) (-1))

/-- The loop that reads the fences back, from the target to the last source. -/
def readBack (fence : Nat → Int) (fence_idx : Nat) : List Image → Nat → Int
  | [] => fence
  | image :: rest =>
    if image.asks then readBack (Function.update fence fence_idx image.fence) (fence_idx + 1) rest
    else readBack fence fence_idx rest

/-! ### Executing -/

/-- What an execution leaves: its result, the descriptor, the job as the driver has got
it, and the client's array. -/
structure Result where
  ret : Bool
  desc : M2m1shot2
  submitted : Option M2m1shot2
  fence : Option (Nat → Int)

/-- **`executeG2D`.** -/
def executeG2D (desc : M2m1shot2) (call : Call) (fence : Option (Nat → Int)) (num_fences : Nat)
    (nonblocking : Bool) : Result :=
  let c := configure desc call
  if !c.1 then ⟨false, c.2, none, fence⟩
  else
    let desc := { c.2 with flags := if nonblocking then M2M1SHOT2_FLAG_NONBLOCK else c.2.flags }
    let r := if fence.isSome && decide (0 < num_fences) then
        requestFences num_fences call.baseidx desc else (0, desc)
    let fence := fence.map fun array => fillInvalid array r.1 num_fences
    let answer := call.process r.2
    if answer.1 < 0 then ⟨false, answer.2, some r.2, fence⟩
    else if answer.2.flags &&& M2M1SHOT2_FLAG_ERROR != 0 then ⟨false, answer.2, some r.2, fence⟩
    else if num_fences = 0 then ⟨true, answer.2, some r.2, fence⟩
    else ⟨true, answer.2, some r.2, fence.map fun array => readBack array 0 answer.2.images⟩

/-- `execute`, of either kind. -/
def execute (desc : M2m1shot2) (call : Call) : Result :=
  match call.args with
  | .fences fence num_fences => executeG2D desc call fence num_fences true
  | .handle given => executeG2D desc call none 0 given

/-- What is relied on of the driver: it fills the fence fields of the images that ask and
leaves the images otherwise as they are. -/
structure Fills (process : M2m1shot2 → Int × M2m1shot2) : Prop where
  num_sources : ∀ job, (process job).2.num_sources = job.num_sources
  target : ∀ job, (process job).2.target.flags = job.target.flags
  sources : ∀ job, (process job).2.sources.map (·.flags) = job.sources.map (·.flags)

/-! ### What a call has to do -/

/-- **A call does right**: its job has the mode it asked for and asks for no more fences
than the array holds; after a success the array has the returned descriptors and then
`-1`; past its end nothing is written. -/
structure Meets (desc : M2m1shot2) (call : Call) : Prop where
  mode : ∀ job, (execute desc call).submitted = some job →
    job.nonblocking = call.args.nonblocking
  requests : ∀ job, (execute desc call).submitted = some job →
    job.images.countP (·.asks) ≤ call.args.num_fences
  filled : (execute desc call).ret = true → ∀ array, (execute desc call).fence = some array →
    let fds := (execute desc call).desc.returned
    (List.range call.args.num_fences).map array =
      fds ++ List.replicate (call.args.num_fences - fds.length) (-1)
  within : ∀ array, call.args.fence = some array → ∃ array',
    (execute desc call).fence = some array' ∧
      ∀ i, call.args.num_fences ≤ i → array' i = array i

/-- A property of every call of a run. -/
def Along (P : M2m1shot2 → Call → Prop) : M2m1shot2 → List Call → Prop
  | _, [] => True
  | desc, call :: calls => P desc call ∧ Along P (execute desc call).desc calls

def Layer.Prepared (layer : Layer) : Prop :=
  match layer.prescaled with
  | some none => False
  | some (some transit) => transit.planes ≤ transit.bufferCount
  | none => layer.canvas.planes ≤ layer.canvas.bufferCount

/-- The call gets as far as handing a job to the driver. -/
structure Call.Submits (call : Call) : Prop where
  valid : call.valid = true
  background : call.background = true → call.layercount ≤ call.maxLayerCount
  canvas : call.canvas.planes ≤ call.canvas.bufferCount
  layers : ∀ layer ∈ call.layers, layer.Prepared

/-- **The condition**: a call that blocks and hands on a job finds the flag clear. -/
def ModeClear (desc : M2m1shot2) (call : Call) : Prop :=
  call.Submits → call.args.nonblocking = false → desc.nonblocking = false

/-! ### The flag of the release fence -/

theorem asks_eq_getLsbD (image : Image) : image.asks = image.flags.getLsbD 2 := by
  have hbit : M2M1SHOT2_IMGFLAG_RELEASE_FENCE = BitVec.twoPow 32 2 := by decide
  unfold Image.asks
  rw [hbit, BitVec.and_twoPow]
  cases image.flags.getLsbD 2 <;> decide

theorem asks_flags_or (image : Image) (flags : BitVec 32) :
    ({ image with flags := image.flags ||| flags } : Image).asks =
      (image.asks || flags.getLsbD 2) := by
  simp [asks_eq_getLsbD]

@[simp] theorem asks_request (image : Image) : image.request.asks = true := by
  have hbit : M2M1SHOT2_IMGFLAG_RELEASE_FENCE.getLsbD 2 = true := by decide
  unfold Image.request
  simp [asks_flags_or, hbit]

theorem prepareImage_asks (layer : Canvas) : (prepareImage layer).2.asks = false := by
  rw [asks_eq_getLsbD]
  unfold prepareImage
  by_cases hfence : 0 ≤ layer.fence <;> cases layer.compressed <;> cases layer.secure <;>
    cases layer.uOrder <;> simp only [hfence, if_true, if_false] <;> decide

theorem finishSource_asks (r : Bool × Image) (h : r.2.asks = false) :
    (finishSource r).2.asks = false := by
  have halpha : M2M1SHOT2_IMGFLAG_GLOBAL_ALPHA.getLsbD 2 = false := by decide
  have hpremul : M2M1SHOT2_IMGFLAG_PREMUL_ALPHA.getLsbD 2 = false := by decide
  unfold finishSource
  split
  · rw [asks_eq_getLsbD] at h ⊢
    simp only [BitVec.getLsbD_or, h, halpha, hpremul, Bool.or_false]
  · exact h

/-! ### Configured images -/

@[simp] theorem finishSource_fst (r : Bool × Image) : (finishSource r).1 = r.1 := by
  unfold finishSource
  split
  · next h => exact h.symm
  · rfl

@[simp] theorem prepareImage_fst (layer : Canvas) :
    (prepareImage layer).1 = true ↔ layer.planes ≤ layer.bufferCount := by
  simp [prepareImage]

theorem prepareSource_fst (image : Image) (layer : Layer) :
    (prepareSource image layer).1 = true ↔ layer.Prepared := by
  unfold prepareSource Layer.Prepared
  split <;> simp

theorem prepareSource_asks (image : Image) (layer : Layer)
    (h : (prepareSource image layer).1 = true) : (prepareSource image layer).2.asks = false := by
  unfold prepareSource at h ⊢
  split
  case h_1 heq => simp [heq] at h
  case h_2 transit _ => exact finishSource_asks _ (prepareImage_asks transit)
  case h_3 => exact finishSource_asks _ (prepareImage_asks layer.canvas)

theorem prepareLoop_step (i : Nat) (layer : Layer) (layers : List Layer) (sources : List Image)
    (h : (prepareSource (sources.getD i default) layer).1 = true) :
    prepareLoop i (layer :: layers) sources = prepareLoop (i + 1) layers
      (sources.set i (prepareSource (sources.getD i default) layer).2) := by
  simp only [prepareLoop, h, if_true]

theorem prepareLoop_stop (i : Nat) (layer : Layer) (layers : List Layer) (sources : List Image)
    (h : ¬ (prepareSource (sources.getD i default) layer).1 = true) :
    (prepareLoop i (layer :: layers) sources).1 = false := by
  simp only [prepareLoop, if_neg h]

theorem prepareLoop_fst (i : Nat) (layers : List Layer) (sources : List Image) :
    (prepareLoop i layers sources).1 = true ↔ ∀ layer ∈ layers, layer.Prepared := by
  induction layers generalizing i sources with
  | nil => simp [prepareLoop]
  | cons layer layers ih =>
      by_cases h : (prepareSource (sources.getD i default) layer).1 = true
      · rw [prepareLoop_step i layer layers sources h, ih]
        simp [(prepareSource_fst _ layer).mp h]
      · have hlayer := mt (prepareSource_fst (sources.getD i default) layer).mpr h
        rw [prepareLoop_stop i layer layers sources h]
        simp [hlayer]

/-- The first `n` images of the array do not ask for a fence. -/
def Quiet (n : Nat) (sources : List Image) : Prop :=
  ∀ j (h : j < sources.length), j < n → sources[j].asks = false

/-- Preparing the next source. -/
theorem Quiet.set {n : Nat} {sources : List Image} (h : Quiet n sources) (image : Image)
    (himage : image.asks = false) : Quiet (n + 1) (sources.set n image) := by
  intro j hj hlt
  rw [List.getElem_set]
  split
  · exact himage
  · next hne => exact h j (by simpa using hj) (by omega)

theorem prepareLoop_quiet (i : Nat) (layers : List Layer) (sources : List Image)
    (h : Quiet i sources) (hok : (prepareLoop i layers sources).1 = true) :
    Quiet (i + layers.length) (prepareLoop i layers sources).2 := by
  induction layers generalizing i sources with
  | nil => exact h
  | cons layer layers ih =>
      by_cases hlayer : (prepareSource (sources.getD i default) layer).1 = true
      · rw [prepareLoop_step i layer layers sources hlayer] at hok ⊢
        have hnext := ih (i + 1) _ (h.set _ (prepareSource_asks _ layer hlayer)) hok
        rw [List.length_cons, Nat.add_comm layers.length 1, ← Nat.add_assoc]
        exact hnext
      · rw [prepareLoop_stop i layer layers sources hlayer] at hok
        exact absurd hok (by simp)

theorem background_quiet (call : Call) (sources : List Image) :
    Quiet call.baseidx (if call.background then sources.set 0 backgroundImage else sources) := by
  unfold Call.baseidx
  split
  · have hempty : Quiet 0 sources := by
      intro j _ hlt
      exact absurd hlt (Nat.not_lt_zero j)
    exact hempty.set backgroundImage (by decide)
  · intro j _ hlt
    exact absurd hlt (Nat.not_lt_zero j)

theorem Call.Submits.room {call : Call} (h : call.Submits) :
    (call.background && decide (call.maxLayerCount < call.layercount)) = false := by
  cases hbackground : call.background with
  | false => rfl
  | true => simpa using h.background hbackground

/-- Whether a job comes about does not depend on the descriptor. -/
theorem configure_fst (desc : M2m1shot2) (call : Call) :
    (configure desc call).1 = true ↔ call.Submits := by
  unfold configure
  constructor
  · intro h
    by_cases hvalid : call.valid = true
    · by_cases hroom : (call.background && decide (call.maxLayerCount < call.layercount)) = true
      · simp [hvalid, hroom] at h
      · by_cases hcanvas : (prepareImage call.canvas).1 = true
        · by_cases hlayers : ∀ layer ∈ call.layers, layer.Prepared
          · refine ⟨hvalid, ?_, (prepareImage_fst _).mp hcanvas, hlayers⟩
            intro hbackground
            simpa [hbackground] using hroom
          · have hloop : ∀ sources, (prepareLoop call.baseidx call.layers sources).1 = false := by
              intro sources
              exact eq_false_of_ne_true (mt (prepareLoop_fst _ _ sources).mp hlayers)
            simp [hvalid, hroom, hcanvas, hloop] at h
        · simp [hvalid, hroom, hcanvas] at h
    · simp [hvalid] at h
  · intro h
    have hroom := h.room
    have hcanvas := (prepareImage_fst call.canvas).mpr h.canvas
    simp [h.valid, hroom, hcanvas, (prepareLoop_fst _ _ _).mpr h.layers]

/-- A configured descriptor: the mode is the one from before, and no image asks. -/
theorem configure_spec (desc : M2m1shot2) (call : Call) (h : (configure desc call).1 = true) :
    (configure desc call).2.flags = desc.flags ∧
      ∀ image ∈ (configure desc call).2.images, image.asks = false := by
  have hsubmits := (configure_fst desc call).mp h
  have hroom := hsubmits.room
  have hcanvas := (prepareImage_fst call.canvas).mpr hsubmits.canvas
  unfold configure
  simp only [hsubmits.valid, hroom, hcanvas, Bool.not_true, Bool.false_eq_true, if_false]
  generalize hdesc : (if desc.sources.length < call.layercount then
    { desc with sources := (List.range call.layercount).map call.unset } else desc) = desc'
  have hflags : desc'.flags = desc.flags := by
    rw [← hdesc]
    split <;> rfl
  have hloop := (prepareLoop_fst call.baseidx call.layers
    (if call.background then desc'.sources.set 0 backgroundImage else desc'.sources)).mpr
    hsubmits.layers
  have hquiet := prepareLoop_quiet _ _ _ (background_quiet call desc'.sources) hloop
  simp only [hloop, if_true]
  refine ⟨hflags, ?_⟩
  intro image hmem
  rcases List.mem_cons.mp hmem with rfl | hmem
  · have hpremul : M2M1SHOT2_IMGFLAG_PREMUL_ALPHA.getLsbD 2 = false := by decide
    have htarget := prepareImage_asks call.canvas
    rw [asks_eq_getLsbD] at htarget ⊢
    simp only [BitVec.getLsbD_or, htarget, hpremul, Bool.or_false]
  · obtain ⟨j, hj, rfl⟩ := List.mem_take_iff_getElem.mp hmem
    apply hquiet
    have hlt : j < call.layercount % 256 := Nat.lt_of_lt_of_le hj (Nat.min_le_left _ _)
    have hmod := Nat.mod_le call.layercount 256
    unfold Call.layercount at hlt hmod
    omega

/-! ### Asking for fences -/

/-- A pass counts the images that come to ask, and does not go beyond the array. -/
theorem requestPass_spec (chosen : Image → Bool) (num_fences baseidx num_sources i fence_idx : Nat)
    (images : List Image)
    (h : ∀ image ∈ images.take (num_sources - i), chosen image = true → image.asks = false) :
    (requestPass chosen num_fences baseidx num_sources i fence_idx images).1 +
        (images.take (num_sources - i)).countP (·.asks) =
      fence_idx + ((requestPass chosen num_fences baseidx num_sources i fence_idx images).2.take
        (num_sources - i)).countP (·.asks) ∧
    (fence_idx ≤ num_fences →
      (requestPass chosen num_fences baseidx num_sources i fence_idx images).1 ≤ num_fences) := by
  induction images generalizing i fence_idx with
  | nil => simp [requestPass]
  | cons image rest ih =>
      by_cases hi : i < num_sources
      · have hsub : num_sources - i = num_sources - (i + 1) + 1 := by omega
        rw [hsub, List.take_succ_cons] at h
        have hrest : ∀ image ∈ rest.take (num_sources - (i + 1)),
            chosen image = true → image.asks = false := by
          intro other hother
          exact h other (List.mem_cons_of_mem _ hother)
        unfold requestPass
        split
        · next hguard =>
          obtain ⟨hcount, hle⟩ := ih (i + 1) (fence_idx + 1) hrest
          have hquiet := h image (List.mem_cons_self) hguard.2.2.2
          rw [hsub]
          simp only [List.take_succ_cons, List.countP_cons, hquiet, asks_request]
          refine ⟨by simpa [Nat.add_assoc, Nat.add_comm 1] using hcount, ?_⟩
          intro _
          exact hle hguard.2.1
        · obtain ⟨hcount, hle⟩ := ih (i + 1) fence_idx hrest
          rw [hsub]
          simp only [List.take_succ_cons, List.countP_cons]
          exact ⟨by omega, hle⟩
      · have hsub : num_sources - i = 0 := by omega
        have hsub' : num_sources - (i + 1) = 0 := by omega
        have hguard : ¬ (baseidx ≤ i ∧ fence_idx < num_fences ∧ i < num_sources ∧
            chosen image = true) := by
          rintro ⟨-, -, hlt, -⟩
          exact hi hlt
        obtain ⟨hcount, hle⟩ := ih (i + 1) fence_idx (by simp [hsub'])
        rw [hsub'] at hcount
        unfold requestPass
        simp only [if_neg hguard, hsub, List.take_zero, List.countP_nil] at hcount ⊢
        exact ⟨hcount, hle⟩

/-- **The fences asked for**: as many images ask as are counted, and the array holds them. -/
theorem requestFences_spec (num_fences baseidx : Nat) (desc : M2m1shot2)
    (hquiet : ∀ image ∈ desc.images, image.asks = false) (hroom : 0 < num_fences) :
    (requestFences num_fences baseidx desc).1 =
        (requestFences num_fences baseidx desc).2.images.countP (·.asks) ∧
      (requestFences num_fences baseidx desc).1 ≤ num_fences := by
  have htarget : desc.target.asks = false := hquiet _ List.mem_cons_self
  have hsources : ∀ image ∈ desc.sources.take desc.num_sources, image.asks = false := by
    intro image hmem
    exact hquiet image (List.mem_cons_of_mem _ hmem)
  have hnone : (desc.sources.take desc.num_sources).countP (·.asks) = 0 := by
    rw [List.countP_eq_zero]
    intro image hmem
    simp [hsources image hmem]
  -- the first pass, over the images with an acquire fence
  obtain ⟨target, htargets⟩ : ∃ target,
      (if desc.target.acquires then (1, desc.target.request) else (0, desc.target)) = target :=
    ⟨_, rfl⟩
  have hfirst : target.1 = (if target.2.asks then 1 else 0) ∧ target.1 ≤ num_fences := by
    rw [← htargets]
    split
    · exact ⟨by simp, hroom⟩
    · simp [htarget]
  obtain ⟨hcount, hle⟩ := requestPass_spec Image.acquires num_fences baseidx desc.num_sources 0
    target.1 desc.sources (by
      intro image hmem _
      exact hsources image (by simpa using hmem))
  have hle := hle hfirst.2
  rw [Nat.sub_zero, hnone, Nat.add_zero] at hcount
  unfold requestFences
  simp only [htargets]
  generalize requestPass Image.acquires num_fences baseidx desc.num_sources 0 target.1
    desc.sources = r at hcount hle
  split
  · next hmore =>
    -- the second pass, over the images that do not ask yet
    obtain ⟨second, hseconds⟩ : ∃ second,
        (if target.2.asks then (r.1, target.2) else (r.1 + 1, target.2.request)) = second :=
      ⟨_, rfl⟩
    have hsecond : second.1 = 1 + (r.2.take desc.num_sources).countP (·.asks) ∧
        second.2.asks = true ∧ second.1 ≤ num_fences := by
      rw [← hseconds]
      split
      · next hasks => exact ⟨by simp only [hcount, hfirst.1, hasks, if_true], hasks, hle⟩
      · next hasks =>
        refine ⟨?_, by simp, hmore⟩
        simp only [hcount, hfirst.1, hasks, Bool.false_eq_true, if_false]
        omega
    obtain ⟨hcount', hle'⟩ := requestPass_spec (fun image => !image.asks) num_fences baseidx
      desc.num_sources 0 second.1 r.2 (by simp)
    rw [Nat.sub_zero, hsecond.1] at hcount'
    simp only [hseconds]
    refine ⟨?_, hle' hsecond.2.2⟩
    simp only [M2m1shot2.images, List.countP_cons, hsecond.2.1, if_true, hsecond.1] at hcount' ⊢
    omega
  · refine ⟨?_, hle⟩
    simp only [M2m1shot2.images, List.countP_cons]
    rw [hcount, hfirst.1, Nat.add_comm]

@[simp] theorem requestFences_flags (num_fences baseidx : Nat) (desc : M2m1shot2) :
    (requestFences num_fences baseidx desc).2.flags = desc.flags := by
  unfold requestFences
  generalize (if desc.target.acquires then (1, desc.target.request) else (0, desc.target)) = target
  simp only
  split <;> rfl

/-! ### Writing the array -/

theorem writeAll_apply (fence : Nat → Int) (k : Nat) (fds : List Int) (i : Nat) :
    writeAll fence k fds i = if k ≤ i then fds.getD (i - k) (fence i) else fence i := by
  induction fds generalizing fence k with
  | nil => simp [writeAll]
  | cons fd fds ih =>
      rw [writeAll, ih]
      rcases Nat.lt_trichotomy i k with h | rfl | h
      · have hne : i ≠ k := Nat.ne_of_lt h
        simp [Nat.not_le.mpr h, Nat.not_le.mpr (Nat.lt_succ_of_lt h), hne]
      · simp only [Nat.le_refl, if_true, Nat.sub_self, List.getD_cons_zero]
        rw [if_neg (Nat.not_succ_le_self i), Function.update_self]
      · have hne : i ≠ k := Nat.ne_of_gt h
        have hsub : i - k = i - (k + 1) + 1 := by omega
        simp [Nat.le_of_lt h, Nat.succ_le_of_lt h, hne, hsub]

theorem readBack_eq_writeAll (fence : Nat → Int) (k : Nat) (images : List Image) :
    readBack fence k images = writeAll fence k ((images.filter (·.asks)).map (·.fence)) := by
  induction images generalizing fence k with
  | nil => rfl
  | cons image rest ih =>
      unfold readBack
      split
      · next h => simp [h, ih, writeAll]
      · next h => simp [h, ih]

theorem fillInvalid_of_le (fence : Nat → Int) (k num_fences i : Nat) (h : num_fences ≤ i) :
    fillInvalid fence k num_fences i = fence i := by
  unfold fillInvalid
  rw [writeAll_apply]
  split
  · rw [List.getD_eq_default]
    simp
    omega
  · rfl

/-- The array after the fill and the read-back of as many descriptors as were counted. -/
theorem filled_array (fence : Nat → Int) (num_fences : Nat) (fds : List Int)
    (h : fds.length ≤ num_fences) :
    (List.range num_fences).map (writeAll (fillInvalid fence fds.length num_fences) 0 fds) =
      fds ++ List.replicate (num_fences - fds.length) (-1) := by
  apply List.ext_getElem
  · simp
    omega
  · intro i hi _
    simp only [List.length_map, List.length_range] at hi
    simp only [List.getElem_map, List.getElem_range, writeAll_apply, Nat.zero_le, if_true,
      Nat.sub_zero]
    by_cases hlt : i < fds.length
    · rw [List.getElem_append_left hlt, List.getD_eq_getElem _ _ hlt]
    · have hge : fds.length ≤ i := Nat.le_of_not_lt hlt
      rw [List.getElem_append_right hge, List.getElem_replicate,
        List.getD_eq_default _ _ hge]
      unfold fillInvalid
      rw [writeAll_apply, if_pos hge, List.getD_eq_getElem _ _ (by simp; omega),
        List.getElem_replicate]

/-! ### One execution -/

/-- The images ask as before when the driver is done with the job. -/
theorem Fills.countP_images {process : M2m1shot2 → Int × M2m1shot2} (h : Fills process)
    (job : M2m1shot2) :
    (process job).2.images.countP (·.asks) = job.images.countP (·.asks) := by
  have hflags : ∀ images : List Image, images.countP (·.asks) =
      (images.map (·.flags)).countP fun flags =>
        flags &&& M2M1SHOT2_IMGFLAG_RELEASE_FENCE != 0 := by
    intro images
    rw [List.countP_map]
    rfl
  have himages : (process job).2.images.map (·.flags) = job.images.map (·.flags) := by
    unfold M2m1shot2.images
    rw [List.map_cons, List.map_cons, List.map_take, List.map_take, h.num_sources, h.target,
      h.sources]
  rw [hflags, himages, ← hflags]

theorem returned_length (desc : M2m1shot2) :
    desc.returned.length = desc.images.countP (·.asks) := by
  unfold M2m1shot2.returned
  rw [List.length_map, List.countP_eq_length_filter]

/-- The descriptor with the mode of a call, before fences are asked for. -/
def withMode (desc : M2m1shot2) (nonblocking : Bool) : M2m1shot2 :=
  { desc with flags := if nonblocking then M2M1SHOT2_FLAG_NONBLOCK else desc.flags }

/-- The job of a call with the number of fences it asks for. -/
def jobOf (desc : M2m1shot2) (call : Call) (fence : Option (Nat → Int)) (num_fences : Nat)
    (nonblocking : Bool) : Nat × M2m1shot2 :=
  let desc := withMode (configure desc call).2 nonblocking
  if fence.isSome && decide (0 < num_fences) then requestFences num_fences call.baseidx desc
  else (0, desc)

section Execution

variable (desc : M2m1shot2) (call : Call) (fence : Option (Nat → Int)) (num_fences : Nat)
  (nonblocking : Bool)

theorem jobOf_spec (h : call.Submits) :
    (jobOf desc call fence num_fences nonblocking).1 =
        (jobOf desc call fence num_fences nonblocking).2.images.countP (·.asks) ∧
      (jobOf desc call fence num_fences nonblocking).1 ≤ num_fences ∧
      (jobOf desc call fence num_fences nonblocking).2.flags =
        if nonblocking then M2M1SHOT2_FLAG_NONBLOCK else desc.flags := by
  obtain ⟨hflags, hquiet⟩ := configure_spec desc call ((configure_fst desc call).mpr h)
  unfold jobOf
  simp only
  split
  · next hasked =>
    have hroom : 0 < num_fences := by
      simp only [Bool.and_eq_true, decide_eq_true_eq] at hasked
      exact hasked.2
    obtain ⟨hcount, hle⟩ := requestFences_spec num_fences call.baseidx
      (withMode (configure desc call).2 nonblocking) hquiet hroom
    refine ⟨hcount, hle, ?_⟩
    rw [requestFences_flags]
    unfold withMode
    rw [hflags]
  · refine ⟨?_, Nat.zero_le _, ?_⟩
    · symm
      rw [List.countP_eq_zero]
      intro image hmem
      have hfalse := hquiet image hmem
      simp [hfalse]
    · unfold withMode
      rw [hflags]

theorem executeG2D_not_submitted (h : ¬ call.Submits) :
    executeG2D desc call fence num_fences nonblocking =
      ⟨false, (configure desc call).2, none, fence⟩ := by
  have hfst : (configure desc call).1 = false :=
    eq_false_of_ne_true (mt (configure_fst desc call).mp h)
  unfold executeG2D
  simp [hfst]

/-- What an execution does with its job, success or not. -/
theorem executeG2D_submitted (h : call.Submits) :
    let job := jobOf desc call fence num_fences nonblocking
    let r := executeG2D desc call fence num_fences nonblocking
    r.submitted = some job.2 ∧ r.desc = (call.process job.2).2 ∧
      (r.fence = fence.map (fun array => fillInvalid array job.1 num_fences) ∨
        r.fence = fence.map (fun array => readBack (fillInvalid array job.1 num_fences) 0
          r.desc.images)) ∧
      (r.ret = true → 0 < num_fences →
        r.fence = fence.map (fun array => readBack (fillInvalid array job.1 num_fences) 0
          r.desc.images)) := by
  have hfst := (configure_fst desc call).mpr h
  have hdef : executeG2D desc call fence num_fences nonblocking =
      let r := jobOf desc call fence num_fences nonblocking
      let array := fence.map fun array => fillInvalid array r.1 num_fences
      let answer := call.process r.2
      if answer.1 < 0 then ⟨false, answer.2, some r.2, array⟩
      else if answer.2.flags &&& M2M1SHOT2_FLAG_ERROR != 0 then
        ⟨false, answer.2, some r.2, array⟩
      else if num_fences = 0 then ⟨true, answer.2, some r.2, array⟩
      else ⟨true, answer.2, some r.2, array.map fun array => readBack array 0 answer.2.images⟩ := by
    unfold executeG2D
    simp only [hfst, Bool.not_true, Bool.false_eq_true, if_false]
    rfl
  rw [hdef]
  simp only
  split
  · simp
  · split
    · simp
    · split
      · next hzero => simp [hzero]
      · simp [Function.comp_def]

end Execution

/-- Both kinds of `execute`. -/
theorem execute_eq (desc : M2m1shot2) (call : Call) :
    execute desc call =
      executeG2D desc call call.args.fence call.args.num_fences call.args.nonblocking := by
  unfold execute
  split <;> next h => simp [h, Args.fence, Args.num_fences, Args.nonblocking]

/-- **The fences of a call are right**, whatever the descriptor it starts from. -/
theorem execute_fences (desc : M2m1shot2) (call : Call) (hfills : Fills call.process)
    (h : call.Submits) :
    (∀ job, (execute desc call).submitted = some job →
      job.images.countP (·.asks) ≤ call.args.num_fences) ∧
    ((execute desc call).ret = true → ∀ array, (execute desc call).fence = some array →
      let fds := (execute desc call).desc.returned
      (List.range call.args.num_fences).map array =
        fds ++ List.replicate (call.args.num_fences - fds.length) (-1)) ∧
    (∀ array, call.args.fence = some array → ∃ array',
      (execute desc call).fence = some array' ∧
        ∀ i, call.args.num_fences ≤ i → array' i = array i) := by
  rw [execute_eq]
  obtain ⟨hcount, hle, -⟩ := jobOf_spec desc call call.args.fence call.args.num_fences
    call.args.nonblocking h
  obtain ⟨hsubmitted, hdesc, harray, hread⟩ := executeG2D_submitted desc call call.args.fence
    call.args.num_fences call.args.nonblocking h
  generalize executeG2D desc call call.args.fence call.args.num_fences call.args.nonblocking = r
    at hsubmitted hdesc harray hread ⊢
  generalize jobOf desc call call.args.fence call.args.num_fences call.args.nonblocking = job
    at hcount hle hsubmitted hdesc harray hread
  have hlength : r.desc.returned.length = job.1 := by
    rw [returned_length, hdesc, hfills.countP_images, hcount]
  refine ⟨?_, ?_, ?_⟩
  · intro job' hjob
    rw [hsubmitted] at hjob
    obtain rfl := Option.some.inj hjob
    omega
  · intro hret array hsome
    simp only
    rcases Nat.eq_zero_or_pos call.args.num_fences with hzero | hpos
    · have hnil : r.desc.returned = [] := List.eq_nil_of_length_eq_zero (by omega)
      simp [hzero, hnil]
    · rw [hread hret hpos] at hsome
      obtain ⟨before, -, rfl⟩ := Option.map_eq_some_iff.mp hsome
      rw [readBack_eq_writeAll, ← hlength]
      exact filled_array before call.args.num_fences r.desc.returned (by omega)
  · intro array hsome
    rw [hsome] at harray
    rcases harray with harray | harray
    · refine ⟨_, harray, ?_⟩
      intro i hi
      exact fillInvalid_of_le array job.1 call.args.num_fences i hi
    · refine ⟨_, harray, ?_⟩
      intro i hi
      change readBack (fillInvalid array job.1 call.args.num_fences) 0 r.desc.images i = array i
      rw [readBack_eq_writeAll, writeAll_apply, if_pos (Nat.zero_le i)]
      have hout : (r.desc.returned).length ≤ i - 0 := by omega
      rw [← M2m1shot2.returned, List.getD_eq_default _ _ hout]
      exact fillInvalid_of_le array job.1 call.args.num_fences i hi

/-- **Exactly when a call does right.** -/
theorem call_meets_iff (desc : M2m1shot2) (call : Call) (hfills : Fills call.process) :
    Meets desc call ↔ ModeClear desc call := by
  by_cases h : call.Submits
  · have hsubmitted := (executeG2D_submitted desc call call.args.fence call.args.num_fences
      call.args.nonblocking h).1
    obtain ⟨-, -, hflags⟩ := jobOf_spec desc call call.args.fence call.args.num_fences
      call.args.nonblocking h
    rw [← execute_eq] at hsubmitted
    constructor
    · intro hmeets _ hblocking
      have hmode := hmeets.mode _ hsubmitted
      unfold M2m1shot2.nonblocking at hmode ⊢
      rw [hflags, hblocking] at hmode
      exact hmode
    · intro hclear
      obtain ⟨hrequests, hfilled, hwithin⟩ := execute_fences desc call hfills h
      refine ⟨?_, hrequests, hfilled, hwithin⟩
      intro job hjob
      rw [hsubmitted] at hjob
      obtain rfl := Option.some.inj hjob
      unfold M2m1shot2.nonblocking
      rw [hflags]
      cases hmode : call.args.nonblocking with
      | true =>
          rw [if_pos rfl]
          decide
      | false => exact hclear h hmode
  · have hnone := executeG2D_not_submitted desc call call.args.fence call.args.num_fences
      call.args.nonblocking h
    rw [← execute_eq] at hnone
    constructor
    · intro _ hsubmits
      exact absurd hsubmits h
    · intro _
      refine ⟨?_, ?_, ?_, ?_⟩
      · intro job hjob
        simp [hnone] at hjob
      · intro job hjob
        simp [hnone] at hjob
      · intro hret
        simp [hnone] at hret
      · intro array hsome
        exact ⟨array, by rw [hnone]; exact hsome, fun _ _ => rfl⟩

/-! ### Runs -/

/-- **Exactly when every call of a run does right**, from any descriptor. -/
theorem run_meets_iff (desc : M2m1shot2) (calls : List Call)
    (hfills : ∀ call ∈ calls, Fills call.process) :
    Along Meets desc calls ↔ Along ModeClear desc calls := by
  induction calls generalizing desc with
  | nil => rfl
  | cons call calls ih =>
      have hcall := call_meets_iff desc call (hfills call List.mem_cons_self)
      have hcalls := ih (execute desc call).desc (by
        intro other hother
        exact hfills other (List.mem_cons_of_mem _ hother))
      unfold Along
      rw [hcall, hcalls]

/-- A driver that finishes the job and returns descriptor 7 in every image that asks. -/
def finishing (job : M2m1shot2) : Int × M2m1shot2 :=
  let fill := fun image : Image => { image with fence := if image.asks then 7 else image.fence }
  (0, { job with target := fill job.target, sources := job.sources.map fill })

theorem finishing_fills : Fills finishing := by
  refine ⟨fun _ => rfl, fun _ => rfl, ?_⟩
  intro job
  unfold finishing
  simp

/-- One layer, no background colour. -/
def plainCall (args : Args) : Call where
  args := args
  valid := true
  maxLayerCount := 8
  background := false
  canvas := ⟨-1, false, false, false, 1, 1⟩
  layers := [⟨⟨-1, false, false, false, 1, 1⟩, none⟩]
  process := finishing
  unset := fun _ => ⟨0, 0⟩

/-- The second call asks to block, its job does not. -/
theorem blocking_after_nonblocking :
    let first := plainCall (.handle true)
    let second := plainCall (.handle false)
    let desc := (execute M2m1shot2.cleared first).desc
    (execute desc second).submitted.map (·.nonblocking) = some true ∧
      second.args.nonblocking = false ∧ ¬ Along Meets M2m1shot2.cleared [first, second] := by
  refine ⟨by decide, rfl, ?_⟩
  rintro ⟨-, hmeets, -⟩
  have hmode := hmeets.mode _ rfl
  revert hmode
  decide

/-- Two calls that do not block, the second with an array of two. -/
theorem run_meets_iff_nonblocking :
    let calls := [plainCall (.handle true), plainCall (.fences (some fun _ => 0) 2)]
    Along Meets M2m1shot2.cleared calls ↔ Along ModeClear M2m1shot2.cleared calls :=
  run_meets_iff M2m1shot2.cleared
    [plainCall (.handle true), plainCall (.fences (some fun _ => 0) 2)] (by
      intro call hmem
      rcases List.mem_pair.mp hmem with rfl | rfl
      · exact finishing_fills
      · exact finishing_fills)

end ExynosHal.JobFences
