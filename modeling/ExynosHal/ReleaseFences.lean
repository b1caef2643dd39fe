/-
  ExynosHal/ReleaseFences.lean
  ============================
  **Handing the release fences of a display's layers to the client.**

  `ExynosDisplay::getReleaseFences` of `libhwc2.1/display/ExynosDisplay.cpp`.
  The client calls it twice: with NULL arrays to learn how many fences are
  pending, then with arrays of the size it chose to take the fences over.  A
  layer gives its fence away by resetting `mReleaseFence` to -1 in the loop that
  also looks at the size, so a call can fail after it has taken fences.
-/
import Mathlib.Algebra.Group.Nat.Defs

namespace ExynosHal.ReleaseFences

def HWC2_ERROR_NONE : Int := 0
def HWC2_ERROR_BAD_PARAMETER : Int := 4

/-! ### Layers and calls -/

structure ExynosLayer where
  handle : Nat
  mReleaseFence : Int
deriving DecidableEq, Repr

/-- The arguments of a call: what `*outNumElements` holds (`none` for a NULL
    pointer) and which of the two arrays are given. -/
structure Call where
  outNumElements : Option (Fin (2 ^ 32))
  outLayers : Bool
  outFences : Bool
deriving DecidableEq, Repr

/-- What a call leaves behind: the layers of the display, the elements written to
    the two arrays and `*outNumElements`. -/
structure Reply where
  code : Int
  layers : List ExynosLayer
  handed : List (Nat × Int)
  outNumElements : Option Nat
deriving DecidableEq, Repr

namespace ExynosLayer

def pending (l : ExynosLayer) : Bool := decide (0 ≤ l.mReleaseFence)

/-- The element of the output arrays for a layer. -/
def element (l : ExynosLayer) : Nat × Int := (l.handle, l.mReleaseFence)

/-- A layer whose fence has been given away. -/
def release (l : ExynosLayer) : ExynosLayer :=
  if l.pending then { l with mReleaseFence := -1 } else l

end ExynosLayer

/-- The fences a client has to get, with the layers they belong to. -/
def pendingFences (layers : List ExynosLayer) : List (Nat × Int) :=
  (layers.filter ExynosLayer.pending).map ExynosLayer.element

/-! ### The two passes -/

/-- The loop of the second pass from `deviceLayerNum` on.  The flag tells whether
    the loop ran to its end. -/
def transferLoop (capacity deviceLayerNum : Nat) :
    List ExynosLayer → Bool × List ExynosLayer × List (Nat × Int)
  | [] => (true, [], [])
  | l :: rest =>
      if l.pending then
        if deviceLayerNum < capacity then
          let (ok, rest', handed) := transferLoop capacity (deviceLayerNum + 1) rest
          (ok, l.release :: rest', l.element :: handed)
        else (false, l :: rest, [])
      else
        let (ok, rest', handed) := transferLoop capacity deviceLayerNum rest
        (ok, l :: rest', handed)

/-- The loop of the first pass; `deviceLayerNum` is a `uint32_t`. -/
def countLoop (deviceLayerNum : Nat) : List ExynosLayer → Nat
  | [] => deviceLayerNum
  | l :: rest =>
      countLoop (if l.pending then (deviceLayerNum + 1) % 2 ^ 32 else deviceLayerNum) rest

def getReleaseFences (layers : List ExynosLayer) (call : Call) : Reply :=
  match call.outNumElements with
  | none => ⟨HWC2_ERROR_BAD_PARAMETER, layers, [], none⟩
  | some n =>
      if call.outLayers && call.outFences then
        let (ok, layers', handed) := transferLoop n 0 layers
        if ok then ⟨HWC2_ERROR_NONE, layers', handed, some handed.length⟩
        -- *outNumElements is not from the first pass call
        else ⟨HWC2_ERROR_BAD_PARAMETER, layers', handed, some n⟩
      else ⟨HWC2_ERROR_NONE, layers, [], some (countLoop 0 layers)⟩

/-! ### What the loops do -/

@[simp] theorem pendingFences_nil : pendingFences [] = [] := rfl

theorem pendingFences_cons (l : ExynosLayer) (rest : List ExynosLayer) :
    pendingFences (l :: rest) =
      if l.pending then l.element :: pendingFences rest else pendingFences rest := by
  cases h : l.pending <;> simp [pendingFences, h]

@[simp] theorem release_pending (l : ExynosLayer) : l.release.pending = false := by
  cases h : l.pending
  · simp [ExynosLayer.release, h]
  · rw [ExynosLayer.release, if_pos h]
    rfl

theorem release_of_not_pending {l : ExynosLayer} (h : l.pending = false) : l.release = l := by
  simp [ExynosLayer.release, h]

theorem release_ne {l : ExynosLayer} (h : l.pending = true) : l.release ≠ l := by
  intro heq
  have hlost := release_pending l
  rw [heq, h] at hlost
  cases hlost

section Steps

variable {capacity deviceLayerNum : Nat} {l : ExynosLayer} (rest : List ExynosLayer)

theorem transferLoop_pass (hp : l.pending = false) :
    transferLoop capacity deviceLayerNum (l :: rest) =
      ((transferLoop capacity deviceLayerNum rest).1, l :: (transferLoop capacity deviceLayerNum rest).2.1,
        (transferLoop capacity deviceLayerNum rest).2.2) := by
  rw [transferLoop, hp]
  rfl

theorem transferLoop_take (hp : l.pending = true) (hroom : deviceLayerNum < capacity) :
    transferLoop capacity deviceLayerNum (l :: rest) =
      ((transferLoop capacity (deviceLayerNum + 1) rest).1,
        l.release :: (transferLoop capacity (deviceLayerNum + 1) rest).2.1,
        l.element :: (transferLoop capacity (deviceLayerNum + 1) rest).2.2) := by
  rw [transferLoop, hp, if_pos rfl, if_pos hroom]

theorem transferLoop_full (hp : l.pending = true) (hfull : ¬deviceLayerNum < capacity) :
    transferLoop capacity deviceLayerNum (l :: rest) = (false, l :: rest, []) := by
  rw [transferLoop, hp, if_pos rfl, if_neg hfull]

end Steps

/-- **No fence is handed out twice.**  What the loop puts into the arrays and what
    the layers still hold afterwards are together the fences of before. -/
theorem transferLoop_split (capacity : Nat) (layers : List ExynosLayer) :
    ∀ deviceLayerNum, (transferLoop capacity deviceLayerNum layers).2.2 ++
      pendingFences (transferLoop capacity deviceLayerNum layers).2.1 = pendingFences layers := by
  induction layers with
  | nil => intro _; rfl
  | cons l rest ih =>
    intro deviceLayerNum
    cases hp : l.pending with
    | false => simpa [transferLoop_pass rest hp, pendingFences_cons, hp] using ih deviceLayerNum
    | true =>
      by_cases hroom : deviceLayerNum < capacity
      · simpa [transferLoop_take rest hp hroom, pendingFences_cons, hp] using ih (deviceLayerNum + 1)
      · simp [transferLoop_full rest hp hroom]

/-- With room for every pending fence the loop gives all of them away. -/
theorem transferLoop_fits {capacity : Nat} (layers : List ExynosLayer) :
    ∀ deviceLayerNum, deviceLayerNum + (pendingFences layers).length ≤ capacity →
      transferLoop capacity deviceLayerNum layers =
        (true, layers.map ExynosLayer.release, pendingFences layers) := by
  induction layers with
  | nil => intro _ _; rfl
  | cons l rest ih =>
    intro deviceLayerNum hfit
    cases hp : l.pending with
    | false =>
      simp only [pendingFences_cons, hp, Bool.false_eq_true, if_false] at hfit
      simp [transferLoop_pass rest hp, hp, ih deviceLayerNum hfit, pendingFences_cons,
        release_of_not_pending hp]
    | true =>
      simp only [pendingFences_cons, hp, if_true, List.length_cons] at hfit
      have hroom : deviceLayerNum < capacity := by omega
      have hrest : deviceLayerNum + 1 + (pendingFences rest).length ≤ capacity := by omega
      simp [transferLoop_take rest hp hroom, hp, ih (deviceLayerNum + 1) hrest, pendingFences_cons]

/-- With less room the loop stops. -/
theorem transferLoop_stops {capacity : Nat} (layers : List ExynosLayer) :
    ∀ deviceLayerNum, deviceLayerNum ≤ capacity →
      capacity < deviceLayerNum + (pendingFences layers).length →
      (transferLoop capacity deviceLayerNum layers).1 = false := by
  induction layers with
  | nil =>
    intro deviceLayerNum hle hlt
    simp only [pendingFences_nil, List.length_nil] at hlt
    omega
  | cons l rest ih =>
    intro deviceLayerNum hle hlt
    cases hp : l.pending with
    | false =>
      simp only [pendingFences_cons, hp, Bool.false_eq_true, if_false] at hlt
      simpa [transferLoop_pass rest hp] using ih deviceLayerNum hle hlt
    | true =>
      simp only [pendingFences_cons, hp, if_true, List.length_cons] at hlt
      by_cases hroom : deviceLayerNum < capacity
      · simpa [transferLoop_take rest hp hroom] using ih (deviceLayerNum + 1) hroom (by omega)
      · simp [transferLoop_full rest hp hroom]

/-- Without any room the layers stay as they are. -/
theorem transferLoop_noRoom {capacity deviceLayerNum : Nat} (h : capacity ≤ deviceLayerNum)
    (layers : List ExynosLayer) :
    (transferLoop capacity deviceLayerNum layers).2.1 = layers := by
  induction layers with
  | nil => rfl
  | cons l rest ih =>
    cases hp : l.pending with
    | false => simpa [transferLoop_pass rest hp] using ih
    | true => simp [transferLoop_full rest hp (Nat.not_lt.mpr h)]

/-- With room for one element some layer has lost its fence. -/
theorem transferLoop_moves {capacity deviceLayerNum : Nat} (h : deviceLayerNum < capacity)
    (layers : List ExynosLayer) (hp : pendingFences layers ≠ []) :
    (transferLoop capacity deviceLayerNum layers).2.1 ≠ layers := by
  induction layers with
  | nil => exact absurd rfl hp
  | cons l rest ih =>
    cases hl : l.pending with
    | false =>
      simp only [pendingFences_cons, hl, Bool.false_eq_true, if_false] at hp
      simpa [transferLoop_pass rest hl] using ih hp
    | true =>
      intro heq
      rw [transferLoop_take rest hl h] at heq
      exact release_ne hl (List.cons.inj heq).1

/-! ### Runs of calls -/

/-- A client's calls one after another: the layers afterwards and all elements that
    were put into its arrays. -/
def runCalls : List ExynosLayer → List Call → List ExynosLayer × List (Nat × Int)
  | layers, [] => (layers, [])
  | layers, call :: calls =>
      let reply := getReleaseFences layers call
      let later := runCalls reply.layers calls
      (later.1, reply.handed ++ later.2)

theorem getReleaseFences_split (layers : List ExynosLayer) (call : Call) :
    (getReleaseFences layers call).handed ++ pendingFences (getReleaseFences layers call).layers =
      pendingFences layers := by
  unfold getReleaseFences
  split
  · rfl
  · split
    · dsimp only
      split
      · exact transferLoop_split _ layers 0
      · exact transferLoop_split _ layers 0
    · rfl

/-- Over any run of calls, the fences handed out and the fences still held are
    together the fences of the beginning. -/
theorem runCalls_split (calls : List Call) : ∀ layers : List ExynosLayer,
    (runCalls layers calls).2 ++ pendingFences (runCalls layers calls).1 = pendingFences layers := by
  induction calls with
  | nil => intro _; rfl
  | cons call calls ih =>
    intro layers
    calc (runCalls layers (call :: calls)).2 ++ pendingFences (runCalls layers (call :: calls)).1
        = (getReleaseFences layers call).handed ++
            pendingFences (getReleaseFences layers call).layers := by
          simp only [runCalls, List.append_assoc]
          rw [ih]
      _ = pendingFences layers := getReleaseFences_split layers call

/-! ### The two passes together -/

/-- The call that asks for the number of fences. -/
def firstPass (layers : List ExynosLayer) (n : Fin (2 ^ 32)) : Reply :=
  getReleaseFences layers ⟨some n, false, false⟩

/-- The call that takes the fences, with arrays of `n` elements. -/
def secondPass (layers : List ExynosLayer) (n : Fin (2 ^ 32)) : Reply :=
  getReleaseFences layers ⟨some n, true, true⟩

/-- What the client may rely on when it passes arrays of `n` elements. -/
structure Handover (layers : List ExynosLayer) (n : Fin (2 ^ 32)) : Prop where
  asked : (firstPass layers n).code = HWC2_ERROR_NONE ∧ (firstPass layers n).layers = layers
  once : (secondPass layers n).code = HWC2_ERROR_NONE →
    (secondPass layers n).handed = pendingFences layers ∧
      pendingFences (secondPass layers n).layers = []
  counted : (secondPass layers n).code = HWC2_ERROR_NONE →
    (firstPass layers n).outNumElements = some (secondPass layers n).handed.length
  kept : ∀ call, call.outNumElements = none ∨ call.outNumElements = some n →
    (getReleaseFences layers call).code ≠ HWC2_ERROR_NONE →
    (getReleaseFences layers call).layers = layers

theorem countLoop_eq (layers : List ExynosLayer) : ∀ deviceLayerNum,
    deviceLayerNum + (pendingFences layers).length < 2 ^ 32 →
    countLoop deviceLayerNum layers = deviceLayerNum + (pendingFences layers).length := by
  induction layers with
  | nil => intro _ _; rfl
  | cons l rest ih =>
    intro deviceLayerNum hlt
    cases hp : l.pending with
    | false =>
      simp only [pendingFences_cons, hp, Bool.false_eq_true, if_false] at hlt ⊢
      simpa [countLoop, hp] using ih deviceLayerNum hlt
    | true =>
      simp only [pendingFences_cons, hp, if_true, List.length_cons] at hlt ⊢
      have hsmall : (deviceLayerNum + 1) % 2 ^ 32 = deviceLayerNum + 1 :=
        Nat.mod_eq_of_lt (by omega)
      simp only [countLoop, hp, if_true, hsmall]
      rw [ih (deviceLayerNum + 1) (by omega)]
      omega

theorem errors_differ : HWC2_ERROR_BAD_PARAMETER ≠ HWC2_ERROR_NONE := by decide

theorem pendingFences_released (layers : List ExynosLayer) :
    pendingFences (layers.map ExynosLayer.release) = [] := by
  induction layers with
  | nil => rfl
  | cons l rest ih => simp [pendingFences_cons, ih]

/-- A second pass with enough room. -/
theorem secondPass_fits {layers : List ExynosLayer} {n : Fin (2 ^ 32)}
    (h : (pendingFences layers).length ≤ n) :
    secondPass layers n = ⟨HWC2_ERROR_NONE, layers.map ExynosLayer.release,
      pendingFences layers, some (pendingFences layers).length⟩ := by
  have hloop := transferLoop_fits layers 0 (by omega : 0 + (pendingFences layers).length ≤ n.val)
  simp [secondPass, getReleaseFences, hloop]

/-- A second pass with too little room. -/
theorem secondPass_full {layers : List ExynosLayer} {n : Fin (2 ^ 32)}
    (h : n < (pendingFences layers).length) :
    (secondPass layers n).code = HWC2_ERROR_BAD_PARAMETER ∧
      (secondPass layers n).layers = (transferLoop n 0 layers).2.1 := by
  have hstop := transferLoop_stops layers 0 (Nat.zero_le n.val) (by omega)
  simp [secondPass, getReleaseFences, hstop]

/-- **Which array sizes are safe.**  The two calls hand over every fence once and an
    error keeps the fences with their layers if and only if the arrays have room for
    all pending fences or for none at all. -/
theorem fences_handedOver (layers : List ExynosLayer) (n : Fin (2 ^ 32)) :
    Handover layers n ↔ (pendingFences layers).length ≤ n ∨ n = 0 := by
  constructor
  · intro h
    by_cases hfit : (pendingFences layers).length ≤ n
    · exact Or.inl hfit
    · right
      have hfull := secondPass_full (Nat.lt_of_not_le hfit)
      have hkept := h.kept ⟨some n, true, true⟩ (Or.inr rfl)
        (fun hnone => errors_differ (hfull.1.symm.trans hnone))
      have hpending : pendingFences layers ≠ [] := by
        intro hnil
        simp [hnil] at hfit
      by_cases hzero : n.val = 0
      · exact Fin.ext hzero
      · have hmoved := transferLoop_moves (Nat.pos_of_ne_zero hzero) layers hpending
        exact absurd (hfull.2.symm.trans hkept) hmoved
  · intro h
    refine ⟨⟨rfl, rfl⟩, ?_, ?_, ?_⟩
    · intro hnone
      by_cases hfit : (pendingFences layers).length ≤ n
      · rw [secondPass_fits hfit]
        exact ⟨rfl, pendingFences_released layers⟩
      · exact absurd ((secondPass_full (Nat.lt_of_not_le hfit)).1.symm.trans hnone) errors_differ
    · intro hnone
      by_cases hfit : (pendingFences layers).length ≤ n
      · rw [secondPass_fits hfit]
        have hcount := countLoop_eq layers 0 (by omega)
        simpa [firstPass, getReleaseFences] using hcount
      · exact absurd ((secondPass_full (Nat.lt_of_not_le hfit)).1.symm.trans hnone) errors_differ
    · rintro ⟨count, outLayers, outFences⟩ hcount hfailed
      cases count with
      | none => rfl
      | some m =>
        have hm : m = n := by simpa using hcount
        subst hm
        cases hsecond : outLayers && outFences with
        | false => simp [getReleaseFences, hsecond]
        | true =>
          have hsame : getReleaseFences layers ⟨some m, outLayers, outFences⟩ =
              secondPass layers m := by
            simp [secondPass, getReleaseFences, hsecond]
          rw [hsame] at hfailed ⊢
          rcases h with hfit | hzero
          · rw [secondPass_fits hfit] at hfailed
            exact absurd rfl hfailed
          · by_cases hfit : (pendingFences layers).length ≤ m
            · rw [secondPass_fits hfit] at hfailed
              exact absurd rfl hfailed
            · rw [(secondPass_full (Nat.lt_of_not_le hfit)).2, hzero]
              exact transferLoop_noRoom (Nat.le_refl 0) layers

/-- Two pending fences and arrays of one element: the call fails and the first layer
    has lost its fence. -/
theorem fence_lost_on_error :
    let layers : List ExynosLayer := [⟨1, 5⟩, ⟨2, 6⟩]
    (secondPass layers 1).code = HWC2_ERROR_BAD_PARAMETER ∧
      (secondPass layers 1).layers = [⟨1, -1⟩, ⟨2, 6⟩] ∧
      ¬ Handover layers 1 := by
  refine ⟨by decide, by decide, ?_⟩
  intro h
  have hkept := h.kept ⟨some 1, true, true⟩ (Or.inr rfl) (by decide)
  revert hkept
  decide

end ExynosHal.ReleaseFences
