/-
  ExynosHal/DisplayPipes.lean
  ===========================
  **Which crtc shows which display.**

  `DrmDevice::Init` gives the connectors their display numbers and connects each
  of them, through an encoder, to a crtc that no other display has
  (`CreateDisplayPipe`).  Later a display may ask for a writeback connector, which
  is connected to the crtc of the display or, for a display without one, to a crtc
  that is free (`AttachWriteback`).

  Pointers to crtcs, encoders and connectors are their positions in the lists of the
  kernel; what the objects hold is kept in functions of the position.  A failing
  `Init` destroys the device, so it is an error here.

  The allocation is greedy and never takes a crtc back: once a display has a crtc it
  keeps it, and no other display gets it (`pipes_hold`).  The link from connector to
  encoder is weaker, since `TryEncoderForDisplay` does not ask whether the encoder is
  in use (`DrmEncoder::can_bind` has no caller): it is right as long as no other
  connector has the encoder.
-/
import Mathlib.Logic.Function.Basic
import Mathlib.Data.List.Nodup
import Mathlib.Data.List.Find
import Mathlib.Algebra.Group.Nat.Defs
import Mathlib.Algebra.Ring.Int.Defs
import ExynosHal.TransitionSystem

namespace ExynosHal.DisplayPipes

open ExynosHal.TransitionSystem Function

/-! ### Objects -/

inductive ConnectorType where
  | lvds | eDP | dsi | virtual | dpi
  | hdmiA | displayPort | dviD | dviI | vga
  | writeback
  | unknown
  deriving DecidableEq, Repr

def ConnectorType.internal : ConnectorType → Bool
  | .lvds | .eDP | .dsi | .virtual | .dpi => true
  | _ => false

def ConnectorType.external : ConnectorType → Bool
  | .hdmiA | .displayPort | .dviD | .dviI | .vga => true
  | _ => false

structure DrmEncoder where
  crtc : Option Nat
  display : Int
  possibleCrtcs : List Nat

structure DrmConnector where
  type : ConnectorType
  encoder : Option Nat
  display : Int
  possibleEncoders : List Nat

structure DrmDevice where
  crtcs : List Nat
  connectors : List Nat
  writebackConnectors : List Nat
  /-- The keys of `displays_`. -/
  displays : List Int
  crtcDisplay : Nat → Int
  encoder : Nat → DrmEncoder
  connector : Nat → DrmConnector

namespace DrmDevice

/-- `DrmConnector::set_display`. -/
def setDisplay (dev : DrmDevice) (conn : Nat) (display : Int) : DrmDevice :=
  { dev with connector := update dev.connector conn { dev.connector conn with display } }

/-- `DrmConnector::set_encoder`. -/
def setEncoder (dev : DrmDevice) (conn enc : Nat) : DrmDevice :=
  { dev with connector := update dev.connector conn { dev.connector conn with encoder := some enc } }

/-- `crtc->set_display(display); enc->set_crtc(crtc)`. -/
def bind (dev : DrmDevice) (display : Int) (enc crtc : Nat) : DrmDevice :=
  { dev with
    crtcDisplay := update dev.crtcDisplay crtc display
    encoder := update dev.encoder enc { dev.encoder enc with crtc := some crtc, display } }

/-- `DrmCrtc::can_bind`. -/
def canBind (dev : DrmDevice) (display : Int) (crtc : Nat) : Bool :=
  dev.crtcDisplay crtc = -1 || dev.crtcDisplay crtc = display

def handlesDisplay (dev : DrmDevice) (display : Int) : Bool := display ∈ dev.displays

def getConnectorForDisplay (dev : DrmDevice) (display : Int) : Option Nat :=
  dev.connectors.find? fun conn => (dev.connector conn).display = display

def getWritebackConnectorForDisplay (dev : DrmDevice) (display : Int) : Option Nat :=
  dev.writebackConnectors.find? fun conn => (dev.connector conn).display = display

def getCrtcForDisplay (dev : DrmDevice) (display : Int) : Option Nat :=
  dev.crtcs.find? fun crtc => dev.crtcDisplay crtc = display

/-! ### Pipes -/

/-- `none` is `-EAGAIN`: the encoder cannot be used. -/
def tryEncoderForDisplay (dev : DrmDevice) (display : Int) (enc : Nat) : Option DrmDevice :=
  match (dev.encoder enc).crtc with
  | some crtc =>
      if dev.canBind display crtc then some (dev.bind display enc crtc)
      else ((dev.encoder enc).possibleCrtcs.find? fun c =>
        c ≠ crtc ∧ dev.canBind display c).map (dev.bind display enc)
  | none => ((dev.encoder enc).possibleCrtcs.find? fun c => dev.canBind display c).map
      (dev.bind display enc)

/-- The loop over the possible encoders. -/
def tryEncoders (dev : DrmDevice) (conn : Nat) : List Nat → Option DrmDevice
  | [] => none
  | enc :: encs =>
      match dev.tryEncoderForDisplay (dev.connector conn).display enc with
      | some dev' => some (dev'.setEncoder conn enc)
      | none => dev.tryEncoders conn encs

/-- `none` is `-ENODEV`. -/
def createDisplayPipe (dev : DrmDevice) (conn : Nat) : Option DrmDevice :=
  match (dev.connector conn).encoder with
  | some enc =>
      match dev.tryEncoderForDisplay (dev.connector conn).display enc with
      | some dev' => some dev'
      | none => dev.tryEncoders conn (dev.connector conn).possibleEncoders
  | none => dev.tryEncoders conn (dev.connector conn).possibleEncoders

/-- Connector, encoder and crtc in the order in which `AttachWriteback` tries them. -/
def writebackPaths (dev : DrmDevice) : List (Nat × Nat × Nat) :=
  dev.writebackConnectors.flatMap fun conn =>
    (dev.connector conn).possibleEncoders.flatMap fun enc =>
      (dev.encoder enc).possibleCrtcs.map fun crtc => (conn, enc, crtc)

/-- The path may be used: it ends at the crtc of the display, or at a free one if the
    display has none. -/
def usable (dev : DrmDevice) (displayCrtc : Option Nat) (path : Nat × Nat × Nat) : Bool :=
  match displayCrtc with
  | some crtc => path.2.2 = crtc
  | none => dev.crtcDisplay path.2.2 < 0

/-- `none` is `-EINVAL`. -/
def attachWriteback (dev : DrmDevice) (display : Int) : Option DrmDevice :=
  if (dev.getWritebackConnectorForDisplay display).isSome then some dev
  else
    let displayCrtc := (dev.crtcs.filter fun crtc => dev.crtcDisplay crtc = display).getLast?
    match dev.writebackPaths.find? (dev.usable displayCrtc) with
    | none => none
    | some (conn, enc, crtc) =>
        some (((dev.bind display enc crtc).setEncoder conn enc).setDisplay conn display)

def availableWritebackConnector (dev : DrmDevice) (display : Int) : DrmDevice × Option Nat :=
  match dev.getWritebackConnectorForDisplay display with
  | some conn => (dev, some conn)
  | none =>
      match dev.attachWriteback display with
      | none => (dev, none)
      | some dev => (dev, dev.getWritebackConnectorForDisplay display)

/-! ### Init -/

def internal (dev : DrmDevice) (conn : Nat) : Bool := (dev.connector conn).type.internal

def external (dev : DrmDevice) (conn : Nat) : Bool := (dev.connector conn).type.external

end DrmDevice

/-- The locals of `Init` while the displays are numbered. -/
structure Numbering where
  dev : DrmDevice
  numDisplays : Int
  foundPrimary : Bool

/-- The next number goes to the connector. -/
def Numbering.take (s : Numbering) (conn : Nat) : Numbering where
  dev := { s.dev.setDisplay conn s.numDisplays with displays := s.dev.displays ++ [s.numDisplays] }
  numDisplays := s.numDisplays + 1
  foundPrimary := true

def Numbering.primary (s : Numbering) : Numbering :=
  match s.dev.connectors.find? fun conn => s.dev.internal conn && !s.foundPrimary with
  | some conn => s.take conn
  | none => s

def Numbering.other (s : Numbering) (conn : Nat) : Numbering :=
  if s.dev.external conn || s.dev.internal conn then
    if !s.foundPrimary then s.take conn
    else if (s.dev.connector conn).display < 0 then s.take conn
    else s
  else s

def Numbering.start (dev : DrmDevice) (numDisplays : Int) : Numbering :=
  ⟨dev, numDisplays, numDisplays ≠ 0⟩

def Numbering.finish (s : Numbering) : Numbering :=
  s.primary.dev.connectors.foldl Numbering.other s.primary

def numberDisplays (dev : DrmDevice) (numDisplays : Int) : DrmDevice :=
  (Numbering.start dev numDisplays).finish.dev

/-- The pipe of every connector in turn. -/
def createDisplayPipes : List Nat → DrmDevice → Option DrmDevice
  | [], dev => some dev
  | conn :: conns, dev => (dev.createDisplayPipe conn).bind (createDisplayPipes conns)

structure DrmModeEncoder where
  encoderId : Nat
  crtcId : Nat
  possibleCrtcs : Nat

structure DrmModeConnector where
  connectorType : ConnectorType
  encoderId : Nat
  encoders : List Nat

/-- What the kernel reports: an object, or the error that `Init` ends with there. -/
structure DrmModeRes where
  crtcs : List (Except Int Nat)
  encoders : List (Except Int DrmModeEncoder)
  connectors : List (Except Int DrmModeConnector)

/-- Positions at which `p` holds. -/
def positions {α : Type} (l : List α) (p : α → Bool) : List Nat :=
  (List.range l.length).filter fun i => (l[i]?.map p).getD false

def DrmModeEncoder.toEncoder (crtcs : List Nat) (e : DrmModeEncoder) : DrmEncoder where
  crtc := (positions crtcs fun id => id = e.crtcId).getLast?
  display := -1
  possibleCrtcs := (List.range crtcs.length).filter fun pipe => e.possibleCrtcs.testBit pipe

def DrmModeConnector.toConnector (encoders : List DrmModeEncoder) (c : DrmModeConnector) :
    DrmConnector where
  type := c.connectorType
  encoder := if c.encoders = [] then none
    else (positions encoders fun e => e.encoderId = c.encoderId).getLast?
  display := -1
  possibleEncoders := c.encoders.flatMap fun id => positions encoders fun e => e.encoderId = id

/-- The objects that `Init` creates. -/
def DrmModeRes.objects (res : DrmModeRes) : Except Int DrmDevice := do
  let crtcs ← res.crtcs.mapM id
  let encoders ← res.encoders.mapM id
  let connectors ← res.connectors.mapM id
  return {
    crtcs := List.range crtcs.length
    connectors := positions connectors fun c => c.connectorType ≠ .writeback
    writebackConnectors := positions connectors fun c => c.connectorType = .writeback
    displays := []
    crtcDisplay := fun _ => -1
    encoder := fun i => (encoders[i]?.map fun e => e.toEncoder crtcs).getD ⟨none, -1, []⟩
    connector := fun i => (connectors[i]?.map fun c => c.toConnector encoders).getD
      ⟨.unknown, none, -1, []⟩ }

def ENODEV : Int := 19

def init (res : DrmModeRes) (numDisplays : Int) : Except Int DrmDevice := do
  let dev ← res.objects
  let dev := numberDisplays dev numDisplays
  match createDisplayPipes dev.connectors dev with
  | some dev => return dev
  | none => throw (-ENODEV)

/-! ### Numbering -/

/-- The parts of the device that numbering leaves alone. -/
structure SameObjects (dev dev' : DrmDevice) : Prop where
  crtcs : dev'.crtcs = dev.crtcs
  connectors : dev'.connectors = dev.connectors
  writebackConnectors : dev'.writebackConnectors = dev.writebackConnectors
  crtcDisplay : dev'.crtcDisplay = dev.crtcDisplay
  encoder : dev'.encoder = dev.encoder
  type : ∀ conn, (dev'.connector conn).type = (dev.connector conn).type
  connEncoder : ∀ conn, (dev'.connector conn).encoder = (dev.connector conn).encoder
  possibleEncoders : ∀ conn,
    (dev'.connector conn).possibleEncoders = (dev.connector conn).possibleEncoders

/-- The connector can show a display. -/
def DrmDevice.shows (dev : DrmDevice) (conn : Nat) : Bool := dev.external conn || dev.internal conn

/-- What holds while the displays are numbered from `n` on. -/
structure Numbered (n : Int) (s : Numbering) : Prop where
  le : n ≤ s.numDisplays
  display : ∀ conn, (s.dev.connector conn).display = -1 ∨
    conn ∈ s.dev.connectors ∧ s.dev.shows conn = true ∧ n ≤ (s.dev.connector conn).display ∧
      (s.dev.connector conn).display < s.numDisplays
  injective : ∀ conn conn', 0 ≤ (s.dev.connector conn).display →
    (s.dev.connector conn).display = (s.dev.connector conn').display → conn = conn'
  surjective : ∀ d, n ≤ d → d < s.numDisplays →
    ∃ conn ∈ s.dev.connectors, (s.dev.connector conn).display = d
  displays : s.dev.displays = (List.range s.dev.displays.length).map fun k : Nat => n + (k : Int)
  length : s.numDisplays = n + s.dev.displays.length
  none : s.foundPrimary = false → ∀ conn, (s.dev.connector conn).display = -1

namespace Numbering

variable {n : Int} {s : Numbering} {conn conn' : Nat}

theorem take_display : ((s.take conn).dev.connector conn').display =
    if conn' = conn then s.numDisplays else (s.dev.connector conn').display := by
  by_cases h : conn' = conn
  · subst h
    simp [take, DrmDevice.setDisplay]
  · simp [take, DrmDevice.setDisplay, h]

theorem take_type : ((s.take conn).dev.connector conn').type = (s.dev.connector conn').type := by
  by_cases h : conn' = conn
  · subst h
    simp [take, DrmDevice.setDisplay]
  · simp [take, DrmDevice.setDisplay, h]

theorem take_shows : (s.take conn).dev.shows conn' = s.dev.shows conn' := by
  simp [DrmDevice.shows, DrmDevice.external, DrmDevice.internal, take_type]

theorem take_sameObjects (s : Numbering) (conn : Nat) : SameObjects s.dev (s.take conn).dev := by
  constructor
  · rfl
  · rfl
  · rfl
  · rfl
  · rfl
  · exact fun _ => take_type
  · intro conn'
    by_cases h : conn' = conn
    · subst h
      simp [take, DrmDevice.setDisplay]
    · simp [take, DrmDevice.setDisplay, h]
  · intro conn'
    by_cases h : conn' = conn
    · subst h
      simp [take, DrmDevice.setDisplay]
    · simp [take, DrmDevice.setDisplay, h]

end Numbering

theorem SameObjects.refl (dev : DrmDevice) : SameObjects dev dev :=
  ⟨rfl, rfl, rfl, rfl, rfl, fun _ => rfl, fun _ => rfl, fun _ => rfl⟩

theorem SameObjects.trans {dev dev' dev'' : DrmDevice} (h : SameObjects dev dev')
    (h' : SameObjects dev' dev'') : SameObjects dev dev'' where
  crtcs := h'.crtcs.trans h.crtcs
  connectors := h'.connectors.trans h.connectors
  writebackConnectors := h'.writebackConnectors.trans h.writebackConnectors
  crtcDisplay := h'.crtcDisplay.trans h.crtcDisplay
  encoder := h'.encoder.trans h.encoder
  type conn := (h'.type conn).trans (h.type conn)
  connEncoder conn := (h'.connEncoder conn).trans (h.connEncoder conn)
  possibleEncoders conn := (h'.possibleEncoders conn).trans (h.possibleEncoders conn)

theorem SameObjects.shows {dev dev' : DrmDevice} (h : SameObjects dev dev') (conn : Nat) :
    dev'.shows conn = dev.shows conn := by
  simp [DrmDevice.shows, DrmDevice.external, DrmDevice.internal, h.type]

namespace Numbered

variable {n : Int} {s : Numbering} {conn : Nat}

theorem take (h : Numbered n s) (hn : 0 ≤ n) (hconn : conn ∈ s.dev.connectors)
    (hshows : s.dev.shows conn = true) (hnew : (s.dev.connector conn).display < 0) :
    Numbered n (s.take conn) := by
  have hle := h.le
  have hother : ∀ conn', (s.dev.connector conn').display < s.numDisplays := by
    intro conn'
    rcases h.display conn' with hd | ⟨-, -, -, hd⟩
    · rw [hd]
      omega
    · exact hd
  constructor
  · exact Int.le_trans hle (Int.le_add_one (Int.le_refl _))
  · intro conn'
    rw [Numbering.take_display, Numbering.take_shows]
    split
    · next heq =>
      subst heq
      exact .inr ⟨hconn, hshows, hle, Int.lt_succ _⟩
    · rcases h.display conn' with hd | ⟨hmem, hshows, hge, hlt⟩
      · exact .inl hd
      · exact .inr ⟨hmem, hshows, hge, Int.lt_trans hlt (Int.lt_succ _)⟩
  · intro conn₁ conn₂ hge heq
    rw [Numbering.take_display] at hge heq
    rw [Numbering.take_display] at heq
    split at heq <;> split at heq
    · next h₁ h₂ => rw [h₁, h₂]
    · exact absurd heq.symm (Int.ne_of_lt (hother conn₂))
    · exact absurd heq (Int.ne_of_lt (hother conn₁))
    · next h₁ _ =>
      rw [if_neg h₁] at hge
      exact h.injective conn₁ conn₂ hge heq
  · intro d hge hlt
    rcases Int.lt_or_eq_of_le (Int.lt_add_one_iff.mp hlt) with hlt | rfl
    · obtain ⟨conn', hmem, rfl⟩ := h.surjective d hge hlt
      refine ⟨conn', hmem, ?_⟩
      rw [Numbering.take_display, if_neg]
      rintro rfl
      omega
    · exact ⟨conn, hconn, by rw [Numbering.take_display, if_pos rfl]⟩
  · have hlength : (s.take conn).dev.displays = s.dev.displays ++ [s.numDisplays] := rfl
    rw [hlength, List.length_append, List.length_singleton, List.range_succ, List.map_append,
      ← h.displays, List.map_singleton, ← h.length]
  · have hlength : (s.take conn).dev.displays = s.dev.displays ++ [s.numDisplays] := rfl
    have hnum : (s.take conn).numDisplays = s.numDisplays + 1 := rfl
    rw [hnum, hlength, h.length]
    simp [Int.add_assoc]
  · exact nofun

theorem other (h : Numbered n s) (hn : 0 ≤ n) (hconn : conn ∈ s.dev.connectors) :
    Numbered n (s.other conn) := by
  unfold Numbering.other
  split
  · next hshows =>
    split
    · next hfound => exact h.take hn hconn hshows (by simp [h.none (by simpa using hfound) conn])
    · split
      · next hnew => exact h.take hn hconn hshows hnew
      · exact h
  · exact h

theorem primary (h : Numbered n s) (hn : 0 ≤ n) : Numbered n s.primary := by
  unfold Numbering.primary
  split
  · next conn hfind =>
    have hp := List.find?_some hfind
    simp only [Bool.and_eq_true, Bool.not_eq_true'] at hp
    refine h.take hn (List.mem_of_find?_eq_some hfind) ?_ ?_
    · simp [DrmDevice.shows, hp.1]
    · simp [h.none hp.2 conn]
  · exact h

end Numbered

theorem other_sameObjects (s : Numbering) (conn : Nat) : SameObjects s.dev (s.other conn).dev := by
  unfold Numbering.other
  repeat' split
  all_goals first | exact s.take_sameObjects conn | exact .refl _

theorem primary_sameObjects (s : Numbering) : SameObjects s.dev s.primary.dev := by
  unfold Numbering.primary
  split
  · exact s.take_sameObjects _
  · exact .refl _

/-- A connector keeps the number it has. -/
theorem other_keeps {s : Numbering} (hnone : s.foundPrimary = false →
    ∀ conn, (s.dev.connector conn).display = -1) {conn conn' : Nat}
    (h : 0 ≤ (s.dev.connector conn').display) :
    ((s.other conn).dev.connector conn').display = (s.dev.connector conn').display := by
  have htake : (s.dev.connector conn).display < 0 →
      ((s.take conn).dev.connector conn').display = (s.dev.connector conn').display := by
    intro hnew
    rw [Numbering.take_display, if_neg]
    rintro rfl
    omega
  unfold Numbering.other
  split
  · split
    · next hfound => exact htake (by simp [hnone (by simpa using hfound) conn])
    · split
      · next hnew => exact htake hnew
      · rfl
  · rfl

/-- The connector has a number after its turn. -/
theorem other_numbers {n : Int} {s : Numbering} (h : Numbered n s) (hn : 0 ≤ n) {conn : Nat}
    (hshows : s.dev.shows conn = true) : 0 ≤ ((s.other conn).dev.connector conn).display := by
  have hle := h.le
  have htake : 0 ≤ ((s.take conn).dev.connector conn).display := by
    rw [Numbering.take_display, if_pos rfl]
    exact Int.le_trans hn hle
  unfold Numbering.other
  rw [if_pos (show (s.dev.external conn || s.dev.internal conn) = true from hshows)]
  split
  · exact htake
  · split
    · exact htake
    · next hold => exact Int.not_lt.mp hold

/-- **The loop over the connectors** numbers those that can show a display. -/
theorem foldl_other {n : Int} (hn : 0 ≤ n) {s : Numbering} (h : Numbered n s) (l : List Nat)
    (hl : ∀ conn ∈ l, conn ∈ s.dev.connectors) :
    Numbered n (l.foldl Numbering.other s) ∧ SameObjects s.dev (l.foldl Numbering.other s).dev ∧
      (∀ conn, 0 ≤ (s.dev.connector conn).display →
        ((l.foldl Numbering.other s).dev.connector conn).display = (s.dev.connector conn).display) ∧
      ∀ conn ∈ l, s.dev.shows conn = true →
        0 ≤ ((l.foldl Numbering.other s).dev.connector conn).display := by
  induction l generalizing s with
  | nil => exact ⟨h, .refl _, fun _ _ => rfl, by simp⟩
  | cons conn l ih =>
    have hsame := other_sameObjects s conn
    have hmem : ∀ conn' ∈ l, conn' ∈ (s.other conn).dev.connectors := by
      intro conn' hconn'
      rw [hsame.connectors]
      exact hl conn' (List.mem_cons_of_mem _ hconn')
    obtain ⟨hnumbered, hsame', hkeeps, hnumbers⟩ :=
      ih (h.other hn (hl conn List.mem_cons_self)) hmem
    have hkeep : ∀ conn', 0 ≤ (s.dev.connector conn').display →
        ((s.other conn).dev.connector conn').display = (s.dev.connector conn').display :=
      fun _ => other_keeps h.none
    refine ⟨hnumbered, hsame.trans hsame', ?_, ?_⟩
    · intro conn' hge
      rw [List.foldl_cons, hkeeps conn' (by rwa [hkeep conn' hge]), hkeep conn' hge]
    · intro conn' hconn' hshows
      rcases List.mem_cons.mp hconn' with rfl | hconn'
      · have hnow := other_numbers h hn hshows
        rw [List.foldl_cons, hkeeps conn' hnow]
        exact hnow
      · exact hnumbers conn' hconn' (by rwa [hsame.shows])

/-! ### What a call does to the crtcs -/

/-- A crtc that the encoder can be connected to. -/
def DrmDevice.Reaches (dev : DrmDevice) (enc crtc : Nat) : Prop :=
  (dev.encoder enc).crtc = some crtc ∨ crtc ∈ (dev.encoder enc).possibleCrtcs

namespace DrmDevice

variable {dev dev' : DrmDevice} {display : Int} {conn enc crtc : Nat}

theorem tryEncoderForDisplay_some (h : dev.tryEncoderForDisplay display enc = some dev') :
    ∃ crtc, dev.Reaches enc crtc ∧ dev.canBind display crtc = true ∧
      dev' = dev.bind display enc crtc := by
  unfold tryEncoderForDisplay at h
  split at h
  · next crtc hcurrent =>
    split at h
    · next hbind => exact ⟨crtc, .inl hcurrent, hbind, (Option.some.inj h).symm⟩
    · obtain ⟨crtc', hfind, rfl⟩ := Option.map_eq_some_iff.mp h
      have hp := List.find?_some hfind
      simp only [decide_eq_true_eq] at hp
      exact ⟨crtc', .inr (List.mem_of_find?_eq_some hfind), hp.2, rfl⟩
  · obtain ⟨crtc', hfind, rfl⟩ := Option.map_eq_some_iff.mp h
    exact ⟨crtc', .inr (List.mem_of_find?_eq_some hfind), List.find?_some hfind, rfl⟩

theorem tryEncoders_some {encs : List Nat} (h : dev.tryEncoders conn encs = some dev') :
    ∃ enc ∈ encs, ∃ crtc, dev.Reaches enc crtc ∧
      dev.canBind (dev.connector conn).display crtc = true ∧
      dev' = (dev.bind (dev.connector conn).display enc crtc).setEncoder conn enc := by
  induction encs with
  | nil => cases h
  | cons enc encs ih =>
    unfold tryEncoders at h
    split at h
    · next hnow =>
      obtain ⟨crtc, hreaches, hbind, rfl⟩ := tryEncoderForDisplay_some hnow
      exact ⟨enc, List.mem_cons_self, crtc, hreaches, hbind, (Option.some.inj h).symm⟩
    · obtain ⟨enc', hmem, hrest⟩ := ih h
      exact ⟨enc', List.mem_cons_of_mem _ hmem, hrest⟩

theorem setEncoder_of_eq (h : (dev.connector conn).encoder = some enc) :
    dev.setEncoder conn enc = dev := by
  have hconn : { dev.connector conn with encoder := some enc } = dev.connector conn := by
    rw [← h]
  simp only [setEncoder, hconn, update_eq_self]

/-- **What `CreateDisplayPipe` does**: the connector is connected, through an encoder, to
    a crtc that it can bind. -/
theorem createDisplayPipe_some (h : dev.createDisplayPipe conn = some dev') :
    ∃ enc crtc, dev.Reaches enc crtc ∧ dev.canBind (dev.connector conn).display crtc = true ∧
      dev' = (dev.bind (dev.connector conn).display enc crtc).setEncoder conn enc := by
  have hrest : dev.tryEncoders conn (dev.connector conn).possibleEncoders = some dev' →
      ∃ enc crtc, dev.Reaches enc crtc ∧ dev.canBind (dev.connector conn).display crtc = true ∧
        dev' = (dev.bind (dev.connector conn).display enc crtc).setEncoder conn enc := by
    intro h
    obtain ⟨enc, -, crtc, hcrtc⟩ := tryEncoders_some h
    exact ⟨enc, crtc, hcrtc⟩
  unfold createDisplayPipe at h
  split at h
  · next enc henc =>
    split at h
    · next hnow =>
      obtain ⟨crtc, hreaches, hbind, rfl⟩ := tryEncoderForDisplay_some hnow
      refine ⟨enc, crtc, hreaches, hbind, ?_⟩
      have henc' : ((dev.bind (dev.connector conn).display enc crtc).connector conn).encoder
          = some enc := henc
      rw [setEncoder_of_eq henc']
      exact (Option.some.inj h).symm
    · exact hrest h
  · exact hrest h

/-- **What `AttachWriteback` does** for a display without a writeback connector. -/
theorem attachWriteback_some (hnone : dev.getWritebackConnectorForDisplay display = none)
    (h : dev.attachWriteback display = some dev') :
    ∃ conn ∈ dev.writebackConnectors, ∃ enc ∈ (dev.connector conn).possibleEncoders,
      ∃ crtc ∈ (dev.encoder enc).possibleCrtcs,
        (dev.crtcDisplay crtc = display ∨
          dev.crtcDisplay crtc < 0 ∧ ∀ c ∈ dev.crtcs, dev.crtcDisplay c ≠ display) ∧
        dev' = ((dev.bind display enc crtc).setEncoder conn enc).setDisplay conn display := by
  unfold attachWriteback at h
  rw [hnone] at h
  simp only [Option.isSome_none, Bool.false_eq_true, if_false] at h
  split at h
  · cases h
  · next conn enc crtc hfind =>
    have hmem := List.mem_of_find?_eq_some hfind
    simp only [writebackPaths, List.mem_flatMap, List.mem_map, Prod.mk.injEq] at hmem
    obtain ⟨conn, hconn, enc, henc, crtc, hcrtc, rfl, rfl, rfl⟩ := hmem
    have husable := List.find?_some hfind
    refine ⟨conn, hconn, enc, henc, crtc, hcrtc, ?_, (Option.some.inj h).symm⟩
    unfold usable at husable
    split at husable
    · next c hlast =>
      have hc := List.mem_filter.mp (List.mem_of_getLast? hlast)
      have heq : crtc = c := of_decide_eq_true husable
      exact .inl (heq ▸ of_decide_eq_true hc.2)
    · next hlast =>
      refine .inr ⟨of_decide_eq_true husable, fun c hc heq => ?_⟩
      have hnil := List.getLast?_eq_none_iff.mp hlast
      have hmem : c ∈ dev.crtcs.filter fun crtc => dev.crtcDisplay crtc = display :=
        List.mem_filter.mpr ⟨hc, decide_eq_true heq⟩
      rw [hnil] at hmem
      cases hmem

end DrmDevice

/-- The bookkeeping of the crtcs. -/
structure Allocation (dev : DrmDevice) : Prop where
  range : ∀ crtc, -1 ≤ dev.crtcDisplay crtc
  bound : ∀ crtc, 0 ≤ dev.crtcDisplay crtc → crtc ∈ dev.crtcs
  unique : ∀ crtc crtc', 0 ≤ dev.crtcDisplay crtc →
    dev.crtcDisplay crtc = dev.crtcDisplay crtc' → crtc = crtc'
  encoder : ∀ enc, 0 ≤ (dev.encoder enc).display →
    ∃ crtc, (dev.encoder enc).crtc = some crtc ∧ dev.crtcDisplay crtc = (dev.encoder enc).display
  reaches : ∀ enc crtc, dev.Reaches enc crtc → crtc ∈ dev.crtcs

/-- The crtc may be bound to the display: it is bound already, or it is free and so far no
    crtc shows the display. -/
def DrmDevice.MayBind (dev : DrmDevice) (display : Int) (crtc : Nat) : Prop :=
  dev.crtcDisplay crtc = display ∨
    dev.crtcDisplay crtc = -1 ∧ (0 ≤ display → ∀ c, dev.crtcDisplay c ≠ display)

namespace Allocation

variable {dev : DrmDevice} {display : Int} {conn enc crtc : Nat}

theorem bind (h : Allocation dev) (hdisplay : -1 ≤ display) (hreaches : dev.Reaches enc crtc)
    (hmay : dev.MayBind display crtc) : Allocation (dev.bind display enc crtc) := by
  have hcrtc := h.reaches enc crtc hreaches
  have hnew : ∀ c, c ≠ crtc → 0 ≤ display → dev.crtcDisplay c ≠ display := by
    intro c hc hge heq
    rcases hmay with hbound | ⟨-, hfree⟩
    · exact hc (h.unique c crtc (heq ▸ hge) (heq.trans hbound.symm))
    · exact hfree hge c heq
  constructor
  · intro c
    rcases eq_or_ne c crtc with rfl | hc
    · simpa [DrmDevice.bind] using hdisplay
    · simpa [DrmDevice.bind, hc] using h.range c
  · intro c hge
    rcases eq_or_ne c crtc with rfl | hc
    · exact hcrtc
    · exact h.bound c (by simpa [DrmDevice.bind, hc] using hge)
  · intro c c' hge heq
    by_cases hc : c = crtc <;> by_cases hc' : c' = crtc
    · rw [hc, hc']
    · subst hc
      simp only [DrmDevice.bind, update_self, update_of_ne hc'] at hge heq
      exact absurd heq.symm (hnew c' hc' hge)
    · subst hc'
      simp only [DrmDevice.bind, update_self, update_of_ne hc] at hge heq
      exact absurd heq (hnew c hc (heq ▸ hge))
    · simp only [DrmDevice.bind, update_of_ne hc, update_of_ne hc'] at hge heq
      exact h.unique c c' hge heq
  · intro e hge
    rcases eq_or_ne e enc with rfl | he
    · exact ⟨crtc, by simp [DrmDevice.bind]⟩
    · simp only [DrmDevice.bind, update_of_ne he] at hge ⊢
      obtain ⟨c, hc, hshown⟩ := h.encoder e hge
      refine ⟨c, hc, ?_⟩
      rcases eq_or_ne c crtc with rfl | hne
      · rw [update_self]
        rcases hmay with hbound | ⟨hfree, -⟩
        · exact hbound.symm.trans hshown
        · rw [← hshown, hfree] at hge
          exact absurd hge (by decide)
      · rwa [update_of_ne hne]
  · intro e c hc
    rcases eq_or_ne e enc with rfl | he
    · rcases hc with hc | hc
      · simp only [DrmDevice.bind, update_self, Option.some.injEq] at hc
        exact hc ▸ hcrtc
      · simp only [DrmDevice.bind, update_self] at hc
        exact h.reaches e c (.inr hc)
    · simp only [DrmDevice.Reaches, DrmDevice.bind, update_of_ne he] at hc
      exact h.reaches e c hc

theorem setEncoder (h : Allocation dev) (conn enc : Nat) : Allocation (dev.setEncoder conn enc) :=
  ⟨h.range, h.bound, h.unique, h.encoder, h.reaches⟩

theorem setDisplay (h : Allocation dev) (conn : Nat) (display : Int) :
    Allocation (dev.setDisplay conn display) :=
  ⟨h.range, h.bound, h.unique, h.encoder, h.reaches⟩

/-- A crtc that is bound keeps its display. -/
theorem bind_keeps (hmay : dev.MayBind display crtc) {c : Nat} (hc : 0 ≤ dev.crtcDisplay c) :
    (dev.bind display enc crtc).crtcDisplay c = dev.crtcDisplay c := by
  rcases eq_or_ne c crtc with rfl | hne
  · rcases hmay with hbound | ⟨hfree, -⟩
    · simp [DrmDevice.bind, hbound]
    · rw [hfree] at hc
      exact absurd hc (by decide)
  · simp [DrmDevice.bind, hne]

end Allocation

/-! ### Init -/

/-- The objects as they are created. -/
structure Fresh (dev : DrmDevice) : Prop where
  display : ∀ conn, (dev.connector conn).display = -1
  crtcDisplay : ∀ crtc, dev.crtcDisplay crtc = -1
  encoder : ∀ enc, (dev.encoder enc).display = -1
  displays : dev.displays = []
  nodup : dev.connectors.Nodup
  disjoint : ∀ conn ∈ dev.writebackConnectors, conn ∉ dev.connectors
  reaches : ∀ enc crtc, dev.Reaches enc crtc → crtc ∈ dev.crtcs

theorem positions_nodup {α : Type} (l : List α) (p : α → Bool) : (positions l p).Nodup :=
  List.nodup_range.filter _

theorem mem_positions {α : Type} {l : List α} {p : α → Bool} {i : Nat} :
    i ∈ positions l p ↔ ∃ a, l[i]? = some a ∧ p a = true := by
  simp only [positions, List.mem_filter, List.mem_range]
  constructor
  · rintro ⟨hi, hp⟩
    rw [List.getElem?_eq_getElem hi] at hp ⊢
    exact ⟨_, rfl, by simpa using hp⟩
  · rintro ⟨a, ha, hp⟩
    obtain ⟨hi, -⟩ := List.getElem?_eq_some_iff.mp ha
    exact ⟨hi, by simpa [ha] using hp⟩

/-- The kernel's lists, taken apart. -/
theorem objects_fresh {res : DrmModeRes} {dev : DrmDevice} (h : res.objects = .ok dev) :
    Fresh dev := by
  unfold DrmModeRes.objects at h
  cases hcrtcs : res.crtcs.mapM id with
  | error e => simp [hcrtcs, bind, Except.bind] at h
  | ok crtcs =>
    cases hencoders : res.encoders.mapM id with
    | error e => simp [hcrtcs, hencoders, bind, Except.bind] at h
    | ok encoders =>
      cases hconnectors : res.connectors.mapM id with
      | error e => simp [hcrtcs, hencoders, hconnectors, bind, Except.bind] at h
      | ok connectors =>
        simp only [hcrtcs, hencoders, hconnectors, bind, Except.bind, pure, Except.pure,
          Except.ok.injEq] at h
        subst h
        constructor
        · intro conn
          cases hconn : connectors[conn]? <;>
            simp [hconn, DrmModeConnector.toConnector]
        · exact fun _ => rfl
        · intro enc
          cases henc : encoders[enc]? <;> simp [henc, DrmModeEncoder.toEncoder]
        · rfl
        · exact positions_nodup _ _
        · intro conn hconn hconn'
          obtain ⟨c, hc, hp⟩ := mem_positions.mp hconn
          obtain ⟨c', hc', hp'⟩ := mem_positions.mp hconn'
          rw [hc] at hc'
          obtain rfl := Option.some.inj hc'
          rw [decide_eq_true_eq] at hp hp'
          exact hp' hp
        · intro enc crtc hreaches
          have henc : ∃ e, encoders[enc]? = some e := by
            cases henc : encoders[enc]? with
            | none => simp [DrmDevice.Reaches, henc] at hreaches
            | some e => exact ⟨e, rfl⟩
          obtain ⟨e, henc⟩ := henc
          simp only [DrmDevice.Reaches, henc, Option.map_some, Option.getD_some,
            DrmModeEncoder.toEncoder] at hreaches
          rcases hreaches with hlast | hmem
          · exact (List.mem_filter.mp (List.mem_of_getLast? hlast)).1
          · exact (List.mem_filter.mp hmem).1

theorem find?_unique {α : Type} {l : List α} {p : α → Bool} {a : α} (ha : a ∈ l) (hp : p a = true)
    (hunique : ∀ b ∈ l, p b = true → b = a) : l.find? p = some a := by
  cases hfind : l.find? p with
  | none => exact absurd hp (by simpa using List.find?_eq_none.mp hfind a ha)
  | some b => rw [hunique b (List.mem_of_find?_eq_some hfind) (List.find?_some hfind)]

/-- Without an internal connector the first external one is the primary display. -/
theorem foldl_other_first {n : Int} (hn : 0 ≤ n) {s : Numbering} (h : Numbered n s)
    (hfound : s.foundPrimary = false) (hnum : s.numDisplays = n) {l : List Nat}
    (hl : ∀ conn ∈ l, conn ∈ s.dev.connectors) (hinternal : ∀ conn ∈ l, s.dev.internal conn = false)
    {conn : Nat} (hfind : l.find? s.dev.external = some conn) :
    ((l.foldl Numbering.other s).dev.connector conn).display = n := by
  induction l with
  | nil => cases hfind
  | cons c l ih =>
    have hmem := List.forall_mem_cons.mp hl
    rw [List.foldl_cons]
    rcases hc : s.dev.external c with _ | _
    · have hother : s.other c = s := by
        simp [Numbering.other, hc, hinternal c List.mem_cons_self]
      rw [hother]
      rw [List.find?_cons_of_neg (by simp [hc])] at hfind
      exact ih hmem.2 (fun c' hc' => hinternal c' (List.mem_cons_of_mem _ hc')) hfind
    · rw [List.find?_cons_of_pos hc] at hfind
      obtain rfl := Option.some.inj hfind
      have hother : s.other c = s.take c := by simp [Numbering.other, hc, hfound]
      have hdisplay : ((s.other c).dev.connector c).display = n := by
        rw [hother, Numbering.take_display, if_pos rfl, hnum]
      have hl' : ∀ conn ∈ l, conn ∈ (s.other c).dev.connectors := by
        rw [(other_sameObjects s c).connectors]
        exact hmem.2
      obtain ⟨-, -, hkeeps, -⟩ := foldl_other hn (h.other hn hmem.1) l hl'
      rw [hkeeps c (hdisplay ▸ hn), hdisplay]

/-- What numbering the displays leaves. -/
structure Numbers (n : Int) (dev : DrmDevice) : Prop where
  displays : ∀ d, dev.handlesDisplay d = true ↔ n ≤ d ∧ d < n + dev.displays.length
  connector : ∀ d, dev.handlesDisplay d = true →
    ∃! conn, conn ∈ dev.connectors ∧ (dev.connector conn).display = d
  shows : ∀ conn ∈ dev.connectors, 0 ≤ (dev.connector conn).display ↔ dev.shows conn = true
  handled : ∀ conn ∈ dev.connectors, 0 ≤ (dev.connector conn).display →
    dev.handlesDisplay (dev.connector conn).display = true
  primary : n = 0 → dev.getConnectorForDisplay 0 =
    (dev.connectors.find? dev.internal).or (dev.connectors.find? dev.external)

theorem mem_displays {n : Int} {s : Numbering} (h : Numbered n s) (d : Int) :
    s.dev.handlesDisplay d = true ↔ n ≤ d ∧ d < n + s.dev.displays.length := by
  rw [DrmDevice.handlesDisplay, decide_eq_true_eq, h.displays]
  simp only [List.mem_map, List.mem_range, List.length_map, List.length_range]
  constructor
  · rintro ⟨k, hk, rfl⟩
    omega
  · rintro ⟨hge, hlt⟩
    exact ⟨(d - n).toNat, by omega, by omega⟩

section Finish

variable {dev : DrmDevice} {n : Int}

theorem start_numbered (h : Fresh dev) : Numbered n (.start dev n) where
  le := Int.le_refl n
  display conn := .inl (h.display conn)
  injective conn conn' hge := by
    rw [show ((Numbering.start dev n).dev.connector conn).display = -1 from h.display conn] at hge
    exact absurd hge (by decide)
  surjective d hge hlt := absurd hlt (Int.not_lt.mpr hge)
  displays := by simp [Numbering.start, h.displays]
  length := by simp [Numbering.start, h.displays]
  none _ := h.display

theorem finish_numbered (h : Fresh dev) (hn : 0 ≤ n) : Numbered n (Numbering.start dev n).finish :=
  (foldl_other hn ((start_numbered h).primary hn) _ fun _ => id).1

theorem finish_sameObjects (h : Fresh dev) (hn : 0 ≤ n) :
    SameObjects dev (numberDisplays dev n) :=
  (primary_sameObjects (.start dev n)).trans
    (foldl_other hn ((start_numbered h).primary hn) _ fun _ => id).2.1

theorem finish_keeps (h : Fresh dev) (hn : 0 ≤ n) {conn : Nat}
    (hge : 0 ≤ ((Numbering.start dev n).primary.dev.connector conn).display) :
    ((numberDisplays dev n).connector conn).display =
      ((Numbering.start dev n).primary.dev.connector conn).display :=
  (foldl_other hn ((start_numbered h).primary hn) _ fun _ => id).2.2.1 conn hge

theorem finish_shows (h : Fresh dev) (hn : 0 ≤ n) {conn : Nat} (hconn : conn ∈ dev.connectors)
    (hshows : dev.shows conn = true) : 0 ≤ ((numberDisplays dev n).connector conn).display := by
  have hsame := primary_sameObjects (.start dev n)
  refine (foldl_other hn ((start_numbered h).primary hn) _ fun _ => id).2.2.2 conn ?_ ?_
  · rw [hsame.connectors]
    exact hconn
  · rw [hsame.shows]
    exact hshows

/-- The primary display is the first internal connector, else the first external one. -/
theorem numberDisplays_primary (h : Fresh dev) {conn : Nat}
    (hfirst : (dev.connectors.find? dev.internal).or (dev.connectors.find? dev.external) =
      some conn) : ((numberDisplays dev 0).connector conn).display = 0 := by
  cases hfind : dev.connectors.find? dev.internal with
  | some c =>
    rw [hfind, Option.some_or] at hfirst
    obtain rfl := Option.some.inj hfirst
    have hprimary : (Numbering.start dev 0).primary = (Numbering.start dev 0).take c := by
      simp [Numbering.primary, Numbering.start, hfind]
    have hzero : ((Numbering.start dev 0).primary.dev.connector c).display = 0 := by
      rw [hprimary, Numbering.take_display, if_pos rfl]
      rfl
    rw [finish_keeps h (Int.le_refl 0) (Int.le_of_eq hzero.symm), hzero]
  | none =>
    rw [hfind, Option.none_or] at hfirst
    have hprimary : (Numbering.start dev 0).primary = .start dev 0 := by
      simp [Numbering.primary, Numbering.start, hfind]
    have hnone : ∀ conn ∈ dev.connectors, dev.internal conn = false := by
      simpa using List.find?_eq_none.mp hfind
    unfold numberDisplays Numbering.finish
    rw [hprimary]
    exact foldl_other_first (Int.le_refl 0) (start_numbered h) rfl rfl (fun _ => id) hnone hfirst

theorem numberDisplays_numbers (h : Fresh dev) (hn : 0 ≤ n) : Numbers n (numberDisplays dev n) := by
  have hnumbered := finish_numbered h hn
  have hsame := finish_sameObjects h hn
  have hdisplays : ∀ d, (numberDisplays dev n).handlesDisplay d = true ↔
      n ≤ d ∧ d < n + (numberDisplays dev n).displays.length := mem_displays hnumbered
  have hdisplay : ∀ conn, 0 ≤ ((numberDisplays dev n).connector conn).display →
      (numberDisplays dev n).shows conn = true ∧
        (numberDisplays dev n).handlesDisplay ((numberDisplays dev n).connector conn).display =
          true := by
    intro conn hge
    rcases hnumbered.display conn with hd | ⟨-, hshows, hle, hlt⟩
    · rw [numberDisplays, hd] at hge
      exact absurd hge (by decide)
    · exact ⟨hshows, (hdisplays _).mpr ⟨hle, hnumbered.length ▸ hlt⟩⟩
  refine ⟨hdisplays, ?_, ?_, fun conn _ hge => (hdisplay conn hge).2, ?_⟩
  · intro d hd
    obtain ⟨hge, hlt⟩ := (hdisplays d).mp hd
    obtain ⟨conn, hconn, rfl⟩ := hnumbered.surjective d hge (hnumbered.length ▸ hlt)
    refine ⟨conn, ⟨hconn, rfl⟩, ?_⟩
    rintro conn' ⟨-, heq⟩
    exact (hnumbered.injective conn conn' (Int.le_trans hn hge) heq.symm).symm
  · intro conn hconn
    refine ⟨fun hge => (hdisplay conn hge).1, fun hshows => ?_⟩
    exact finish_shows h hn (hsame.connectors ▸ hconn) (hsame.shows conn ▸ hshows)
  · rintro rfl
    have hinternal : (numberDisplays dev 0).internal = dev.internal := by
      funext conn
      simp [DrmDevice.internal, hsame.type]
    have hexternal : (numberDisplays dev 0).external = dev.external := by
      funext conn
      simp [DrmDevice.external, hsame.type]
    rw [hsame.connectors, hinternal, hexternal]
    cases hfirst : (dev.connectors.find? dev.internal).or (dev.connectors.find? dev.external) with
    | some conn =>
      have hzero := numberDisplays_primary h hfirst
      have hmem : conn ∈ dev.connectors := by
        rcases Option.or_eq_some_iff.mp hfirst with hfind | ⟨-, hfind⟩
        · exact List.mem_of_find?_eq_some hfind
        · exact List.mem_of_find?_eq_some hfind
      refine find?_unique (hsame.connectors ▸ hmem) (decide_eq_true hzero) fun conn' _ hconn' => ?_
      have hzero' := of_decide_eq_true hconn'
      exact hnumbered.injective conn' conn (Int.le_of_eq hzero'.symm) (hzero'.trans hzero.symm)
    | none =>
      obtain ⟨hfind, hfind'⟩ := Option.or_eq_none_iff.mp hfirst
      refine List.find?_eq_none.mpr fun conn hconn hzero => ?_
      have hshows := (hdisplay conn (Int.le_of_eq (of_decide_eq_true hzero).symm)).1
      have hnot := List.find?_eq_none.mp hfind conn (hsame.connectors ▸ hconn)
      have hnot' := List.find?_eq_none.mp hfind' conn (hsame.connectors ▸ hconn)
      rw [hsame.shows] at hshows
      simp [DrmDevice.shows, hnot, hnot'] at hshows

theorem numberDisplays_range (h : Fresh dev) (hn : 0 ≤ n) (conn : Nat) :
    -1 ≤ ((numberDisplays dev n).connector conn).display := by
  rcases (finish_numbered h hn).display conn with hd | ⟨-, -, hge, -⟩
  · exact Int.le_of_eq hd.symm
  · exact Int.le_trans (by decide) (Int.le_trans hn hge)

theorem numberDisplays_writeback (h : Fresh dev) (hn : 0 ≤ n) {conn : Nat}
    (hconn : conn ∈ dev.writebackConnectors) :
    ((numberDisplays dev n).connector conn).display = -1 := by
  rcases (finish_numbered h hn).display conn with hd | ⟨hmem, -⟩
  · exact hd
  · have hconns : (numberDisplays dev n).connectors = dev.connectors :=
      (finish_sameObjects h hn).connectors
    exact absurd (hconns ▸ hmem) (h.disjoint conn hconn)

end Finish

/-! ### The pipes of the connectors -/

/-- The encoder is connected to a crtc that shows the display. -/
def DrmDevice.Drives (dev : DrmDevice) (enc : Nat) (display : Int) : Prop :=
  ∃ crtc, (dev.encoder enc).crtc = some crtc ∧ dev.crtcDisplay crtc = display

/-- The connectors in `done` have their pipes. -/
structure Connected (done : List Nat) (dev : DrmDevice) : Prop where
  allocation : Allocation dev
  shown : ∀ crtc, 0 ≤ dev.crtcDisplay crtc →
    ∃ conn ∈ done, (dev.connector conn).display = dev.crtcDisplay crtc
  served : ∀ conn ∈ done, 0 ≤ (dev.connector conn).display →
    ∃ crtc, dev.crtcDisplay crtc = (dev.connector conn).display
  pipe : ∀ conn ∈ done, 0 ≤ (dev.connector conn).display →
    ∃ enc, (dev.connector conn).encoder = some enc ∧
      (dev.Drives enc (dev.connector conn).display ∨
        ∃ other ∈ done, other ≠ conn ∧ (dev.connector other).encoder = some enc)

section Bind

variable {dev : DrmDevice} {display : Int} {conn conn' enc enc' crtc : Nat}

@[simp] theorem bind_connector : (dev.bind display enc crtc).connector = dev.connector := rfl

theorem setEncoder_display :
    ((dev.setEncoder conn enc).connector conn').display = (dev.connector conn').display := by
  rcases eq_or_ne conn' conn with rfl | h
  · simp [DrmDevice.setEncoder]
  · simp [DrmDevice.setEncoder, h]

theorem setEncoder_self : ((dev.setEncoder conn enc).connector conn).encoder = some enc := by
  simp [DrmDevice.setEncoder]

theorem setEncoder_of_ne (h : conn' ≠ conn) :
    (dev.setEncoder conn enc).connector conn' = dev.connector conn' := by
  simp [DrmDevice.setEncoder, h]

theorem drives_bind : (dev.bind display enc crtc).Drives enc display :=
  ⟨crtc, by simp [DrmDevice.bind]⟩

/-- Another encoder drives what it drove. -/
theorem Drives.bind {d : Int} (h : dev.Drives enc' d) (hd : 0 ≤ d) (hne : enc' ≠ enc)
    (hmay : dev.MayBind display crtc) : (dev.bind display enc crtc).Drives enc' d := by
  obtain ⟨c, hc, hshown⟩ := h
  refine ⟨c, ?_, ?_⟩
  · simpa [DrmDevice.bind, hne] using hc
  · rw [Allocation.bind_keeps hmay (hshown ▸ hd), hshown]

end Bind

theorem Connected.createDisplayPipe {done : List Nat} {dev dev' : DrmDevice} {conn : Nat}
    (h : Connected done dev) (hnew : conn ∉ done) (hrange : -1 ≤ (dev.connector conn).display)
    (hdistinct : ∀ conn' ∈ done, 0 ≤ (dev.connector conn).display →
      (dev.connector conn').display ≠ (dev.connector conn).display)
    (hpipe : dev.createDisplayPipe conn = some dev') :
    Connected (conn :: done) dev' ∧
      ∀ c, (dev'.connector c).display = (dev.connector c).display := by
  obtain ⟨enc, crtc, hreaches, hbind, rfl⟩ := DrmDevice.createDisplayPipe_some hpipe
  have hfree : 0 ≤ (dev.connector conn).display →
      ∀ c, dev.crtcDisplay c ≠ (dev.connector conn).display := by
    intro hge c heq
    obtain ⟨conn', hconn', hshown⟩ := h.shown c (heq ▸ hge)
    exact hdistinct conn' hconn' hge (hshown.trans heq)
  have hmay : dev.MayBind (dev.connector conn).display crtc := by
    simp only [DrmDevice.canBind, Bool.or_eq_true, decide_eq_true_eq] at hbind
    rcases hbind with hbind | hbind
    · exact .inr ⟨hbind, hfree⟩
    · exact .inl hbind
  have hdisplay : ∀ c, (((dev.bind (dev.connector conn).display enc crtc).setEncoder conn
      enc).connector c).display = (dev.connector c).display := fun c => setEncoder_display
  have hkeeps : ∀ c, 0 ≤ dev.crtcDisplay c →
      (dev.bind (dev.connector conn).display enc crtc).crtcDisplay c = dev.crtcDisplay c :=
    fun c => Allocation.bind_keeps hmay
  refine ⟨⟨(h.allocation.bind hrange hreaches hmay).setEncoder conn enc, ?_, ?_, ?_⟩, hdisplay⟩
  · intro c hge
    rcases eq_or_ne c crtc with rfl | hc
    · refine ⟨conn, List.mem_cons_self, ?_⟩
      rw [hdisplay]
      simp [DrmDevice.setEncoder, DrmDevice.bind]
    · have hsame : (dev.bind (dev.connector conn).display enc crtc).crtcDisplay c =
          dev.crtcDisplay c := by
        simp [DrmDevice.bind, hc]
      obtain ⟨conn', hconn', hshown⟩ := h.shown c (hsame ▸ hge)
      refine ⟨conn', List.mem_cons_of_mem _ hconn', ?_⟩
      rw [hdisplay, hshown]
      exact hsame.symm
  · intro c hc hge
    rw [hdisplay] at hge ⊢
    rcases List.mem_cons.mp hc with rfl | hc
    · exact ⟨crtc, by simp [DrmDevice.setEncoder, DrmDevice.bind]⟩
    · obtain ⟨crtc', hcrtc'⟩ := h.served c hc hge
      exact ⟨crtc', (hkeeps crtc' (hcrtc' ▸ hge)).trans hcrtc'⟩
  · intro c hc hge
    rw [hdisplay] at hge ⊢
    rcases List.mem_cons.mp hc with rfl | hdone
    · exact ⟨enc, setEncoder_self, .inl drives_bind⟩
    · have hne : c ≠ conn := fun heq => hnew (heq ▸ hdone)
      obtain ⟨enc', henc', hdrives⟩ := h.pipe c hdone hge
      refine ⟨enc', by rw [setEncoder_of_ne hne]; exact henc', ?_⟩
      rcases eq_or_ne enc' enc with rfl | hencs
      · exact .inr ⟨conn, List.mem_cons_self, hne.symm, setEncoder_self⟩
      · rcases hdrives with hdrives | ⟨other, hother, hneq, hshared⟩
        · exact .inl (Drives.bind hdrives hge hencs hmay)
        · refine .inr ⟨other, List.mem_cons_of_mem _ hother, hneq, ?_⟩
          rw [setEncoder_of_ne]
          · exact hshared
          · rintro rfl
            exact hnew hother

theorem Connected.createDisplayPipes {done conns : List Nat} {dev dev' : DrmDevice}
    (h : Connected done dev) (hnodup : (conns.reverse ++ done).Nodup)
    (hrange : ∀ conn, -1 ≤ (dev.connector conn).display)
    (hdistinct : ∀ conn conn', 0 ≤ (dev.connector conn).display →
      (dev.connector conn).display = (dev.connector conn').display → conn = conn')
    (hpipes : createDisplayPipes conns dev = some dev') :
    Connected (conns.reverse ++ done) dev' ∧
      ∀ c, (dev'.connector c).display = (dev.connector c).display := by
  induction conns generalizing done dev with
  | nil =>
    obtain rfl := Option.some.inj hpipes
    exact ⟨h, fun _ => rfl⟩
  | cons conn conns ih =>
    obtain ⟨dev₁, hpipe, hrest⟩ := Option.bind_eq_some_iff.mp hpipes
    rw [List.reverse_cons, List.append_assoc] at hnodup ⊢
    have hnew : conn ∉ done := by
      have hcons := (List.nodup_append.mp hnodup).2.1
      exact (List.nodup_cons.mp hcons).1
    have hother : ∀ conn' ∈ done, 0 ≤ (dev.connector conn).display →
        (dev.connector conn').display ≠ (dev.connector conn).display := by
      intro conn' hconn' hge heq
      exact hnew (hdistinct conn conn' hge heq.symm ▸ hconn')
    obtain ⟨hconnected, hdisplay⟩ := h.createDisplayPipe hnew (hrange conn) hother hpipe
    have hih := ih hconnected hnodup (fun c => by rw [hdisplay]; exact hrange c)
      (fun c c' hge heq => by
        rw [hdisplay] at hge
        rw [hdisplay, hdisplay] at heq
        exact hdistinct c c' hge heq) hrest
    exact ⟨hih.1, fun c => (hih.2 c).trans (hdisplay c)⟩

/-! ### The device after Init -/

/-- The parts of the device that connecting a connector of `dev.connectors` leaves alone. -/
structure SameDisplays (dev dev' : DrmDevice) : Prop where
  connectors : dev'.connectors = dev.connectors
  writebackConnectors : dev'.writebackConnectors = dev.writebackConnectors
  displays : dev'.displays = dev.displays
  type : ∀ conn, (dev'.connector conn).type = (dev.connector conn).type
  display : ∀ conn ∈ dev.connectors, (dev'.connector conn).display = (dev.connector conn).display

namespace SameDisplays

variable {dev dev' dev'' : DrmDevice} {n : Int}

theorem trans (h : SameDisplays dev dev') (h' : SameDisplays dev' dev'') :
    SameDisplays dev dev'' where
  connectors := h'.connectors.trans h.connectors
  writebackConnectors := h'.writebackConnectors.trans h.writebackConnectors
  displays := h'.displays.trans h.displays
  type conn := (h'.type conn).trans (h.type conn)
  display conn hconn := (h'.display conn (h.connectors ▸ hconn)).trans (h.display conn hconn)

theorem bind_setEncoder (dev : DrmDevice) (display : Int) (conn enc crtc : Nat) :
    SameDisplays dev ((dev.bind display enc crtc).setEncoder conn enc) where
  connectors := rfl
  writebackConnectors := rfl
  displays := rfl
  type c := by
    rcases eq_or_ne c conn with rfl | hc
    · simp [DrmDevice.setEncoder]
    · simp [DrmDevice.setEncoder, hc]
  display c _ := setEncoder_display

theorem setDisplay (dev : DrmDevice) {conn : Nat} (hconn : conn ∉ dev.connectors) (display : Int) :
    SameDisplays dev (dev.setDisplay conn display) where
  connectors := rfl
  writebackConnectors := rfl
  displays := rfl
  type c := by
    rcases eq_or_ne c conn with rfl | hc
    · simp [DrmDevice.setDisplay]
    · simp [DrmDevice.setDisplay, hc]
  display c hc := by
    have hne : c ≠ conn := fun heq => hconn (heq ▸ hc)
    simp [DrmDevice.setDisplay, hne]

theorem createDisplayPipes {conns : List Nat} (h : DisplayPipes.createDisplayPipes conns dev = some dev') :
    SameDisplays dev dev' := by
  induction conns generalizing dev with
  | nil =>
    obtain rfl := Option.some.inj h
    exact ⟨rfl, rfl, rfl, fun _ => rfl, fun _ _ => rfl⟩
  | cons conn conns ih =>
    obtain ⟨dev₁, hpipe, hrest⟩ := Option.bind_eq_some_iff.mp h
    obtain ⟨enc, crtc, -, -, rfl⟩ := DrmDevice.createDisplayPipe_some hpipe
    exact (bind_setEncoder dev _ conn enc crtc).trans (ih hrest)

/-- Numbers stay right. -/
theorem numbers (h : SameDisplays dev dev') (hnumbers : Numbers n dev) : Numbers n dev' := by
  have hhandles : dev'.handlesDisplay = dev.handlesDisplay := by
    funext d
    simp [DrmDevice.handlesDisplay, h.displays]
  have hinternal : dev'.internal = dev.internal := by
    funext conn
    simp [DrmDevice.internal, h.type]
  have hexternal : dev'.external = dev.external := by
    funext conn
    simp [DrmDevice.external, h.type]
  constructor
  · intro d
    rw [hhandles, h.displays]
    exact hnumbers.displays d
  · intro d hd
    rw [hhandles] at hd
    obtain ⟨conn, ⟨hconn, hshown⟩, hunique⟩ := hnumbers.connector d hd
    refine ⟨conn, ⟨h.connectors ▸ hconn, (h.display conn hconn).trans hshown⟩, ?_⟩
    rintro c ⟨hc, hc'⟩
    rw [h.connectors] at hc
    exact hunique c ⟨hc, (h.display c hc).symm.trans hc'⟩
  · intro conn hconn
    rw [h.connectors] at hconn
    rw [h.display conn hconn, DrmDevice.shows, hexternal, hinternal]
    exact hnumbers.shows conn hconn
  · intro conn hconn
    rw [h.connectors] at hconn
    rw [h.display conn hconn, hhandles]
    exact hnumbers.handled conn hconn
  · intro hn
    have hsame : dev'.getConnectorForDisplay 0 = dev.getConnectorForDisplay 0 := by
      unfold DrmDevice.getConnectorForDisplay
      rw [h.connectors]
      exact List.find?_congr fun conn hconn => by rw [h.display conn hconn]
    rw [hsame, hinternal, hexternal, h.connectors]
    exact hnumbers.primary hn

end SameDisplays

/-- **The displays and their hardware**, with the displays of the device numbered from `n`
    on.  Each has one connector and one crtc, and no crtc shows two of them.  The encoder
    between the two is the right one unless another connector uses it, or may use it to
    write back. -/
structure Pipes (n : Int) (dev : DrmDevice) : Prop where
  numbers : Numbers n dev
  allocation : Allocation dev
  crtc : ∀ d, dev.handlesDisplay d = true →
    ∃! crtc, crtc ∈ dev.crtcs ∧ dev.crtcDisplay crtc = d
  pipe : ∀ conn ∈ dev.connectors, 0 ≤ (dev.connector conn).display →
    ∃ enc, (dev.connector conn).encoder = some enc ∧
      (dev.Drives enc (dev.connector conn).display ∨
        (∃ other ∈ dev.connectors, other ≠ conn ∧ (dev.connector other).encoder = some enc) ∨
        ∃ other ∈ dev.writebackConnectors, enc ∈ (dev.connector other).possibleEncoders)
  disjoint : ∀ conn ∈ dev.writebackConnectors, conn ∉ dev.connectors
  writeback : ∀ conn ∈ dev.writebackConnectors, ∀ conn' ∈ dev.writebackConnectors,
    0 ≤ (dev.connector conn).display →
    (dev.connector conn).display = (dev.connector conn').display → conn = conn'
  writebackCrtc : ∀ conn ∈ dev.writebackConnectors, 0 ≤ (dev.connector conn).display →
    ∃ crtc ∈ dev.crtcs, dev.crtcDisplay crtc = (dev.connector conn).display

/-- Before the first pipe no crtc shows anything. -/
theorem start_connected {dev : DrmDevice} (h : Fresh dev) {n : Int} (hn : 0 ≤ n) :
    Connected [] (numberDisplays dev n) := by
  have hsame := finish_sameObjects h hn
  have hcrtc : ∀ crtc, (numberDisplays dev n).crtcDisplay crtc = -1 := by
    intro crtc
    rw [hsame.crtcDisplay, h.crtcDisplay]
  have hnot : ∀ crtc, ¬ 0 ≤ (numberDisplays dev n).crtcDisplay crtc := by
    intro crtc
    simp [hcrtc]
  refine ⟨⟨fun crtc => Int.le_of_eq (hcrtc crtc).symm, ?_, ?_, ?_, ?_⟩, ?_, ?_, ?_⟩
  · exact fun crtc hge => absurd hge (hnot crtc)
  · exact fun crtc _ hge => absurd hge (hnot crtc)
  · intro enc hge
    rw [hsame.encoder, h.encoder] at hge
    exact absurd hge (by decide)
  · intro enc crtc hreaches
    rw [DrmDevice.Reaches, hsame.encoder] at hreaches
    rw [hsame.crtcs]
    exact h.reaches enc crtc hreaches
  · exact fun crtc hge => absurd hge (hnot crtc)
  · simp
  · simp

theorem init_pipes {res : DrmModeRes} {n : Int} (hn : 0 ≤ n) {dev : DrmDevice}
    (h : init res n = .ok dev) : Pipes n dev := by
  unfold init at h
  cases hobjects : res.objects with
  | error e => simp [hobjects, bind, Except.bind] at h
  | ok dev₀ =>
    have hfresh := objects_fresh hobjects
    have hsame := finish_sameObjects hfresh hn
    have hnumbered := finish_numbered hfresh hn
    simp only [hobjects, bind, Except.bind] at h
    split at h
    · next dev' hpipes =>
      obtain rfl : dev = dev' := (Except.ok.inj h).symm
      have hstart := start_connected hfresh hn
      have hnodup : ((numberDisplays dev₀ n).connectors.reverse ++ []).Nodup := by
        rw [List.append_nil, List.nodup_reverse, hsame.connectors]
        exact hfresh.nodup
      obtain ⟨hconnected, hdisplay⟩ := hstart.createDisplayPipes hnodup
        (numberDisplays_range hfresh hn) hnumbered.injective hpipes
      have hdisplays := SameDisplays.createDisplayPipes hpipes
      have hmem : ∀ conn, conn ∈ (numberDisplays dev₀ n).connectors.reverse ++ [] ↔
          conn ∈ dev.connectors := by
        intro conn
        simp [hdisplays.connectors]
      have hnumbers := hdisplays.numbers (numberDisplays_numbers hfresh hn)
      have hwriteback : ∀ conn ∈ dev.writebackConnectors, (dev.connector conn).display = -1 := by
        intro conn hconn
        rw [hdisplays.writebackConnectors, hsame.writebackConnectors] at hconn
        rw [hdisplay]
        exact numberDisplays_writeback hfresh hn hconn
      refine ⟨hnumbers, hconnected.allocation, ?_, ?_, ?_, ?_, ?_⟩
      · intro d hd
        have hge : 0 ≤ d := Int.le_trans hn ((hnumbers.displays d).mp hd).1
        obtain ⟨conn, ⟨hconn, rfl⟩, -⟩ := hnumbers.connector d hd
        obtain ⟨crtc, hcrtc⟩ := hconnected.served conn ((hmem conn).mpr hconn) hge
        refine ⟨crtc, ⟨hconnected.allocation.bound crtc (hcrtc ▸ hge), hcrtc⟩, ?_⟩
        rintro crtc' ⟨-, heq⟩
        exact hconnected.allocation.unique crtc' crtc (heq ▸ hge) (heq.trans hcrtc.symm)
      · intro conn hconn hge
        obtain ⟨enc, henc, hdrives⟩ := hconnected.pipe conn ((hmem conn).mpr hconn) hge
        refine ⟨enc, henc, hdrives.imp id fun hshared => .inl ?_⟩
        obtain ⟨other, hother, hshared⟩ := hshared
        exact ⟨other, (hmem other).mp hother, hshared⟩
      · intro conn hconn
        rw [hdisplays.writebackConnectors, hsame.writebackConnectors] at hconn
        rw [hdisplays.connectors, hsame.connectors]
        exact hfresh.disjoint conn hconn
      · intro conn hconn conn' _ hge
        rw [hwriteback conn hconn] at hge
        exact absurd hge (by decide)
      · intro conn hconn hge
        rw [hwriteback conn hconn] at hge
        exact absurd hge (by decide)
    · cases h

/-! ### Writeback -/

theorem Pipes.attachWriteback {n : Int} {dev dev' : DrmDevice} (h : Pipes n dev) (hn : 0 ≤ n)
    {display : Int} (hdisplay : 0 ≤ display) (hnone : dev.getWritebackConnectorForDisplay display = none)
    (hattach : dev.attachWriteback display = some dev') :
    Pipes n dev' ∧ ∀ crtc, 0 ≤ dev.crtcDisplay crtc → dev'.crtcDisplay crtc = dev.crtcDisplay crtc := by
  obtain ⟨w, hw, enc, henc, crtc, hcrtc, hfree, rfl⟩ :=
    DrmDevice.attachWriteback_some hnone hattach
  have hmay : dev.MayBind display crtc := by
    rcases hfree with hbound | ⟨hneg, hfree⟩
    · exact .inl hbound
    · have hrange := h.allocation.range crtc
      refine .inr ⟨Int.le_antisymm (Int.le_of_lt_add_one hneg) hrange, fun _ c heq => ?_⟩
      exact hfree c (h.allocation.bound c (heq ▸ hdisplay)) heq
  have hkeeps : ∀ c, 0 ≤ dev.crtcDisplay c →
      (dev.bind display enc crtc).crtcDisplay c = dev.crtcDisplay c :=
    fun c => Allocation.bind_keeps hmay
  have hw' : w ∉ dev.connectors := h.disjoint w hw
  have hsame : SameDisplays dev (((dev.bind display enc crtc).setEncoder w enc).setDisplay w display) :=
    (SameDisplays.bind_setEncoder dev display w enc crtc).trans
      (.setDisplay ((dev.bind display enc crtc).setEncoder w enc) hw' display)
  have hconn : ∀ c, c ≠ w →
      (((dev.bind display enc crtc).setEncoder w enc).setDisplay w display).connector c =
        dev.connector c := by
    intro c hc
    simp [DrmDevice.setDisplay, DrmDevice.setEncoder, hc]
  have hself : ((((dev.bind display enc crtc).setEncoder w enc).setDisplay w display).connector
      w).display = display := by
    simp [DrmDevice.setDisplay]
  have hpossible : ∀ c,
      ((((dev.bind display enc crtc).setEncoder w enc).setDisplay w display).connector
        c).possibleEncoders = (dev.connector c).possibleEncoders := by
    intro c
    rcases eq_or_ne c w with rfl | hc
    · simp [DrmDevice.setDisplay, DrmDevice.setEncoder]
    · rw [hconn c hc]
  have halloc : Allocation (((dev.bind display enc crtc).setEncoder w enc).setDisplay w display) :=
    ((h.allocation.bind (Int.le_trans (by decide) hdisplay) (.inr hcrtc) hmay).setEncoder w
      enc).setDisplay w display
  refine ⟨⟨hsame.numbers h.numbers, halloc, ?_, ?_, h.disjoint, ?_, ?_⟩, hkeeps⟩
  · intro d hd
    obtain ⟨c, ⟨hc, hshown⟩, -⟩ := h.crtc d hd
    have hge : 0 ≤ d := Int.le_trans hn ((h.numbers.displays d).mp hd).1
    have hshown' := (hkeeps c (hshown ▸ hge)).trans hshown
    refine ⟨c, ⟨hc, hshown'⟩, ?_⟩
    rintro c' ⟨-, heq⟩
    exact halloc.unique c' c (heq ▸ hge) (heq.trans hshown'.symm)
  · intro conn hmem hge
    have hne : conn ≠ w := fun heq => hw' (heq ▸ hmem)
    rw [hconn conn hne] at hge ⊢
    obtain ⟨enc', henc', hdrives⟩ := h.pipe conn hmem hge
    refine ⟨enc', henc', ?_⟩
    rcases eq_or_ne enc' enc with rfl | hencs
    · exact .inr (.inr ⟨w, hw, by rw [hpossible]; exact henc⟩)
    · rcases hdrives with hdrives | ⟨other, hother, hneq, hshared⟩ | ⟨other, hother, hshared⟩
      · exact .inl (Drives.bind hdrives hge hencs hmay)
      · have hother' : other ≠ w := fun heq => hw' (heq ▸ hother)
        exact .inr (.inl ⟨other, hother, hneq, by rw [hconn other hother']; exact hshared⟩)
      · exact .inr (.inr ⟨other, hother, by rw [hpossible]; exact hshared⟩)
  · have hfresh : ∀ conn ∈ dev.writebackConnectors, (dev.connector conn).display ≠ display := by
      intro conn hconn
      simpa using List.find?_eq_none.mp hnone conn hconn
    intro conn hmem conn' hmem' hge heq
    by_cases hc : conn = w <;> by_cases hc' : conn' = w
    · rw [hc, hc']
    · subst hc
      rw [hself, hconn conn' hc'] at heq
      exact absurd heq.symm (hfresh conn' hmem')
    · subst hc'
      rw [hself, hconn conn hc] at heq
      exact absurd heq (hfresh conn hmem)
    · rw [hconn conn hc] at hge heq
      rw [hconn conn' hc'] at heq
      exact h.writeback conn hmem conn' hmem' hge heq
  · intro conn hmem hge
    rcases eq_or_ne conn w with rfl | hc
    · refine ⟨crtc, h.allocation.reaches enc crtc (.inr hcrtc), ?_⟩
      rw [hself]
      simp [DrmDevice.setDisplay, DrmDevice.setEncoder, DrmDevice.bind]
    · rw [hconn conn hc] at hge ⊢
      obtain ⟨c, hc, hshown⟩ := h.writebackCrtc conn hmem hge
      exact ⟨c, hc, (hkeeps c (hshown ▸ hge)).trans hshown⟩

theorem Pipes.availableWritebackConnector {n : Int} {dev : DrmDevice} (h : Pipes n dev) (hn : 0 ≤ n)
    {display : Int} (hdisplay : 0 ≤ display) :
    Pipes n (dev.availableWritebackConnector display).1 ∧
      ∀ crtc, 0 ≤ dev.crtcDisplay crtc →
        (dev.availableWritebackConnector display).1.crtcDisplay crtc = dev.crtcDisplay crtc := by
  unfold DrmDevice.availableWritebackConnector
  split
  · exact ⟨h, fun _ _ => rfl⟩
  · next hnone =>
    split
    · exact ⟨h, fun _ _ => rfl⟩
    · next hattach => exact h.attachWriteback hn hdisplay hnone hattach

/-- **The pipes hold** from `Init` on, whatever displays ask for a writeback connector, and
    a crtc that shows a display never shows another. -/
theorem pipes_hold {res : DrmModeRes} {n : Int} (hn : 0 ≤ n) {dev₀ dev : DrmDevice}
    (hinit : init res n = .ok dev₀)
    (h : Reachable (· = dev₀) (guarded (fun _ display => 0 ≤ display)
      (ofFun fun dev display => (dev.availableWritebackConnector display).1)) dev) :
    Pipes n dev ∧ ∀ crtc, 0 ≤ dev₀.crtcDisplay crtc → dev.crtcDisplay crtc = dev₀.crtcDisplay crtc := by
  refine h.invariant (I := fun dev => Pipes n dev ∧ ∀ crtc, 0 ≤ dev₀.crtcDisplay crtc →
    dev.crtcDisplay crtc = dev₀.crtcDisplay crtc) ?_ ?_
  · rintro dev rfl
    exact ⟨init_pipes hn hinit, fun _ _ => rfl⟩
  · rintro dev display dev' ⟨hpipes, hkept⟩ ⟨hdisplay, rfl⟩
    obtain ⟨hpipes', hkeeps⟩ := hpipes.availableWritebackConnector hn hdisplay
    refine ⟨hpipes', fun crtc hge => ?_⟩
    rw [hkeeps crtc (hkept crtc hge ▸ hge), hkept crtc hge]

/-- A panel, a DisplayPort and a writeback connector with three crtcs. -/
def phoneRes : DrmModeRes where
  crtcs := [.ok 50, .ok 51, .ok 52]
  encoders := [.ok ⟨60, 0, 6⟩, .ok ⟨61, 0, 3⟩, .ok ⟨62, 0, 7⟩]
  connectors := [.ok ⟨.displayPort, 0, [61]⟩, .ok ⟨.dsi, 0, [60]⟩, .ok ⟨.writeback, 0, [62]⟩]

/-- The panel is display 0 although it comes second; a virtual display 2 takes the crtc that
    is left. -/
theorem phoneRes_pipes : ∃ dev₀, init phoneRes 0 = .ok dev₀ ∧
    (dev₀.connector 1).display = 0 ∧ dev₀.getCrtcForDisplay 0 = some 1 ∧
    (dev₀.availableWritebackConnector 2).1.getCrtcForDisplay 2 = some 2 ∧
    Pipes 0 (dev₀.availableWritebackConnector 2).1 := by
  have hinit : ∃ dev₀, init phoneRes 0 = .ok dev₀ ∧ (dev₀.connector 1).display = 0 ∧
      dev₀.getCrtcForDisplay 0 = some 1 ∧
      (dev₀.availableWritebackConnector 2).1.getCrtcForDisplay 2 = some 2 :=
    ⟨_, rfl, rfl, rfl, rfl⟩
  obtain ⟨dev₀, hinit, hpanel, hcrtc, hvirtual⟩ := hinit
  exact ⟨dev₀, hinit, hpanel, hcrtc, hvirtual,
    (pipes_hold (Int.le_refl 0) hinit (.next (a := 2) (.start rfl) ⟨Int.natCast_nonneg 2, rfl⟩)).1⟩

end ExynosHal.DisplayPipes
