/-
  ExynosHal/RestrictionTables.lean
  ================================
  **Entering the restriction tables into the MPPs.**

  `ExynosResourceManager::updateRestrictions`, `addSizeRestrictions` and
  `addFormatRestrictions` of `libhwc2.1/device/ExynosResourceManager.cpp`, with the
  MPP's own two setters.  A table has rows for the source and for the destination
  of an MPP, in any order; a row for a source is entered together with the row
  found for the destination.

  The position of that row is kept in `dstIndex`, which is -1 while no row is found.
-/
import ExynosHal.MppSupport

namespace ExynosHal.RestrictionTables

open ExynosHal.MppSupport (RestrictionClass RestrictionSize NodeType)

/-! ### Tables and MPPs -/

/-- `restriction_key`. -/
structure RestrictionKey where
  hwType : Nat
  nodeType : NodeType
  format : Nat
  reserved : Nat
deriving DecidableEq, Repr

/-- `restriction_size_element`. -/
structure Element where
  key : RestrictionKey
  sizeRestriction : RestrictionSize
deriving DecidableEq, Repr

/-- `restriction_tables`: one table for each class of formats. -/
abbrev Tables := RestrictionClass → List Element

/-- The restrictions of an `ExynosMPP`. -/
structure Mpp where
  mPhysicalType : Nat
  mSrcSizeRestrictions : RestrictionClass → RestrictionSize
  mDstSizeRestrictions : RestrictionClass → RestrictionSize
  mFormatRestrictions : List RestrictionKey

structure ResourceManager where
  mOtfMPPs : List Mpp
  mM2mMPPs : List Mpp

/-- The arguments of one call of `ExynosResourceManager::addSizeRestrictions`. -/
structure SizeCall where
  mppId : Nat
  src_size : RestrictionSize
  dst_size : RestrictionSize
  format : RestrictionClass
deriving DecidableEq, Repr

namespace Mpp

/-- `ExynosMPP::addSizeRestrictions`. -/
def addSizeRestrictions (m : Mpp) (srcSize dstSize : RestrictionSize) (format : RestrictionClass) :
    Mpp :=
  { m with
    mSrcSizeRestrictions := fun c => if c = format then srcSize else m.mSrcSizeRestrictions c
    mDstSizeRestrictions := fun c => if c = format then dstSize else m.mDstSizeRestrictions c }

/-- `ExynosMPP::addFormatRestrictions`. -/
def addFormatRestrictions (m : Mpp) (table : RestrictionKey) : Mpp :=
  { m with mFormatRestrictions := m.mFormatRestrictions ++ [table] }

/-- What a call does to an MPP of one of the two lists. -/
def receive (m : Mpp) (call : SizeCall) : Mpp :=
  if call.mppId = m.mPhysicalType then m.addSizeRestrictions call.src_size call.dst_size call.format
  else m

def receiveFormat (m : Mpp) (row : RestrictionKey) : Mpp :=
  if row.hwType = m.mPhysicalType then m.addFormatRestrictions row else m

end Mpp

section
variable (MPP_DPP_NUM : Nat)

namespace ResourceManager

def addSizeRestrictions (r : ResourceManager) (call : SizeCall) : ResourceManager :=
  if call.mppId < MPP_DPP_NUM then { r with mOtfMPPs := r.mOtfMPPs.map (·.receive call) }
  else { r with mM2mMPPs := r.mM2mMPPs.map (·.receive call) }

def addFormatRestrictions (r : ResourceManager) (row : RestrictionKey) : ResourceManager :=
  if row.hwType < MPP_DPP_NUM then { r with mOtfMPPs := r.mOtfMPPs.map (·.receiveFormat row) }
  else { r with mM2mMPPs := r.mM2mMPPs.map (·.receiveFormat row) }

end ResourceManager

/-! ### `updateRestrictions` -/

/-- The key of the destination row for a source row. -/
def dstKey (cur : RestrictionKey) : RestrictionKey := { cur with nodeType := .DST }

/-- The loop over `k`: the last row with the key. -/
def dstLoop (key : RestrictionKey) (k : Nat) (dstIndex : Int) : List Element → Int
  | [] => dstIndex
  | dst :: rest => dstLoop key (k + 1) (if dst.key = key then k else dstIndex) rest

/-- `dstIndex` for row `j`. -/
def findDst (table : List Element) (j : Nat) (cur : Element) : Int :=
  if cur.key.nodeType = .NONE then j else dstLoop (dstKey cur.key) 0 (-1) table

/-- What the body of the loop over `j` calls. -/
def rowCall (format : RestrictionClass) (table : List Element) (j : Nat) (cur : Element) :
    Option SizeCall :=
  if cur.key.nodeType = .DST then none
  else if findDst table j cur > 0 then
    (table[(findDst table j cur).toNat]?).map fun dst =>
      ⟨cur.key.hwType, cur.sizeRestriction, dst.sizeRestriction, format⟩
  else none

/-- The calls for the rows from `j` on. -/
def tableCalls (format : RestrictionClass) (table : List Element) (j : Nat) :
    List Element → List SizeCall
  | [] => []
  | cur :: rest => (rowCall format table j cur).toList ++ tableCalls format table (j + 1) rest

/-- The calls for both tables, in their order. -/
def sizeCalls (tables : Tables) : List SizeCall :=
  tableCalls .RGB (tables .RGB) 0 (tables .RGB) ++ tableCalls .YUV (tables .YUV) 0 (tables .YUV)

def updateRestrictions (restriction_format_table : List RestrictionKey) (tables : Tables)
    (r : ResourceManager) : ResourceManager :=
  (sizeCalls tables).foldl (ResourceManager.addSizeRestrictions MPP_DPP_NUM)
    (restriction_format_table.foldl (ResourceManager.addFormatRestrictions MPP_DPP_NUM) r)

end

/-! ### What the update has to do -/

/-- A row that belongs to the source of an MPP and the row for its destination: the row
    itself where it is for both sides, else a destination row of the same MPP in the same
    table. -/
def Counterpart (table : List Element) (cur dst : Element) : Prop :=
  (cur.key.nodeType = .NONE ∧ dst = cur) ∨
    (cur.key.nodeType = .SRC ∧ dst ∈ table ∧ dst.key.nodeType = .DST ∧
      dst.key.hwType = cur.key.hwType)

/-- A row is entered with one of its counterparts. -/
def Entered (tables : Tables) (format : RestrictionClass) (j : Nat) (cur : Element) : Prop :=
  ∃ dst, Counterpart (tables format) cur dst ∧
    rowCall format (tables format) j cur =
      some ⟨cur.key.hwType, cur.sizeRestriction, dst.sizeRestriction, format⟩

/-- The limits of an MPP are those of a row and its counterpart, where the table has such
    rows for it. -/
def HasLimits (tables : Tables) (m : Mpp) : Prop :=
  ∀ format, (∃ cur ∈ tables format, cur.key.hwType = m.mPhysicalType ∧
      ∃ dst, Counterpart (tables format) cur dst) →
    ∃ cur ∈ tables format, cur.key.hwType = m.mPhysicalType ∧
      ∃ dst, Counterpart (tables format) cur dst ∧
        m.mSrcSizeRestrictions format = cur.sizeRestriction ∧
        m.mDstSizeRestrictions format = dst.sizeRestriction

/-- Every row that has a counterpart is entered, and no MPP that the tables know keeps
    other limits. -/
structure Updated (MPP_DPP_NUM : Nat) (formats : List RestrictionKey) (tables : Tables)
    (r : ResourceManager) : Prop where
  entered : ∀ format j cur, (tables format)[j]? = some cur →
    (∃ dst, Counterpart (tables format) cur dst) → Entered tables format j cur
  otf : ∀ m ∈ (updateRestrictions MPP_DPP_NUM formats tables r).mOtfMPPs,
    m.mPhysicalType < MPP_DPP_NUM → HasLimits tables m
  m2m : ∀ m ∈ (updateRestrictions MPP_DPP_NUM formats tables r).mM2mMPPs,
    ¬ m.mPhysicalType < MPP_DPP_NUM → HasLimits tables m

/-- No row for both sides is the first of its table, and every source row whose MPP has a
    destination row has one with its own key behind the first row. -/
def Behind (table : List Element) : Prop :=
  ∀ j cur, table[j]? = some cur →
    (cur.key.nodeType = .NONE → 0 < j) ∧
    (cur.key.nodeType = .SRC →
      (∃ dst ∈ table, dst.key.nodeType = .DST ∧ dst.key.hwType = cur.key.hwType) →
      ∃ k dst, 0 < k ∧ table[k]? = some dst ∧ dst.key = dstKey cur.key)

/-! ### The search for the destination row -/

/-- The loop ends with the position of the last row with the key, or with what it began
    with. -/
theorem dstLoop_spec (key : RestrictionKey) (table : List Element) : ∀ (k : Nat) (dstIndex : Int),
    (dstLoop key k dstIndex table = dstIndex ∧ ∀ dst ∈ table, dst.key ≠ key) ∨
      ∃ n dst, table[n]? = some dst ∧ dst.key = key ∧
        dstLoop key k dstIndex table = ((k + n : Nat) : Int) ∧
        ∀ n' dst', table[n']? = some dst' → dst'.key = key → n' ≤ n := by
  induction table with
  | nil =>
    intro k dstIndex
    left
    refine ⟨rfl, ?_⟩
    intro dst hdst
    cases hdst
  | cons first rest ih =>
    intro k dstIndex
    rcases ih (k + 1) (if first.key = key then k else dstIndex) with ⟨hloop, hnone⟩ | hfound
    · by_cases hfirst : first.key = key
      · right
        refine ⟨0, first, rfl, hfirst, ?_, ?_⟩
        · simpa [dstLoop, hfirst] using hloop
        · intro n' dst' hn' hkey
          cases n' with
          | zero => exact Nat.le_refl 0
          | succ n' => exact absurd hkey (hnone dst' (List.mem_of_getElem? hn'))
      · left
        refine ⟨by simpa [dstLoop, hfirst] using hloop, ?_⟩
        intro dst hdst
        rcases List.mem_cons.mp hdst with rfl | hrest
        · exact hfirst
        · exact hnone dst hrest
    · obtain ⟨n, dst, hn, hkey, hloop, hlast⟩ := hfound
      right
      refine ⟨n + 1, dst, hn, hkey, ?_, ?_⟩
      · simp only [dstLoop]
        rw [hloop]
        omega
      · intro n' dst' hn' hkey'
        cases n' with
        | zero => exact Nat.zero_le _
        | succ n' => exact Nat.succ_le_succ (hlast n' dst' hn' hkey')

/-- A destination row is taken if and only if one stands behind the first row. -/
theorem dstLoop_pos (key : RestrictionKey) (table : List Element) :
    0 < dstLoop key 0 (-1) table ↔ ∃ k dst, 0 < k ∧ table[k]? = some dst ∧ dst.key = key := by
  rcases dstLoop_spec key table 0 (-1) with ⟨hloop, hnone⟩ | ⟨n, dst, hn, hkey, hloop, hlast⟩
  · rw [hloop]
    constructor
    · intro h
      exact absurd h (by decide)
    · rintro ⟨k, dst, -, hk, hkey⟩
      exact absurd hkey (hnone dst (List.mem_of_getElem? hk))
  · rw [hloop]
    constructor
    · intro h
      exact ⟨n, dst, by omega, hn, hkey⟩
    · rintro ⟨k, dst', hpos, hk, hkey'⟩
      have hle := hlast k dst' hk hkey'
      omega

/-- The row that is taken. -/
theorem dstLoop_row {key : RestrictionKey} {table : List Element}
    (h : 0 < dstLoop key 0 (-1) table) :
    ∃ dst, table[(dstLoop key 0 (-1) table).toNat]? = some dst ∧ dst ∈ table ∧ dst.key = key := by
  rcases dstLoop_spec key table 0 (-1) with ⟨hloop, -⟩ | ⟨n, dst, hn, hkey, hloop, -⟩
  · rw [hloop] at h
    exact absurd h (by decide)
  · refine ⟨dst, ?_, List.mem_of_getElem? hn, hkey⟩
    rw [hloop, Nat.zero_add, Int.toNat_natCast]
    exact hn

/-! ### One row -/

/-- Where a call comes from. -/
theorem rowCall_some {format : RestrictionClass} {table : List Element} {j : Nat} {cur : Element}
    {call : SizeCall} (hj : table[j]? = some cur) (h : rowCall format table j cur = some call) :
    call.format = format ∧ call.mppId = cur.key.hwType ∧ call.src_size = cur.sizeRestriction ∧
      ∃ dst, Counterpart table cur dst ∧ call.dst_size = dst.sizeRestriction := by
  unfold rowCall at h
  split at h
  · cases h
  rename_i hnotDst
  split at h
  · rename_i hpos
    obtain ⟨dst, hdst, rfl⟩ := Option.map_eq_some_iff.mp h
    refine ⟨rfl, rfl, rfl, dst, ?_, rfl⟩
    unfold findDst at hpos hdst
    by_cases hnone : cur.key.nodeType = .NONE
    · left
      rw [if_pos hnone, Int.toNat_natCast, hj] at hdst
      exact ⟨hnone, (Option.some.inj hdst).symm⟩
    · right
      rw [if_neg hnone] at hpos hdst
      obtain ⟨row, hrow, hmem, hkey⟩ := dstLoop_row hpos
      rw [hrow] at hdst
      obtain rfl := Option.some.inj hdst
      refine ⟨?_, hmem, by rw [hkey, dstKey], by rw [hkey, dstKey]⟩
      cases htype : cur.key.nodeType with
      | NONE => exact absurd htype hnone
      | SRC => rfl
      | DST => exact absurd htype hnotDst
  · cases h

/-- A row with a counterpart is entered exactly if it is not a first row for both sides, or
    if a destination row with its key stands behind the first row. -/
theorem entered_iff {tables : Tables} {format : RestrictionClass} {j : Nat} {cur : Element}
    (hj : (tables format)[j]? = some cur) (hcounter : ∃ dst, Counterpart (tables format) cur dst) :
    Entered tables format j cur ↔
      (cur.key.nodeType = .NONE → 0 < j) ∧
      (cur.key.nodeType = .SRC →
        ∃ k dst, 0 < k ∧ (tables format)[k]? = some dst ∧ dst.key = dstKey cur.key) := by
  have hnotDst : cur.key.nodeType ≠ .DST := by
    intro hdst
    obtain ⟨dst, ⟨hnone, -⟩ | ⟨hsrc, -⟩⟩ := hcounter
    · rw [hdst] at hnone
      cases hnone
    · rw [hdst] at hsrc
      cases hsrc
  have hfound : Entered tables format j cur ↔ 0 < findDst (tables format) j cur := by
    constructor
    · rintro ⟨dst, -, hcall⟩
      unfold rowCall at hcall
      rw [if_neg hnotDst] at hcall
      split at hcall
      · assumption
      · cases hcall
    · intro hpos
      have hrow : ∃ dst, (tables format)[(findDst (tables format) j cur).toNat]? = some dst := by
        unfold findDst at hpos ⊢
        by_cases hnone : cur.key.nodeType = .NONE
        · rw [if_pos hnone, Int.toNat_natCast]
          exact ⟨cur, hj⟩
        · rw [if_neg hnone] at hpos ⊢
          obtain ⟨row, hrow, -⟩ := dstLoop_row hpos
          exact ⟨row, hrow⟩
      obtain ⟨row, hrow⟩ := hrow
      have hcall : rowCall format (tables format) j cur =
          some ⟨cur.key.hwType, cur.sizeRestriction, row.sizeRestriction, format⟩ := by
        simp [rowCall, hnotDst, hpos, hrow]
      obtain ⟨-, -, -, dst, hdst, hsize⟩ := rowCall_some hj hcall
      refine ⟨dst, hdst, ?_⟩
      rw [hcall, ← hsize]
  rw [hfound]
  unfold findDst
  cases htype : cur.key.nodeType with
  | NONE => simp
  | SRC => simpa using dstLoop_pos (dstKey cur.key) (tables format)
  | DST => exact absurd htype hnotDst

/-! ### All rows -/

theorem mem_tableCalls {format : RestrictionClass} {table : List Element} {call : SizeCall}
    (rows : List Element) : ∀ j, call ∈ tableCalls format table j rows ↔
      ∃ k cur, rows[k]? = some cur ∧ rowCall format table (j + k) cur = some call := by
  induction rows with
  | nil => intro j; simp [tableCalls]
  | cons first rest ih =>
    intro j
    rw [tableCalls, List.mem_append, ih (j + 1), Option.mem_toList]
    constructor
    · rintro (hfirst | ⟨k, cur, hk, hcall⟩)
      · exact ⟨0, first, rfl, hfirst⟩
      · refine ⟨k + 1, cur, hk, ?_⟩
        rw [← hcall]
        congr 1
        omega
    · rintro ⟨k, cur, hk, hcall⟩
      cases k with
      | zero =>
        left
        obtain rfl := Option.some.inj hk
        exact hcall
      | succ k =>
        right
        refine ⟨k, cur, hk, ?_⟩
        rw [← hcall]
        congr 1
        omega

theorem rowCall_format {format : RestrictionClass} {table : List Element} {j : Nat} {cur : Element}
    {call : SizeCall} (h : rowCall format table j cur = some call) : call.format = format := by
  unfold rowCall at h
  split at h
  · cases h
  split at h
  · obtain ⟨dst, -, rfl⟩ := Option.map_eq_some_iff.mp h
    rfl
  · cases h

/-- The calls are those of the rows. -/
theorem mem_sizeCalls {tables : Tables} {call : SizeCall} :
    call ∈ sizeCalls tables ↔ ∃ j cur, (tables call.format)[j]? = some cur ∧
      rowCall call.format (tables call.format) j cur = some call := by
  unfold sizeCalls
  rw [List.mem_append, mem_tableCalls, mem_tableCalls]
  simp only [Nat.zero_add]
  constructor
  · rintro (⟨k, cur, hk, hcall⟩ | ⟨k, cur, hk, hcall⟩)
    · have hformat := rowCall_format hcall
      rw [hformat]
      exact ⟨k, cur, hk, hcall⟩
    · have hformat := rowCall_format hcall
      rw [hformat]
      exact ⟨k, cur, hk, hcall⟩
  · rintro ⟨j, cur, hj, hcall⟩
    cases hformat : call.format with
    | RGB =>
      left
      rw [hformat] at hj hcall
      exact ⟨j, cur, hj, hcall⟩
    | YUV =>
      right
      rw [hformat] at hj hcall
      exact ⟨j, cur, hj, hcall⟩

/-! ### What the calls leave in an MPP -/

@[simp] theorem receive_type (m : Mpp) (call : SizeCall) :
    (m.receive call).mPhysicalType = m.mPhysicalType := by
  unfold Mpp.receive
  split <;> rfl

/-- The limits of one class after some calls are those of the last call for the MPP and the
    class; without such a call there was none. -/
theorem receive_fold (format : RestrictionClass) (calls : List SizeCall) : ∀ m : Mpp,
    (calls.foldl Mpp.receive m).mPhysicalType = m.mPhysicalType ∧
      ((∃ call ∈ calls, call.mppId = m.mPhysicalType ∧ call.format = format ∧
          (calls.foldl Mpp.receive m).mSrcSizeRestrictions format = call.src_size ∧
          (calls.foldl Mpp.receive m).mDstSizeRestrictions format = call.dst_size) ∨
        ((∀ call ∈ calls, call.mppId = m.mPhysicalType → call.format ≠ format) ∧
          (calls.foldl Mpp.receive m).mSrcSizeRestrictions format =
            m.mSrcSizeRestrictions format ∧
          (calls.foldl Mpp.receive m).mDstSizeRestrictions format =
            m.mDstSizeRestrictions format)) := by
  induction calls with
  | nil =>
    intro m
    exact ⟨rfl, Or.inr ⟨fun call hcall => absurd hcall List.not_mem_nil, rfl, rfl⟩⟩
  | cons first rest ih =>
    intro m
    obtain ⟨htype, hrest⟩ := ih (m.receive first)
    rw [receive_type] at htype
    refine ⟨htype, ?_⟩
    rw [List.foldl_cons]
    rcases hrest with ⟨call, hmem, hid, hformat, hsrc, hdst⟩ | ⟨hnone, hsrc, hdst⟩
    · rw [receive_type] at hid
      exact Or.inl ⟨call, List.mem_cons_of_mem first hmem, hid, hformat, hsrc, hdst⟩
    · rw [receive_type] at hnone
      by_cases hfirst : first.mppId = m.mPhysicalType ∧ first.format = format
      · left
        refine ⟨first, List.mem_cons_self, hfirst.1, hfirst.2, ?_, ?_⟩
        · rw [hsrc]
          simp [Mpp.receive, hfirst, Mpp.addSizeRestrictions]
        · rw [hdst]
          simp [Mpp.receive, hfirst, Mpp.addSizeRestrictions]
      · right
        refine ⟨?_, ?_, ?_⟩
        · intro call hcall hid hformat
          rcases List.mem_cons.mp hcall with rfl | hlater
          · exact hfirst ⟨hid, hformat⟩
          · exact hnone call hlater hid hformat
        · rw [hsrc]
          unfold Mpp.receive
          split
          · rename_i hid
            exact if_neg fun heq => hfirst ⟨hid, heq.symm⟩
          · rfl
        · rw [hdst]
          unfold Mpp.receive
          split
          · rename_i hid
            exact if_neg fun heq => hfirst ⟨hid, heq.symm⟩
          · rfl

/-- The calls as each list of MPPs sees them. -/
theorem addSizeRestrictions_fold (MPP_DPP_NUM : Nat) (calls : List SizeCall) :
    ∀ r : ResourceManager,
    (calls.foldl (ResourceManager.addSizeRestrictions MPP_DPP_NUM) r).mOtfMPPs =
        r.mOtfMPPs.map (fun m =>
          (calls.filter fun call => call.mppId < MPP_DPP_NUM).foldl Mpp.receive m) ∧
      (calls.foldl (ResourceManager.addSizeRestrictions MPP_DPP_NUM) r).mM2mMPPs =
        r.mM2mMPPs.map (fun m =>
          (calls.filter fun call => ¬ call.mppId < MPP_DPP_NUM).foldl Mpp.receive m) := by
  induction calls with
  | nil => intro r; simp
  | cons call rest ih =>
    intro r
    rw [List.foldl_cons]
    obtain ⟨hotf, hm2m⟩ := ih (r.addSizeRestrictions MPP_DPP_NUM call)
    rw [hotf, hm2m]
    by_cases hcall : call.mppId < MPP_DPP_NUM
    · simp [ResourceManager.addSizeRestrictions, hcall]
    · have hle : MPP_DPP_NUM ≤ call.mppId := Nat.le_of_not_lt hcall
      simp [ResourceManager.addSizeRestrictions, hcall, hle]

/-- If all rows with a counterpart are entered, an MPP that gets the calls for its type has
    the limits of the tables. -/
theorem hasLimits_of_entered {tables : Tables}
    (hall : ∀ format j cur, (tables format)[j]? = some cur →
      (∃ dst, Counterpart (tables format) cur dst) → Entered tables format j cur)
    (keep : SizeCall → Bool) (m : Mpp) (hkeep : ∀ call, call.mppId = m.mPhysicalType → keep call) :
    HasLimits tables (((sizeCalls tables).filter keep).foldl Mpp.receive m) := by
  intro format
  rw [(receive_fold format ((sizeCalls tables).filter keep) m).1]
  rintro ⟨cur, hcur, htype, hcounter⟩
  rcases (receive_fold format ((sizeCalls tables).filter keep) m).2 with
    ⟨call, hmem, hid, hformat, hsrc, hdst⟩ | ⟨hnone, -⟩
  · obtain ⟨j, row, hj, hcall⟩ := mem_sizeCalls.mp (List.mem_filter.mp hmem).1
    rw [hformat] at hj hcall
    obtain ⟨-, hmpp, hsize, dst, hcounter', hdst'⟩ := rowCall_some hj hcall
    exact ⟨row, List.mem_of_getElem? hj, hmpp.symm.trans hid, dst, hcounter', hsrc.trans hsize,
      hdst.trans hdst'⟩
  · exfalso
    obtain ⟨j, hj⟩ := List.getElem?_of_mem hcur
    obtain ⟨dst, -, hcall⟩ := hall format j cur hj hcounter
    have hmem : (⟨cur.key.hwType, cur.sizeRestriction, dst.sizeRestriction, format⟩ : SizeCall) ∈
        sizeCalls tables := mem_sizeCalls.mpr ⟨j, cur, hj, hcall⟩
    exact hnone _ (List.mem_filter.mpr ⟨hmem, hkeep _ htype⟩) htype rfl

/-- **When the tables arrive.**  Every row with a counterpart is entered, and all MPPs that
    the tables know have their limits, if and only if in both tables no row for both sides
    is the first one and every source row whose MPP has a destination row has one with its
    own key behind the first row. -/
theorem restrictions_updated (MPP_DPP_NUM : Nat) (formats : List RestrictionKey) (tables : Tables)
    (r : ResourceManager) :
    Updated MPP_DPP_NUM formats tables r ↔ ∀ format, Behind (tables format) := by
  constructor
  · intro h format j cur hj
    refine ⟨?_, ?_⟩
    · intro hnone
      have hcounter : ∃ dst, Counterpart (tables format) cur dst := ⟨cur, Or.inl ⟨hnone, rfl⟩⟩
      exact ((entered_iff hj hcounter).mp (h.entered format j cur hj hcounter)).1 hnone
    · rintro hsrc ⟨dst, hdst, hnode, hid⟩
      have hcounter : ∃ dst, Counterpart (tables format) cur dst :=
        ⟨dst, Or.inr ⟨hsrc, hdst, hnode, hid⟩⟩
      exact ((entered_iff hj hcounter).mp (h.entered format j cur hj hcounter)).2 hsrc
  · intro h
    have hentered : ∀ format j cur, (tables format)[j]? = some cur →
        (∃ dst, Counterpart (tables format) cur dst) → Entered tables format j cur := by
      intro format j cur hj hcounter
      obtain ⟨hnone, hsrc⟩ := h format j cur hj
      refine (entered_iff hj hcounter).mpr ⟨hnone, ?_⟩
      intro htype
      obtain ⟨dst, ⟨hnode, -⟩ | ⟨-, hdst, hnode, hid⟩⟩ := hcounter
      · rw [htype] at hnode
        cases hnode
      · exact hsrc htype ⟨dst, hdst, hnode, hid⟩
    refine ⟨hentered, ?_, ?_⟩
    · intro m hm hotf
      unfold updateRestrictions at hm
      rw [(addSizeRestrictions_fold _ _ _).1] at hm
      obtain ⟨m₀, -, rfl⟩ := List.mem_map.mp hm
      apply hasLimits_of_entered hentered
      intro call hid
      rw [(receive_fold .RGB _ m₀).1] at hotf
      exact decide_eq_true (hid ▸ hotf)
    · intro m hm hm2m
      unfold updateRestrictions at hm
      rw [(addSizeRestrictions_fold _ _ _).2] at hm
      obtain ⟨m₀, -, rfl⟩ := List.mem_map.mp hm
      apply hasLimits_of_entered hentered
      intro call hid
      rw [(receive_fold .RGB _ m₀).1] at hm2m
      exact decide_eq_true (hid ▸ hm2m)

/-! ### A table that begins with a destination row -/

def row (limit : UInt32) : RestrictionSize :=
  ⟨1, 1, limit, limit, 16, 16, 1, 1, limit, limit, 16, 16, 1, 1, 1, 1⟩

/-- An OTF MPP of type 0 with the limits it was built with. -/
def builtIn : ResourceManager :=
  ⟨[⟨0, fun _ => row 0, fun _ => row 0, []⟩], []⟩

/-- The destination row stands first: the source row is not entered and the MPP keeps the
    limits it was built with. -/
theorem first_row_lost :
    let tables : Tables := fun _ => [⟨⟨0, .DST, 0, 0⟩, row 4096⟩, ⟨⟨0, .SRC, 0, 0⟩, row 8192⟩]
    ((updateRestrictions 1 [] tables builtIn).mOtfMPPs.map fun m => m.mSrcSizeRestrictions .RGB) =
        [row 0] ∧
      ¬ Updated 1 [] tables builtIn := by
  intro tables
  refine ⟨by decide, ?_⟩
  intro h
  have hcounter : Counterpart (tables .RGB) ⟨⟨0, .SRC, 0, 0⟩, row 8192⟩
      ⟨⟨0, .DST, 0, 0⟩, row 4096⟩ :=
    Or.inr ⟨rfl, List.mem_cons_self, rfl, rfl⟩
  obtain ⟨dst, -, hcall⟩ := h.entered .RGB 1 _ rfl ⟨_, hcounter⟩
  have hnone : rowCall .RGB (tables .RGB) 1 ⟨⟨0, .SRC, 0, 0⟩, row 8192⟩ = none := by decide
  rw [hnone] at hcall
  cases hcall

end ExynosHal.RestrictionTables
