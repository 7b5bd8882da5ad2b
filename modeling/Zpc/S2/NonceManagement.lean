import Mathlib.Data.UInt
import Zpc.Foundation.FirstMatch

/-!
# The nonce tables of S2

`zwave_s2_nonce_management.c` on the SPAN and the MPAN table of libS2.  A lookup looks for a
negotiated slot; a reset and a write take the first slot with the ids, used or not, and a write
then the first unused one.
-/

namespace S2

open Foundation

/-- How the slots of a table are read and written. -/
structure SlotTable (Slot Ids Data : Type) where
  ids : Slot -> Ids
  data : Slot -> Data
  isSet : Slot -> Bool
  isFree : Slot -> Bool
  clear : Slot -> Slot
  write : Ids -> Data -> Slot
  Matches : Ids -> Data -> Prop
  isSet_of_isFree : ∀ slot, isFree slot = true -> isSet slot = false
  isSet_clear : ∀ slot, isSet (clear slot) = false
  isSet_write : ∀ key value, isSet (write key value) = true
  ids_write : ∀ key value, Matches key value -> ids (write key value) = key
  data_write : ∀ key value, Matches key value -> data (write key value) = value

namespace SlotTable

variable {Slot Ids Data : Type} [DecidableEq Ids] (rules : SlotTable Slot Ids Data)
  (table : List Slot) (key : Ids) (value : Data)

/-- A slot has these ids. -/
def fits (slot : Slot) : Bool := decide (rules.ids slot = key)

/-- The data of the first slot that is set. -/
def get : Option Data :=
  (table.find? fun slot => rules.isSet slot && rules.fits key slot).map rules.data

/-- The first slot is cleared. -/
def reset : List Slot := (overwriteFirst (rules.fits key) rules.clear table).getD table

/-- The first slot is written, or else the first free one. -/
def set : List Slot :=
  match overwriteFirst (rules.fits key) (fun _ => rules.write key value) table with
  | some stored => stored
  | none => (overwriteFirst rules.isFree (fun _ => rules.write key value) table).getD table

/-- What is said of the operations. -/
structure Kept : Prop where
  reset : rules.get (rules.reset table key) key = none
  set : rules.Matches key value ->
    (∃ slot ∈ table, rules.ids slot = key ∨ rules.isFree slot = true) ->
    rules.get (rules.set table key value) key = some value
  others : ∀ other, other ≠ key ->
    rules.get (rules.reset table key) other = rules.get table other ∧
    (rules.Matches key value -> rules.get (rules.set table key value) other = rules.get table other)

theorem get_reset_eq_none_iff :
    rules.get (rules.reset table key) key = none ↔
      ∀ slot ∈ (table.filter (rules.fits key)).tail, rules.isSet slot = false := by
  unfold get reset
  rw [Option.map_eq_none_iff]
  cases updated : overwriteFirst (rules.fits key) rules.clear table with
  | some after =>
    refine (find?_overwriteFirst_eq_none_iff updated
      (fun slot isSought => (Bool.and_eq_true_iff.mp isSought).2)
      (fun slot => by rw [rules.isSet_clear, Bool.false_and])).trans ?_
    refine forall₂_congr fun slot mem => ?_
    rw [(List.mem_filter.mp (List.mem_of_mem_tail mem)).2, Bool.and_true]
  | none =>
    have noFit := overwriteFirst_eq_none_iff.mp updated
    have isNil : table.filter (rules.fits key) = [] :=
      List.filter_eq_nil_iff.mpr fun slot mem => by simp [noFit slot mem]
    rw [isNil, Option.getD_none, List.find?_eq_none]
    refine ⟨fun _ slot mem => (nomatch mem), fun _ slot mem => ?_⟩
    simp [noFit slot mem]

variable {rules table key value}

variable {other : Ids}

theorem get_reset_of_ne (differs : other ≠ key) :
    rules.get (rules.reset table key) other = rules.get table other := by
  unfold get reset
  cases updated : overwriteFirst (rules.fits key) rules.clear table with
  | none => rfl
  | some after =>
    refine congrArg _ (find?_overwriteFirst_of_unseen updated fun slot isFit => ?_)
    simp [fits, of_decide_eq_true isFit, differs.symm, rules.isSet_clear]

theorem get_set (isMatch : rules.Matches key value)
    (room : ∃ slot ∈ table, rules.ids slot = key ∨ rules.isFree slot = true) :
    rules.get (rules.set table key value) key = some value := by
  have isSeen : (rules.isSet (rules.write key value) &&
      rules.fits key (rules.write key value)) = true := by
    simp [fits, rules.isSet_write, rules.ids_write key value isMatch]
  have stored : (rules.set table key value).find? (fun slot =>
      rules.isSet slot && rules.fits key slot) = some (rules.write key value) := by
    unfold set
    cases updated : overwriteFirst (rules.fits key) (fun _ => rules.write key value) table with
    | some after =>
      exact find?_overwriteFirst_of_seen updated
        (fun slot _ isSought => (Bool.and_eq_true_iff.mp isSought).2) isSeen
    | none =>
      have noFit := overwriteFirst_eq_none_iff.mp updated
      cases filled : overwriteFirst rules.isFree (fun _ => rules.write key value) table with
      | some after =>
        refine find?_overwriteFirst_of_seen filled (fun slot mem isSought => ?_) isSeen
        simp [noFit slot mem] at isSought
      | none =>
        obtain ⟨slot, mem, isFit | free⟩ := room
        · exact absurd isFit (of_decide_eq_false (noFit slot mem))
        · simp [overwriteFirst_eq_none_iff.mp filled slot mem] at free
  unfold get
  rw [stored, Option.map_some, rules.data_write key value isMatch]

theorem get_set_of_ne (isMatch : rules.Matches key value) (differs : other ≠ key) :
    rules.get (rules.set table key value) other = rules.get table other := by
  have notOther : rules.fits other (rules.write key value) = false := by
    simp [fits, rules.ids_write key value isMatch, differs.symm]
  unfold get set
  cases updated : overwriteFirst (rules.fits key) (fun _ => rules.write key value) table with
  | some after =>
    refine congrArg _ (find?_overwriteFirst_of_unseen updated fun slot isFit => ?_)
    rw [notOther]
    simp [fits, of_decide_eq_true isFit, differs.symm]
  | none =>
    cases filled : overwriteFirst rules.isFree (fun _ => rules.write key value) table with
    | none => rfl
    | some after =>
      refine congrArg _ (find?_overwriteFirst_of_unseen filled fun slot free => ?_)
      simp [rules.isSet_of_isFree slot free, notOther]

theorem kept_iff :
    rules.Kept table key value ↔
      ∀ slot ∈ (table.filter (rules.fits key)).tail, rules.isSet slot = false := by
  rw [← get_reset_eq_none_iff]
  exact ⟨Kept.reset, fun isReset => ⟨isReset, get_set, fun other differs =>
    ⟨get_reset_of_ne differs, fun isMatch => get_set_of_ne isMatch differs⟩⟩⟩

end SlotTable

/-- `span_state_t`. -/
inductive SpanState where
  | notUsed
  | noSeq
  | sos
  | sosLocalNonce
  | sosRemoteNonce
  | instantiate
  | negotiated
  deriving DecidableEq

/-- `span_entry_t`. -/
structure SpanEntry where
  df : UInt8
  workingState : List UInt8
  key : List UInt8
  rxSequence : UInt8
  txSequence : UInt8
  classId : UInt8

/-- `struct SPAN`, with what is read of it as a `span_entry_t`. -/
structure Span where
  entry : SpanEntry
  lnode : UInt16
  rnode : UInt16
  state : SpanState

variable (ownNode : UInt16)

/-- `span_table`, with the node id of the controller. -/
def spanTable : SlotTable Span UInt16 SpanEntry where
  ids := Span.rnode
  data := Span.entry
  isSet span := span.state == .negotiated
  isFree span := span.state == .notUsed
  clear span := { span with state := .notUsed }
  write nodeId spanData := ⟨spanData, ownNode, nodeId, .negotiated⟩
  Matches _ _ := True
  isSet_of_isFree span isFree := by simp [eq_of_beq isFree]
  isSet_clear _ := rfl
  isSet_write _ _ := rfl
  ids_write _ _ _ := rfl
  data_write _ _ _ := rfl

def zwaveS2GetSpanData := (spanTable ownNode).get

def zwaveS2ResetSpan := (spanTable ownNode).reset

def zwaveS2SetSpanTable := (spanTable ownNode).set

/-- The states of a `struct MPAN`. -/
inductive MpanState where
  | notUsed
  | set
  | mos
  deriving DecidableEq

/-- `mpan_entry_t`. -/
structure MpanEntry where
  innerState : List UInt8
  ownerNodeId : UInt16
  groupId : UInt8
  classId : UInt8

/-- `struct MPAN`, with what is read of it as an `mpan_entry_t`. -/
structure Mpan where
  entry : MpanEntry
  state : MpanState

/-- `mpan_table`.  A write takes the owner that is named and the group of the data. -/
def mpanTable : SlotTable Mpan (UInt16 × UInt8) MpanEntry where
  ids mpan := (mpan.entry.ownerNodeId, mpan.entry.groupId)
  data := Mpan.entry
  isSet mpan := mpan.state == .set
  isFree mpan := mpan.state == .notUsed
  clear mpan := { mpan with state := .notUsed }
  write ids mpanData := ⟨{ mpanData with ownerNodeId := ids.1 }, .set⟩
  Matches ids mpanData := ids = (mpanData.ownerNodeId, mpanData.groupId)
  isSet_of_isFree mpan isFree := by simp [eq_of_beq isFree]
  isSet_clear _ := rfl
  isSet_write _ _ := rfl
  ids_write := by
    rintro _ mpanData rfl
    rfl
  data_write := by
    rintro _ mpanData rfl
    rfl

def zwaveS2GetMpanData := mpanTable.get

def zwaveS2ResetMpan := mpanTable.reset

def zwaveS2SetMpanData := mpanTable.set

/-- The operations on both tables do what is said if and only if no slot behind the first one
with the ids is negotiated. -/
theorem nonces_kept_iff (ownNode : UInt16) (spans : List Span) (nodeId : UInt16)
    (spanData : SpanEntry) (mpans : List Mpan) (ids : UInt16 × UInt8) (mpanData : MpanEntry) :
    ((spanTable ownNode).Kept spans nodeId spanData ↔
      ∀ span ∈ (spans.filter fun span => span.rnode = nodeId).tail,
        (span.state == .negotiated) = false) ∧
    (mpanTable.Kept mpans ids mpanData ↔
      ∀ mpan ∈ (mpans.filter fun mpan =>
        (mpan.entry.ownerNodeId, mpan.entry.groupId) = ids).tail, (mpan.state == .set) = false) :=
  ⟨SlotTable.kept_iff, SlotTable.kept_iff⟩

/-- A negotiated SPAN with node 5. -/
def sampleSpan (lnode : UInt16) : Span := ⟨⟨0, [], [], 1, 1, 2⟩, lnode, 5, .negotiated⟩

/-- The second of two SPANs with a node is found after a reset. -/
theorem not_kept_twoSpans :
    ¬ (spanTable 1).Kept [sampleSpan 1, sampleSpan 2] 5 (sampleSpan 1).entry := by
  intro kept
  exact absurd kept.reset (by decide)

end S2
