import Mathlib.Data.List.GetD
import Zpc.Foundation.Loop
import Zpc.Foundation.WideCodes

/-!
# Command class lists in a node information frame

A node information frame lists the command classes of a node with one byte each, or with two
bytes for the extended ones.  `zwave_command_class_list_unpack` fills the array of a
`zwave_node_info_t` with them and `zwave_command_class_list_pack` writes them back.
-/

namespace NodeInformation

open Foundation

/-- `ZWAVE_CONTROLLER_MAXIMUM_COMMAND_CLASS_LIST_LENGTH`. -/
def maximumCommandClassListLength : Nat := 64

/-- `zwave_node_info_t`. -/
structure ZwaveNodeInfo where
  listeningProtocol : UInt8
  optionalProtocol : UInt8
  basicDeviceClass : UInt8
  genericDeviceClass : UInt8
  specificDeviceClass : UInt8
  commandClassListLength : Nat
  commandClassList : Vector UInt16 maximumCommandClassListLength

/-- The command classes that the list holds. -/
def ZwaveNodeInfo.commandClasses (nodeInfo : ZwaveNodeInfo) : List UInt16 :=
  nodeInfo.commandClassList.toList.take nodeInfo.commandClassListLength

/-- A byte of an array. -/
def byteAt (bytes : List UInt8) (index : Nat) : UInt8 := bytes.getD index 0

/-- The two bytes of an extended command class, the high one first. -/
def extendedCommandClass (high low : UInt8) : UInt16 := (high.toUInt16 <<< 8) ||| low.toUInt16

/-- The variables of the loop of `zwave_command_class_list_unpack`, and whether an assertion
has ended the program. -/
structure UnpackLoop where
  nodeInfo : ZwaveNodeInfo
  i : Nat
  nifIndex : Nat
  aborted : Bool

/-- Write an entry of the array, and the length after it. -/
def ZwaveNodeInfo.writeClass (nodeInfo : ZwaveNodeInfo) (i : Nat)
    (room : i < maximumCommandClassListLength) (commandClass : UInt16) : ZwaveNodeInfo :=
  { nodeInfo with
    commandClassList := nodeInfo.commandClassList.set i commandClass room
    commandClassListLength := i + 1 }

/-- The body of the loop.  Where an extended command class is cut off, a build with
assertions ends the program and one without goes round with the same index. -/
def unpackStep (asserts : Bool) (nif : List UInt8) (loop : UnpackLoop) : Option UnpackLoop :=
  if loop.aborted then none
  else if guard : loop.nifIndex < nif.length ∧ loop.i < maximumCommandClassListLength then
    if 0xF1 ≤ byteAt nif loop.nifIndex then
      if loop.nifIndex < nif.length - 1 then
        some
          { loop with
            nodeInfo := loop.nodeInfo.writeClass loop.i guard.2
              (extendedCommandClass (byteAt nif loop.nifIndex) (byteAt nif (loop.nifIndex + 1)))
            i := loop.i + 1
            nifIndex := (loop.nifIndex + 2) % 256 }
      else if asserts then some { loop with aborted := true }
      else some { loop with nodeInfo := { loop.nodeInfo with commandClassListLength := loop.i } }
    else
      some
        { loop with
          nodeInfo := loop.nodeInfo.writeClass loop.i guard.2
            (byteAt nif loop.nifIndex).toUInt16
          i := loop.i + 1
          nifIndex := (loop.nifIndex + 1) % 256 }
  else none

/-- How a call comes to an end. -/
inductive UnpackEnd where
  | returns (nodeInfo : ZwaveNodeInfo)
  | aborts

/-- `zwave_command_class_list_unpack`, with a limit on the rounds of its loop. -/
def zwaveCommandClassListUnpack (asserts : Bool) (rounds : Nat) (nodeInfo : ZwaveNodeInfo)
    (nif : List UInt8) : Option UnpackEnd :=
  if nif.length = 0 then
    if asserts then some .aborts else some (.returns nodeInfo)
  else
    (leaveWithin (unpackStep asserts nif) rounds ⟨nodeInfo, 0, 0, false⟩).map fun loop =>
      if loop.aborted then .aborts else .returns loop.nodeInfo

/-- The call returns, and leaves this behind. -/
def Unpacks (asserts : Bool) (nodeInfo : ZwaveNodeInfo) (nif : List UInt8)
    (after : ZwaveNodeInfo) : Prop :=
  ∃ rounds, zwaveCommandClassListUnpack asserts rounds nodeInfo nif = some (.returns after)

variable (asserts : Bool) (nodeInfo : ZwaveNodeInfo) {nif rest : List UInt8}
  {before : ZwaveNodeInfo} {code : WideCode UInt8} {codes later : List (WideCode UInt8)}
  {loop : UnpackLoop} {lead : UInt8}

theorem unpacks_iff_leaves {asserts : Bool} {nodeInfo : ZwaveNodeInfo} (notEmpty : nif.length ≠ 0)
    (after : ZwaveNodeInfo) :
    Unpacks asserts nodeInfo nif after ↔
      ∃ loop, Leaves (unpackStep asserts nif) ⟨nodeInfo, 0, 0, false⟩ loop ∧
        loop.aborted = false ∧ loop.nodeInfo = after := by
  unfold Unpacks zwaveCommandClassListUnpack Leaves
  simp only [if_neg notEmpty]
  constructor
  · rintro ⟨rounds, returned⟩
    obtain ⟨loop, left, isEnd⟩ := Option.map_eq_some_iff.mp returned
    split at isEnd
    next => cases isEnd
    next notAborted =>
      exact ⟨loop, ⟨rounds, left⟩, eq_false_of_ne_true notAborted, UnpackEnd.returns.inj isEnd⟩
  · rintro ⟨loop, ⟨rounds, left⟩, notAborted, isAfter⟩
    refine ⟨rounds, ?_⟩
    rw [left, Option.map_some, notAborted, isAfter]
    rfl

section Branches

variable
  {nif : List UInt8}
  {loop : UnpackLoop}
  (notAborted : loop.aborted = false)

include notAborted

variable (asserts : Bool)

theorem unpackStep_of_done
    (done : ¬ (loop.nifIndex < nif.length ∧ loop.i < maximumCommandClassListLength)) :
    unpackStep asserts nif loop = none := by
  unfold unpackStep
  rw [if_neg (by simp [notAborted]), dif_neg done]

theorem unpackStep_of_single (inList : loop.nifIndex < nif.length)
    (room : loop.i < maximumCommandClassListLength)
    (notExtended : ¬ 0xF1 ≤ byteAt nif loop.nifIndex) :
    unpackStep asserts nif loop =
      some
        { loop with
          nodeInfo := loop.nodeInfo.writeClass loop.i room (byteAt nif loop.nifIndex).toUInt16
          i := loop.i + 1
          nifIndex := (loop.nifIndex + 1) % 256 } := by
  unfold unpackStep
  rw [if_neg (by simp [notAborted]), dif_pos ⟨inList, room⟩, if_neg notExtended]

theorem unpackStep_of_extended (inList : loop.nifIndex < nif.length - 1)
    (room : loop.i < maximumCommandClassListLength) (isExtended : 0xF1 ≤ byteAt nif loop.nifIndex) :
    unpackStep asserts nif loop =
      some
        { loop with
          nodeInfo := loop.nodeInfo.writeClass loop.i room
            (extendedCommandClass (byteAt nif loop.nifIndex) (byteAt nif (loop.nifIndex + 1)))
          i := loop.i + 1
          nifIndex := (loop.nifIndex + 2) % 256 } := by
  unfold unpackStep
  rw [if_neg (by simp [notAborted]), dif_pos ⟨by omega, room⟩, if_pos isExtended, if_pos inList]

theorem unpackStep_of_cutOff (isLast : loop.nifIndex + 1 = nif.length)
    (room : loop.i < maximumCommandClassListLength) (isExtended : 0xF1 ≤ byteAt nif loop.nifIndex) :
    unpackStep asserts nif loop =
      some
        (if asserts then { loop with aborted := true }
        else { loop with nodeInfo := { loop.nodeInfo with commandClassListLength := loop.i }
          }) := by
  unfold unpackStep
  rw [if_neg (by simp [notAborted]), dif_pos ⟨by omega, room⟩, if_pos isExtended, if_neg (by omega)]
  cases asserts <;> rfl

end Branches

/-- The bytes that begin a class of two bytes. -/
def leadsWhenUnpacked (byte : UInt8) : Bool := decide (0xF1 ≤ byte)

/-- The command class of a code. -/
def commandClassOf : WideCode UInt8 -> UInt16
  | .short byte => byte.toUInt16
  | .wide high low => extendedCommandClass high low

/-- The classes that are written for a list: those of its first codes. -/
def unpackedClasses (nif : List UInt8) : List UInt16 :=
  ((WideCode.read leadsWhenUnpacked nif).1.take maximumCommandClassListLength).map
    commandClassOf

/-- The list ends with the first byte of an extended class, and the array is not full before
that. -/
def EndsInExtendedClass (nif : List UInt8) : Prop :=
  (WideCode.read leadsWhenUnpacked nif).2 ≠ [] ∧
    (WideCode.read leadsWhenUnpacked nif).1.length < maximumCommandClassListLength

instance (nif : List UInt8) : Decidable (EndsInExtendedClass nif) :=
  inferInstanceAs (Decidable (_ ∧ _))

/-- The first entries of the array are written with these classes and nothing else is, and
the length counts them. -/
structure WritesClasses
    (before after : ZwaveNodeInfo)
    (classes : List UInt16) : Prop where
  room : classes.length ≤ maximumCommandClassListLength
  counted : after.commandClassListLength = classes.length
  entries : after.commandClassList.toList =
    classes ++ before.commandClassList.toList.drop classes.length
  kept : { after with
    commandClassListLength := before.commandClassListLength
    commandClassList := before.commandClassList } = before

theorem WritesClasses.commandClasses {after : ZwaveNodeInfo} {classes : List UInt16}
    (writes : WritesClasses before after classes) : after.commandClasses = classes := by
  unfold ZwaveNodeInfo.commandClasses
  rw [writes.counted, writes.entries, List.take_left]

theorem byteAt_append (first rest : List UInt8) (offset : Nat) :
    byteAt (first ++ rest) (first.length + offset) = byteAt rest offset := by
  unfold byteAt
  rw [List.getD_append_right _ _ _ _ (Nat.le_add_right _ _), Nat.add_sub_cancel_left]

/-- A code stands at an index of an array. -/
def StandsAt (bytes : List UInt8) (index : Nat) : WideCode UInt8 -> Prop
  | .short byte => index < bytes.length ∧ byteAt bytes index = byte
  | .wide high low =>
      index + 1 < bytes.length ∧ byteAt bytes index = high ∧ byteAt bytes (index + 1) = low

theorem standsAt_of_eq_append {bytes first : List UInt8}
    (isArray : bytes = first ++ (code.letters ++ rest)) : StandsAt bytes first.length code := by
  have lengths := congrArg List.length isArray
  have reads : ∀ offset,
      byteAt bytes (first.length + offset) = byteAt (code.letters ++ rest) offset := by
    intro offset
    rw [isArray, byteAt_append]
  cases code with
  | short byte =>
    simp only [WideCode.letters, List.length_append, List.length_singleton] at lengths
    exact ⟨by omega, reads 0⟩
  | wide high low =>
    simp only [WideCode.letters, List.length_append, List.length_cons, List.length_nil] at lengths
    exact ⟨by omega, reads 0, reads 1⟩

/-- The loop has read the codes up to here. -/
structure HasUnpacked
    (before : ZwaveNodeInfo)
    (codes : List (WideCode UInt8))
    (loop : UnpackLoop) : Prop where
  notAborted : loop.aborted = false
  index : loop.i = codes.length
  nifIndex : loop.nifIndex = (WideCode.spell codes).length
  counted : codes ≠ [] -> loop.nodeInfo.commandClassListLength = codes.length
  entries : loop.nodeInfo.commandClassList.toList =
    codes.map commandClassOf ++ before.commandClassList.toList.drop codes.length
  kept : { loop.nodeInfo with
    commandClassListLength := before.commandClassListLength
    commandClassList := before.commandClassList } = before

theorem hasUnpacked_nil : HasUnpacked nodeInfo [] ⟨nodeInfo, 0, 0, false⟩ where
  notAborted := rfl
  index := rfl
  nifIndex := rfl
  counted noCodes := absurd rfl noCodes
  entries := rfl
  kept := rfl

theorem HasUnpacked.writesClasses (unpacked : HasUnpacked before codes loop) (some : codes ≠ [])
    (room : codes.length ≤ maximumCommandClassListLength) :
    WritesClasses before loop.nodeInfo (codes.map commandClassOf) where
  room := by rwa [List.length_map]
  counted := by rw [unpacked.counted some, List.length_map]
  entries := by rw [unpacked.entries, List.length_map]
  kept := unpacked.kept

theorem HasUnpacked.write (unpacked : HasUnpacked before codes loop) (code : WideCode UInt8)
    (room : loop.i < maximumCommandClassListLength) {next : UnpackLoop}
    (notAborted : next.aborted = false)
    (isNodeInfo : next.nodeInfo = loop.nodeInfo.writeClass loop.i room (commandClassOf code))
    (isIndex : next.i = loop.i + 1)
    (isNifIndex : next.nifIndex = loop.nifIndex + code.letters.length) :
    HasUnpacked before (codes ++ [code]) next where
  notAborted := notAborted
  index := by rw [isIndex, unpacked.index, List.length_append, List.length_singleton]
  nifIndex := by
    rw [isNifIndex, unpacked.nifIndex, WideCode.spell_append]
    simp
  counted _ := by
    rw [isNodeInfo, List.length_append, ← unpacked.index]
    rfl
  entries := by
    have isShort : codes.length < before.commandClassList.toList.length := by
      rw [Vector.length_toList, ← unpacked.index]
      exact room
    rw [isNodeInfo]
    unfold ZwaveNodeInfo.writeClass
    rw [Vector.toList_set, unpacked.entries, unpacked.index, List.drop_eq_getElem_cons isShort]
    simp
  kept := by
    rw [isNodeInfo]
    exact unpacked.kept

/-- One round of the loop unpacks one more class. -/
theorem HasUnpacked.step (asserts : Bool) (isByteLength : nif.length ≤ 255)
    (unpacked : HasUnpacked before codes loop) (room : codes.length < maximumCommandClassListLength)
    (proper : code.IsProper leadsWhenUnpacked)
    (isNif : nif = WideCode.spell codes ++ (code.letters ++ rest)) :
    ∃ next, unpackStep asserts nif loop = some next ∧
      HasUnpacked before (codes ++ [code]) next := by
  have stands := standsAt_of_eq_append isNif
  rw [← unpacked.nifIndex] at stands
  have hasRoom : loop.i < maximumCommandClassListLength := by rwa [unpacked.index]
  cases code with
  | short byte =>
    obtain ⟨inList, isByte⟩ := stands
    have noLead : ¬ 0xF1 ≤ byte := of_decide_eq_false proper
    rw [← isByte] at noLead
    refine ⟨_, unpackStep_of_single unpacked.notAborted asserts inList hasRoom noLead,
      unpacked.write (.short byte) hasRoom unpacked.notAborted ?_ rfl ?_⟩
    · rw [isByte]
      rfl
    · exact Nat.mod_eq_of_lt (by omega)
  | wide high low =>
    obtain ⟨inList, isHigh, isLow⟩ := stands
    have leads : 0xF1 ≤ high := of_decide_eq_true proper
    rw [← isHigh] at leads
    refine ⟨_, unpackStep_of_extended unpacked.notAborted asserts (by omega) hasRoom leads,
      unpacked.write (.wide high low) hasRoom unpacked.notAborted ?_ rfl ?_⟩
    · rw [isHigh, isLow]
      rfl
    · exact Nat.mod_eq_of_lt (by omega)

theorem HasUnpacked.leaves_of_done {asserts : Bool} (unpacked : HasUnpacked before codes loop)
    (done : ¬ ((WideCode.spell codes).length < nif.length ∧
      codes.length < maximumCommandClassListLength)) :
    Leaves (unpackStep asserts nif) loop loop := by
  rw [← unpacked.nifIndex, ← unpacked.index] at done
  exact (leaves_iff_of_stops (unpackStep_of_done unpacked.notAborted asserts done) loop).mpr rfl

theorem HasUnpacked.leaves (asserts : Bool) (isByteLength : nif.length ≤ 255)
    (unpacked : HasUnpacked before codes loop) (room : codes.length ≤ maximumCommandClassListLength)
    (proper : ∀ code ∈ later, code.IsProper leadsWhenUnpacked)
    (isNif : nif = WideCode.spell codes ++ (WideCode.spell later ++ rest))
    (ends : rest = [] ∨ maximumCommandClassListLength ≤ codes.length + later.length) :
    ∃ final, Leaves (unpackStep asserts nif) loop final ∧
      HasUnpacked before ((codes ++ later).take maximumCommandClassListLength) final := by
  induction later generalizing codes loop with
  | nil =>
    refine ⟨loop, unpacked.leaves_of_done ?_, by rwa [List.append_nil, List.take_of_length_le room]⟩
    rintro ⟨inList, inArray⟩
    rcases ends with noRest | isFull
    · rw [isNif, noRest] at inList
      simp at inList
    · exact absurd isFull (Nat.not_le_of_lt inArray)
  | cons code later ih =>
    by_cases isFull : codes.length = maximumCommandClassListLength
    · refine ⟨loop, unpacked.leaves_of_done fun guard => absurd isFull (Nat.ne_of_lt guard.2), ?_⟩
      rwa [List.take_append_of_le_length (Nat.le_of_eq isFull.symm), List.take_of_length_le room]
    · have inArray := Nat.lt_of_le_of_ne room isFull
      have isList : nif =
          WideCode.spell codes ++ (code.letters ++ (WideCode.spell later ++ rest)) := by
        rw [isNif, WideCode.spell_cons, List.append_assoc]
      obtain ⟨next, goesOn, nextUnpacked⟩ := unpacked.step asserts isByteLength
        inArray (proper code List.mem_cons_self) isList
      obtain ⟨final, leaves, finalUnpacked⟩ := ih nextUnpacked
        (by rw [List.length_append]; exact inArray)
        (fun other mem => proper other (List.mem_cons_of_mem code mem))
        (by rw [isList]; simp) (by simpa [Nat.add_assoc, Nat.add_comm 1] using ends)
      refine ⟨final, (leaves_iff_of_goesOn goesOn final).mpr leaves, ?_⟩
      rwa [List.append_assoc, List.singleton_append] at finalUnpacked

theorem HasUnpacked.not_leaves_of_cutOff {asserts : Bool} (unpacked : HasUnpacked before codes loop)
    (room : codes.length < maximumCommandClassListLength) (leads : leadsWhenUnpacked lead = true)
    (isNif : nif = WideCode.spell codes ++ [lead]) :
    ¬ ∃ final, Leaves (unpackStep asserts nif) loop final ∧ final.aborted = false := by
  have isLead : 0xF1 ≤ byteAt nif loop.nifIndex := by
    have isByte := byteAt_append (WideCode.spell codes) [lead] 0
    rw [Nat.add_zero, ← isNif, ← unpacked.nifIndex] at isByte
    rw [isByte]
    exact of_decide_eq_true leads
  have isLast : loop.nifIndex + 1 = nif.length := by
    rw [isNif, List.length_append, ← unpacked.nifIndex, List.length_singleton]
  have inArray : loop.i < maximumCommandClassListLength := by rwa [unpacked.index]
  rintro ⟨final, leaves, notAborted⟩
  cases asserts with
  | true =>
    have aborts := unpackStep_of_cutOff unpacked.notAborted true isLast inArray isLead
    rw [leaves_iff_of_goesOn aborts, leaves_iff_of_stops (by rfl)] at leaves
    rw [leaves] at notAborted
    cases notAborted
  | false =>
    -- the index stays at the byte, so every further round is like the first
    refine not_leaves_of_goesOn
      (fun state => state.aborted = false ∧ state.i = loop.i ∧ state.nifIndex = loop.nifIndex)
      ?_ ⟨unpacked.notAborted, rfl, rfl⟩ final leaves
    rintro state ⟨isGoing, sameCount, sameIndex⟩
    exact ⟨_, unpackStep_of_cutOff isGoing false (by rwa [sameIndex]) (by rwa [sameCount])
      (by rwa [sameIndex]), isGoing, sameCount, sameIndex⟩

theorem HasUnpacked.not_leaves {asserts : Bool} (isByteLength : nif.length ≤ 255)
    (unpacked : HasUnpacked before codes loop)
    (room : codes.length + later.length < maximumCommandClassListLength)
    (proper : ∀ code ∈ later, code.IsProper leadsWhenUnpacked)
    (leads : leadsWhenUnpacked lead = true)
    (isNif : nif = WideCode.spell codes ++ (WideCode.spell later ++ [lead])) :
    ¬ ∃ final, Leaves (unpackStep asserts nif) loop final ∧ final.aborted = false := by
  induction later generalizing codes loop with
  | nil => exact unpacked.not_leaves_of_cutOff room leads isNif
  | cons code later ih =>
    have isList : nif =
        WideCode.spell codes ++ (code.letters ++ (WideCode.spell later ++ [lead])) := by
      rw [isNif, WideCode.spell_cons, List.append_assoc]
    rw [List.length_cons] at room
    obtain ⟨next, goesOn, nextUnpacked⟩ := unpacked.step asserts isByteLength
      (by omega) (proper code List.mem_cons_self) isList
    simp only [leaves_iff_of_goesOn goesOn]
    exact ih nextUnpacked
      (by rw [List.length_append, List.length_singleton]; omega)
      (fun other mem => proper other (List.mem_cons_of_mem code mem))
      (by rw [isList]; simp)

theorem unpacks_of_not_endsInExtendedClass (notEmpty : 1 ≤ nif.length)
    (isByteLength : nif.length ≤ 255) (ends : ¬ EndsInExtendedClass nif) :
    ∃ after, Unpacks asserts nodeInfo nif after ∧
      WritesClasses nodeInfo after (unpackedClasses nif) := by
  have spelled := WideCode.spell_read leadsWhenUnpacked nif
  have enough : (WideCode.read leadsWhenUnpacked nif).2 = [] ∨
      maximumCommandClassListLength ≤
        ([] : List (WideCode UInt8)).length + (WideCode.read leadsWhenUnpacked nif).1.length := by
    rw [List.length_nil, Nat.zero_add]
    by_cases noRest : (WideCode.read leadsWhenUnpacked nif).2 = []
    · exact .inl noRest
    · exact .inr (Nat.le_of_not_lt fun short => ends ⟨noRest, short⟩)
  obtain ⟨loop, leaves, unpacked⟩ := (hasUnpacked_nil nodeInfo).leaves asserts isByteLength
    (Nat.zero_le _) (WideCode.isProper_of_mem_read leadsWhenUnpacked nif)
    spelled.symm enough
  rw [List.nil_append] at unpacked
  refine ⟨loop.nodeInfo, (unpacks_iff_leaves (by omega) _).mpr
    ⟨loop, leaves, unpacked.notAborted, rfl⟩, unpacked.writesClasses ?_ ?_⟩
  · intro noCodes
    rcases List.take_eq_nil_iff.mp noCodes with absurdLength | noCodes
    · cases absurdLength
    · rw [noCodes] at spelled enough
      rcases enough with noRest | isFull
      · rw [noRest] at spelled
        rw [← spelled] at notEmpty
        cases notEmpty
      · cases isFull
  · exact List.length_take_le _ _

theorem not_unpacks_of_endsInExtendedClass (isByteLength : nif.length ≤ 255)
    (ends : EndsInExtendedClass nif) (after : ZwaveNodeInfo) :
    ¬ Unpacks asserts nodeInfo nif after := by
  obtain ⟨hasRest, short⟩ := ends
  have spelled := WideCode.spell_read leadsWhenUnpacked nif
  rcases WideCode.read_rest leadsWhenUnpacked nif with noRest | ⟨lead, leads, isRest⟩
  · exact absurd noRest hasRest
  · rw [isRest] at spelled
    have notEmpty : nif.length ≠ 0 := by
      rw [← spelled, List.length_append, List.length_singleton]
      omega
    rw [unpacks_iff_leaves notEmpty]
    rintro ⟨final, leaves, notAborted, -⟩
    exact (hasUnpacked_nil nodeInfo).not_leaves isByteLength (by simpa using short)
      (WideCode.isProper_of_mem_read leadsWhenUnpacked nif) leads spelled.symm
      ⟨final, leaves, notAborted⟩

/-- A call returns, with at most `maximumCommandClassListLength` entries written and their
number in the length, exactly when the list does not end in the first byte of an extended
command class before the array is full. -/
theorem unpacks_iff (asserts : Bool) (nodeInfo : ZwaveNodeInfo) {nif : List UInt8}
    (notEmpty : 1 ≤ nif.length) (isByteLength : nif.length ≤ 255) :
    (∃ after, Unpacks asserts nodeInfo nif after ∧
      WritesClasses nodeInfo after (unpackedClasses nif)) ↔ ¬ EndsInExtendedClass nif := by
  constructor
  · rintro ⟨after, unpacks, -⟩ ends
    exact not_unpacks_of_endsInExtendedClass asserts nodeInfo isByteLength ends after unpacks
  · exact unpacks_of_not_endsInExtendedClass asserts nodeInfo notEmpty isByteLength

/-- A `zwave_node_info_t` that is set to zero. -/
def emptyNodeInfo : ZwaveNodeInfo := ⟨0, 0, 0, 0, 0, 0, Vector.replicate _ 0⟩

/-- A basic command class, an extended one and another basic one. -/
theorem unpacks_basic :
    unpackedClasses [0x20, 0xF1, 0x02, 0x25] = [0x20, 0xF102, 0x25] ∧
      ∃ after, Unpacks false emptyNodeInfo [0x20, 0xF1, 0x02, 0x25] after ∧
        WritesClasses emptyNodeInfo after (unpackedClasses [0x20, 0xF1, 0x02, 0x25]) :=
  ⟨by decide, (unpacks_iff false emptyNodeInfo (by decide) (by decide)).mpr (by decide)⟩

/-- Behind a basic command class, the first byte of an extended one. -/
theorem not_unpacks_cutOff : ¬ ∃ after, Unpacks false emptyNodeInfo [0x20, 0xF1] after := by
  rintro ⟨after, unpacks⟩
  exact not_unpacks_of_endsInExtendedClass false emptyNodeInfo (by decide) (by decide) after
    unpacks

/-- What `zwave_rx_map_node_information` reads of a `zwapi_node_info_header_t`. -/
structure ZwapiNodeInfoHeader where
  capability : UInt8
  security : UInt8

/-- The fields that `zwave_rx_map_node_information` fills by itself, as far as the frame goes.
`protocolInfo` is what `zwapi_get_protocol_info` gives for the node. -/
def mapNodeInfoHeader (nodeId : Nat) (protocolInfo : Option ZwapiNodeInfoHeader)
    (frame : List UInt8) (destination : ZwaveNodeInfo) : ZwaveNodeInfo :=
  let destination :=
    if 0 < nodeId then
      match protocolInfo with
      | some header =>
          { destination with
            listeningProtocol := header.capability
            optionalProtocol := header.security }
      | none => destination
    else destination
  { destination with
    basicDeviceClass := byteAt frame 0
    genericDeviceClass :=
      if 1 < frame.length then byteAt frame 1 else destination.genericDeviceClass
    specificDeviceClass :=
      if 2 < frame.length then byteAt frame 2 else destination.specificDeviceClass }

/-- `zwave_rx_map_node_information`, with a limit on the rounds of the loop below it. -/
def zwaveRxMapNodeInformation (asserts : Bool) (rounds : Nat) (nodeId : Nat)
    (protocolInfo : Option ZwapiNodeInfoHeader) (frame : List UInt8)
    (destination : ZwaveNodeInfo) : Option UnpackEnd :=
  if frame.length = 0 then some (.returns destination)
  else if frame.length ≤ 3 then
    some (.returns (mapNodeInfoHeader nodeId protocolInfo frame destination))
  else
    zwaveCommandClassListUnpack asserts rounds
      (mapNodeInfoHeader nodeId protocolInfo frame destination) (frame.drop 3)

/-- The call returns unless the frame has a list that ends in the first byte of an extended
command class. -/
theorem exists_mapNodeInformation_returns_iff (asserts : Bool) (nodeId : Nat)
    (protocolInfo : Option ZwapiNodeInfoHeader) {frame : List UInt8}
    (isByteLength : frame.length ≤ 255) (destination : ZwaveNodeInfo) :
    (∃ rounds after,
      zwaveRxMapNodeInformation asserts rounds nodeId protocolInfo frame destination =
        some (.returns after)) ↔
      frame.length ≤ 3 ∨ ¬ EndsInExtendedClass (frame.drop 3) := by
  unfold zwaveRxMapNodeInformation
  by_cases isEmpty : frame.length = 0
  · exact iff_of_true ⟨0, _, if_pos isEmpty⟩ (.inl (by omega))
  · simp only [if_neg isEmpty]
    by_cases short : frame.length ≤ 3
    · exact iff_of_true ⟨0, _, if_pos short⟩ (.inl short)
    · simp only [short, false_or]
      have listed : (frame.drop 3).length = frame.length - 3 := List.length_drop
      constructor
      · rintro ⟨rounds, after, returned⟩ ends
        exact not_unpacks_of_endsInExtendedClass asserts _ (by omega) ends after ⟨rounds, returned⟩
      · intro complete
        obtain ⟨after, ⟨rounds, returned⟩, -⟩ :=
          unpacks_of_not_endsInExtendedClass asserts (mapNodeInfoHeader nodeId protocolInfo frame
            destination) (by omega) (by omega) complete
        exact ⟨rounds, after, returned⟩

end NodeInformation
