import Mathlib.Data.List.TakeWhile
import Mathlib.Data.UInt
import Zpc.NodeInformation.CommandClassLists

/-!
# The readers of a command class list

Besides `zwave_command_class_list_unpack`, `is_command_class_in_supported_list` searches a
list up to the control mark, and `zwave_parse_nif` splits it there into the supported and the
controlled command classes.  They are compared on the lists that are spelled by whole codes.
-/

namespace NodeInformation

open Foundation

def extendedCommandClassIdentifierStart : UInt8 := 0xF0

def commandClassControlMark : UInt8 := 0xEF

def zwaveMaxNifSize : Nat := 156

/-- The bytes that are written for a command class. -/
def packedBytes (commandClass : UInt16) : List UInt8 :=
  if 0xFF < commandClass then [(commandClass >>> 8).toUInt8, commandClass.toUInt8]
  else [commandClass.toUInt8]

variable (nodeInfo : ZwaveNodeInfo)

/-- `zwave_command_class_list_pack`: the bytes that are written, in a number that
`nif_length` says. -/
def zwaveCommandClassListPack : List UInt8 :=
  nodeInfo.commandClasses.flatMap packedBytes

/-- The variables of the loop of `is_command_class_in_supported_list`. -/
structure SearchLoop where
  i : Nat
  found : Bool

/-- The body of the loop; the loop is left at the mark, and after the class was found. -/
def searchStep (commandClass : UInt16) (nif : List UInt8) (loop : SearchLoop) : Option SearchLoop :=
  if loop.found then none
  else if loop.i < nif.length then
    if byteAt nif loop.i = commandClassControlMark then none
    else if extendedCommandClassIdentifierStart ≤ byteAt nif loop.i ∧ loop.i < nif.length - 1 then
      if commandClass = extendedCommandClass (byteAt nif loop.i) (byteAt nif (loop.i + 1)) then
        some { loop with found := true }
      else some { loop with i := (loop.i + 2) % 256 }
    else if commandClass = (byteAt nif loop.i).toUInt16 then some { loop with found := true }
    else some { loop with i := (loop.i + 1) % 256 }
  else none

/-- `is_command_class_in_supported_list`.  Every round but the last advances the index, so
there are enough rounds. -/
def isCommandClassInSupportedList (commandClass : UInt16) (nif : List UInt8) : Bool :=
  match leaveWithin (searchStep commandClass nif) (nif.length + 2) ⟨0, false⟩ with
  | some loop => loop.found
  | none => false

/-- The variables of the loop of `zwave_parse_nif_list_until_marker_or_end`, and whether it
was left by a `break`. -/
structure ParseLoop where
  nifIndex : Nat
  userList : List UInt16
  stopped : Bool

/-- The body of the loop. -/
def parseStep (nif : List UInt8) (loop : ParseLoop) : Option ParseLoop :=
  if loop.stopped then none
  else if loop.nifIndex < nif.length ∧ loop.nifIndex < zwaveMaxNifSize then
    if byteAt nif loop.nifIndex = commandClassControlMark then
      some { loop with nifIndex := (loop.nifIndex + 1) % 256, stopped := true }
    else if extendedCommandClassIdentifierStart ≤ byteAt nif loop.nifIndex then
      if loop.nifIndex < nif.length - 1 then
        some
          { loop with
            userList := loop.userList ++
              [extendedCommandClass (byteAt nif loop.nifIndex) (byteAt nif (loop.nifIndex + 1))]
            nifIndex := (loop.nifIndex + 2) % 256 }
      else some { loop with stopped := true }
    else
      some
        { loop with
          userList := loop.userList ++ [(byteAt nif loop.nifIndex).toUInt16]
          nifIndex := (loop.nifIndex + 1) % 256 }
  else none

/-- `zwave_parse_nif_list_until_marker_or_end`: the final index, and the list where the
caller gives one to fill. -/
def zwaveParseNifListUntilMarkerOrEnd (nif : List UInt8)
    (hasUserList : Bool) : Nat × Option (List UInt16) :=
  if hasUserList then
    match leaveWithin (parseStep nif) (nif.length + 2) ⟨0, [], false⟩ with
    | some loop => (loop.nifIndex, some loop.userList)
    | none => (0, none)
  else (0, none)

/-- The lists that `zwave_parse_nif` fills. -/
structure ParsedNif where
  supported : Option (List UInt16)
  controlled : Option (List UInt16)

/-- `zwave_parse_nif`, for a caller that gives or does not give a list for the supported and
for the controlled command classes. -/
def zwaveParseNif (nif : List UInt8) (hasSupportedList hasControlledList : Bool) : ParsedNif :=
  let first := zwaveParseNifListUntilMarkerOrEnd nif hasSupportedList
  let second := zwaveParseNifListUntilMarkerOrEnd (nif.drop first.1) hasControlledList
  ⟨first.2, second.2⟩

/-- The bytes that begin a class of two bytes. -/
def leadsWhenParsed (byte : UInt8) : Bool := decide (extendedCommandClassIdentifierStart ≤ byte)

/-- The mark as a code. -/
def controlMark : WideCode UInt8 := .short commandClassControlMark

variable (codes : List (WideCode UInt8))

/-- The codes before the first mark. -/
def untilMark : List (WideCode UInt8) :=
  codes.takeWhile fun code => decide (code ≠ controlMark)

/-- The codes after the first mark. -/
def afterMark : List (WideCode UInt8) :=
  (codes.dropWhile fun code => decide (code ≠ controlMark)).tail

/-- The command classes before the first mark. -/
def supportedClasses : List UInt16 :=
  (untilMark codes).map commandClassOf

/-- The command classes after the first mark. -/
def controlledClasses : List UInt16 :=
  ((afterMark codes).filter fun code => decide (code ≠ controlMark)).map commandClassOf

/-- The codes before the first mark that begin in so many bytes. -/
def untilMarkWithin : Nat -> List (WideCode UInt8) -> List (WideCode UInt8)
  | _, [] => []
  | 0, _ :: _ => []
  | bytes + 1, code :: codes =>
      if code = controlMark then []
      else code :: untilMarkWithin (bytes + 1 - code.letters.length) codes

/-- The codes behind those, without the mark if it begins in so many bytes. -/
def leftBehind : Nat -> List (WideCode UInt8) -> List (WideCode UInt8)
  | _, [] => []
  | 0, code :: codes => code :: codes
  | bytes + 1, code :: codes =>
      if code = controlMark then codes
      else leftBehind (bytes + 1 - code.letters.length) codes

theorem toNat_extendedCommandClass (high low : UInt8) :
    (extendedCommandClass high low).toNat = high.toNat * 256 + low.toNat := by
  have lowSmall := low.toNat_lt
  have highSmall := high.toNat_lt
  unfold extendedCommandClass
  rw [UInt16.toNat_or, UInt16.toNat_shiftLeft, UInt8.toNat_toUInt16, UInt8.toNat_toUInt16]
  have shifted : high.toNat <<< ((8 : UInt16).toNat % 16) % 2 ^ 16 = 2 ^ 8 * high.toNat := by
    rw [show (8 : UInt16).toNat % 16 = 8 from rfl, Nat.shiftLeft_eq]
    omega
  rw [shifted, ← Nat.two_pow_add_eq_or_of_lt lowSmall]
  omega

variable (commandClass : UInt16) {nif : List UInt8}

theorem toNat_highByte : (commandClass >>> 8).toUInt8.toNat = commandClass.toNat / 256 := by
  have small := commandClass.toNat_lt
  rw [UInt16.toNat_toUInt8, UInt16.toNat_shiftRight, show (8 : UInt16).toNat % 16 = 8 from rfl,
    Nat.shiftRight_eq_div_pow]
  omega

/-- The code that a command class is packed to. -/
def packedCode (commandClass : UInt16) : WideCode UInt8 :=
  if 0xFF < commandClass then .wide (commandClass >>> 8).toUInt8 commandClass.toUInt8
  else .short commandClass.toUInt8

theorem letters_packedCode : (packedCode commandClass).letters = packedBytes commandClass := by
  unfold packedCode packedBytes
  split <;> rfl

theorem commandClassOf_packedCode : commandClassOf (packedCode commandClass) = commandClass := by
  unfold packedCode
  apply UInt16.toNat_inj.mp
  split
  next =>
    unfold commandClassOf
    rw [toNat_extendedCommandClass, toNat_highByte, UInt16.toNat_toUInt8]
    omega
  next small =>
    have isSmall := UInt16.lt_iff_toNat_lt.not.mp small
    exact Nat.mod_eq_of_lt (Nat.lt_succ_of_le (Nat.le_of_not_lt isSmall))

/-- A command class that is packed to one byte below the extended ones, or to two bytes. -/
def IsPackable (commandClass : UInt16) : Prop := commandClass < 0xF1 ∨ 0xF100 ≤ commandClass

theorem isProper_packedCode {commandClass : UInt16} (packable : IsPackable commandClass) :
    (packedCode commandClass).IsProper leadsWhenUnpacked := by
  unfold packedCode
  rcases packable with small | large
  · have isSmall : commandClass.toNat < 0xF1 := UInt16.lt_iff_toNat_lt.mp small
    have oneByte : ¬ 0xFF < commandClass := by
      exact Nat.not_lt_of_le (Nat.le_trans (Nat.le_of_lt isSmall) (by decide))
    rw [if_neg oneByte]
    apply decide_eq_false
    exact Nat.not_le_of_lt (Nat.lt_of_le_of_lt (Nat.mod_le _ _) isSmall)
  · have isLarge : 0xF100 ≤ commandClass.toNat := UInt16.le_iff_toNat_le.mp large
    have twoBytes : 0xFF < commandClass := by
      exact Nat.lt_of_lt_of_le (by decide) isLarge
    rw [if_pos twoBytes]
    apply decide_eq_true
    rw [UInt8.le_iff_toNat_le, toNat_highByte]
    exact (Nat.le_div_iff_mul_le (by decide)).mpr isLarge

theorem pack_eq_spell :
    zwaveCommandClassListPack nodeInfo =
      WideCode.spell (nodeInfo.commandClasses.map packedCode) := by
  unfold zwaveCommandClassListPack WideCode.spell
  rw [List.flatMap_map]
  simp only [letters_packedCode]

theorem length_commandClasses_le :
    nodeInfo.commandClasses.length ≤ maximumCommandClassListLength := by
  unfold ZwaveNodeInfo.commandClasses
  rw [List.length_take, Vector.length_toList]
  exact Nat.min_le_right _ _

theorem length_flatMap_packedBytes (classes : List UInt16) :
    classes.length ≤ (classes.flatMap packedBytes).length ∧
      (classes.flatMap packedBytes).length ≤ 2 * classes.length := by
  induction classes with
  | nil => exact ⟨Nat.le_refl 0, Nat.le_refl 0⟩
  | cons commandClass classes ih =>
    have isOneOrTwo : (packedBytes commandClass).length = 1 ∨
        (packedBytes commandClass).length = 2 := by
      unfold packedBytes
      split
      next => exact .inr rfl
      next => exact .inl rfl
    rw [List.flatMap_cons, List.length_append, List.length_cons]
    omega

theorem unpacks_pack_iff (asserts : Bool) {source : ZwaveNodeInfo}
    (packable : ∀ commandClass ∈ source.commandClasses, IsPackable commandClass)
    (destination : ZwaveNodeInfo) :
    (∃ after, Unpacks asserts destination (zwaveCommandClassListPack source) after ∧
      after.commandClasses = source.commandClasses) ↔
      source.commandClasses ≠ [] ∨ asserts = false ∧ destination.commandClasses = [] := by
  obtain ⟨atLeast, atMost⟩ := length_flatMap_packedBytes source.commandClasses
  have room := length_commandClasses_le source
  by_cases isEmpty : source.commandClasses = []
  · have noBytes : zwaveCommandClassListPack source = [] := by
      unfold zwaveCommandClassListPack
      rw [isEmpty]
      rfl
    rw [noBytes, isEmpty]
    unfold Unpacks zwaveCommandClassListUnpack
    cases asserts with
    | true | false => simp
  · refine iff_of_true ?_ (.inl isEmpty)
    have notEmpty : 1 ≤ source.commandClasses.length := List.length_pos_iff.mpr isEmpty
    have small : maximumCommandClassListLength = 64 := rfl
    have proper : ∀ code ∈ source.commandClasses.map packedCode,
        code.IsProper leadsWhenUnpacked := by
      intro code mem
      obtain ⟨commandClass, isListed, isCode⟩ := List.mem_map.mp mem
      rw [← isCode]
      exact isProper_packedCode (packable commandClass isListed)
    have isRead := WideCode.read_spell proper
    rw [← pack_eq_spell] at isRead
    have longEnough : 1 ≤ (zwaveCommandClassListPack source).length := Nat.le_trans notEmpty atLeast
    have isByteLength : (zwaveCommandClassListPack source).length ≤ 255 :=
      Nat.le_trans atMost (by omega)
    obtain ⟨after, unpacks, writes⟩ := unpacks_of_not_endsInExtendedClass asserts destination
      longEnough isByteLength fun ends => ends.1 (by rw [isRead])
    refine ⟨after, unpacks, ?_⟩
    rw [writes.commandClasses]
    unfold unpackedClasses
    rw [isRead, List.take_of_length_le (by rwa [List.length_map]), List.map_map]
    exact (List.map_congr_left fun commandClass _ =>
      commandClassOf_packedCode commandClass).trans (List.map_id _)

theorem searchStep_of_standsAt (isByteLength : nif.length ≤ 255) {index : Nat}
    {code : WideCode UInt8} (proper : code.IsProper leadsWhenParsed) (notMark : code ≠ controlMark)
    (stands : StandsAt nif index code) :
    searchStep commandClass nif ⟨index, false⟩ =
      if commandClass = commandClassOf code then some ⟨index, true⟩
      else some ⟨index + code.letters.length, false⟩ := by
  unfold searchStep
  cases code with
  | short byte =>
    obtain ⟨inList, isByte⟩ := stands
    have noLead : ¬ extendedCommandClassIdentifierStart ≤ byte := of_decide_eq_false proper
    have isOther : byte ≠ commandClassControlMark :=
      fun same => notMark (congrArg WideCode.short same)
    simp only [isByte, inList, if_true, if_neg isOther, noLead, false_and, if_false]
    rw [Nat.mod_eq_of_lt (show index + 1 < 256 by omega)]
    rfl
  | wide high low =>
    obtain ⟨inList, isHigh, isLow⟩ := stands
    have leads : extendedCommandClassIdentifierStart ≤ high := of_decide_eq_true proper
    have isOther : high ≠ commandClassControlMark := by
      intro same
      rw [same] at leads
      exact absurd leads (by decide)
    have inBounds : index < nif.length - 1 := by omega
    simp only [isHigh, isLow, show index < nif.length from by omega, if_true, if_neg isOther,
      leads, inBounds, and_self]
    rw [Nat.mod_eq_of_lt (show index + 2 < 256 by omega)]
    rfl

theorem search_leaves (isByteLength : nif.length ≤ 255) {first later : List (WideCode UInt8)}
    (proper : ∀ code ∈ later, code.IsProper leadsWhenParsed)
    (isNif : nif = WideCode.spell first ++ WideCode.spell later) :
    ∃ index, Leaves (searchStep commandClass nif) ⟨(WideCode.spell first).length, false⟩
      ⟨index, decide (commandClass ∈ supportedClasses later)⟩ := by
  induction later generalizing first with
  | nil =>
    refine ⟨(WideCode.spell first).length, (leaves_iff_of_stops ?_ _).mpr rfl⟩
    rw [isNif]
    simp [searchStep]
  | cons code later ih =>
    have isList : nif = WideCode.spell first ++ (code.letters ++ WideCode.spell later) := isNif
    have stands := standsAt_of_eq_append isList
    by_cases isMark : code = controlMark
    · rw [isMark] at stands
      refine ⟨(WideCode.spell first).length, (leaves_iff_of_stops ?_ _).mpr ?_⟩
      · simp [searchStep, stands.1, stands.2]
      · simp [supportedClasses, untilMark, isMark]
    · have body := searchStep_of_standsAt commandClass isByteLength
        (proper code List.mem_cons_self) isMark stands
      have isSupported : supportedClasses (code :: later) =
          commandClassOf code :: supportedClasses later := by
        simp [supportedClasses, untilMark, isMark]
      rw [isSupported]
      by_cases isThis : commandClass = commandClassOf code
      · rw [if_pos isThis] at body
        refine ⟨(WideCode.spell first).length, (leaves_iff_of_goesOn body _).mpr ?_⟩
        rw [leaves_iff_of_stops (by rfl)]
        simp [isThis]
      · rw [if_neg isThis] at body
        obtain ⟨index, leaves⟩ := ih
          (fun other mem => proper other (List.mem_cons_of_mem code mem))
          (show nif = WideCode.spell (first ++ [code]) ++ WideCode.spell later by
            rw [isList]; simp)
        refine ⟨index, (leaves_iff_of_goesOn body _).mpr ?_⟩
        simpa [isThis] using leaves

/-- What is left of a search: the bytes from the index on, and the round that finds. -/
def searchMeasure (nif : List UInt8) (loop : SearchLoop) : Nat :=
  (if loop.found then 0 else 1) + (nif.length - loop.i)

theorem searchStep_decreases (isByteLength : nif.length ≤ 255) (loop next : SearchLoop)
    (body : searchStep commandClass nif loop = some next) :
    searchMeasure nif next < searchMeasure nif loop := by
  unfold searchMeasure
  unfold searchStep at body
  split at body
  next => cases body
  next notFound =>
    rw [if_neg notFound]
    split at body
    next inList =>
      split at body
      next => cases body
      next =>
        split at body
        next inBounds =>
          split at body
          next =>
            cases body
            simp
          next =>
            cases body
            rw [if_neg notFound]
            dsimp only
            omega
        next =>
          split at body
          next =>
            cases body
            simp
          next =>
            cases body
            rw [if_neg notFound]
            dsimp only
            omega
    next => cases body

theorem isCommandClassInSupportedList_spell {codes : List (WideCode UInt8)}
    (proper : ∀ code ∈ codes, code.IsProper leadsWhenParsed)
    (isByteLength : (WideCode.spell codes).length ≤ 255) :
    isCommandClassInSupportedList commandClass (WideCode.spell codes) = true ↔
      commandClass ∈ supportedClasses codes := by
  obtain ⟨index, leaves⟩ := search_leaves commandClass isByteLength proper
    (show WideCode.spell codes = WideCode.spell [] ++ WideCode.spell codes from rfl)
  have enough : searchMeasure (WideCode.spell codes) ⟨0, false⟩ <
      (WideCode.spell codes).length + 2 := by
    simp only [searchMeasure, Bool.false_eq_true, if_false]
    omega
  have left := (leaveWithin_eq_some_iff_leaves _ (searchStep_decreases commandClass isByteLength)
    enough _).mpr leaves
  unfold isCommandClassInSupportedList
  rw [left, decide_eq_true_iff]

end NodeInformation
