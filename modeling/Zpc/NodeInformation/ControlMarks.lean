import Zpc.NodeInformation.ParsedLists

/-!
# What the control mark divides

`zwave_parse_nif` walks over at most `ZWAVE_MAX_NIF_SIZE` bytes up to the control mark for
the supported classes, and over as many behind it for the controlled ones.  The second walk
begins at the front of the list when the caller does not ask for the supported classes.
-/

namespace NodeInformation

open Foundation

variable {nif : List UInt8} {bytes : Nat} {codes : List (WideCode UInt8)}

theorem parseStep_of_standsAt {index : Nat} (inSize : index < zwaveMaxNifSize)
    {code : WideCode UInt8} (proper : code.IsProper leadsWhenParsed) (notMark : code ≠ controlMark)
    (stands : StandsAt nif index code) (userList : List UInt16) :
    parseStep nif ⟨index, userList, false⟩ =
      some ⟨index + code.letters.length, userList ++ [commandClassOf code], false⟩ := by
  have isSize : zwaveMaxNifSize = 156 := rfl
  unfold parseStep
  rw [if_neg Bool.false_ne_true]
  cases code with
  | short byte =>
    obtain ⟨inList, isByte⟩ := stands
    have noLead : ¬ extendedCommandClassIdentifierStart ≤ byte := of_decide_eq_false proper
    have isOther : byte ≠ commandClassControlMark :=
      fun same => notMark (congrArg WideCode.short same)
    rw [if_pos ⟨inList, inSize⟩, isByte, if_neg isOther, if_neg noLead]
    rw [Nat.mod_eq_of_lt (show index + 1 < 256 by omega)]
    rfl
  | wide high low =>
    obtain ⟨inList, isHigh, isLow⟩ := stands
    have leads : extendedCommandClassIdentifierStart ≤ high := of_decide_eq_true proper
    have isOther : high ≠ commandClassControlMark := by
      intro same
      rw [same] at leads
      exact absurd leads (by decide)
    have inBounds : index < nif.length - 1 := by omega
    rw [if_pos ⟨show index < nif.length by omega, inSize⟩, isHigh, if_neg isOther,
      if_pos leads, if_pos inBounds, isLow]
    rw [Nat.mod_eq_of_lt (show index + 2 < 256 by omega)]
    rfl

theorem parse_leaves {first later : List (WideCode UInt8)}
    (proper : ∀ code ∈ later, code.IsProper leadsWhenParsed)
    (isNif : nif = WideCode.spell first ++ WideCode.spell later) (userList : List UInt16)
    (isLeft : bytes = zwaveMaxNifSize - (WideCode.spell first).length) :
    ∃ final, Leaves (parseStep nif) ⟨(WideCode.spell first).length, userList, false⟩ final ∧
      final.userList = userList ++ (untilMarkWithin bytes later).map commandClassOf ∧
      nif.drop final.nifIndex = WideCode.spell (leftBehind bytes later) := by
  induction later generalizing first userList bytes with
  | nil =>
    refine ⟨_, (leaves_iff_of_stops ?_ _).mpr rfl, ?_, ?_⟩
    · rw [isNif]
      simp [parseStep]
    · simp [untilMarkWithin]
    · rw [isNif]
      simp [leftBehind]
  | cons code later ih =>
    have isList : nif = WideCode.spell first ++ (code.letters ++ WideCode.spell later) := isNif
    have stands := standsAt_of_eq_append isList
    cases bytes with
    | zero =>
      refine ⟨_, (leaves_iff_of_stops ?_ _).mpr rfl, ?_, ?_⟩
      · have noSize : ¬ (WideCode.spell first).length < zwaveMaxNifSize := by omega
        simp [parseStep, noSize]
      · simp [untilMarkWithin]
      · rw [isNif]
        simp [leftBehind]
    | succ bytes =>
      have inSize : (WideCode.spell first).length < zwaveMaxNifSize := by omega
      by_cases isMark : code = controlMark
      · rw [isMark] at stands isList
        have body : parseStep nif ⟨(WideCode.spell first).length, userList, false⟩ =
            some ⟨((WideCode.spell first).length + 1) % 256, userList, true⟩ := by
          simp [parseStep, stands.1, stands.2, inSize]
        refine ⟨_, (leaves_iff_of_goesOn body _).mpr
          ((leaves_iff_of_stops (by rfl) _).mpr rfl), ?_, ?_⟩
        · simp [untilMarkWithin, isMark]
        · have isSize : zwaveMaxNifSize = 156 := rfl
          rw [Nat.mod_eq_of_lt (by omega), isList]
          simp [leftBehind, isMark, controlMark, WideCode.letters]
      · have body := parseStep_of_standsAt inSize (proper code List.mem_cons_self) isMark
          stands userList
        have isLonger : (WideCode.spell (first ++ [code])).length =
            (WideCode.spell first).length + code.letters.length := by simp
        obtain ⟨final, leaves, isUserList, isRest⟩ := ih
          (fun other mem => proper other (List.mem_cons_of_mem code mem))
          (show nif = WideCode.spell (first ++ [code]) ++ WideCode.spell later by
            rw [isList]; simp)
          (userList ++ [commandClassOf code])
          (show bytes + 1 - code.letters.length =
            zwaveMaxNifSize - (WideCode.spell (first ++ [code])).length by omega)
        rw [isLonger] at leaves
        refine ⟨final, (leaves_iff_of_goesOn body _).mpr leaves, ?_, ?_⟩
        · rw [isUserList]
          simp [untilMarkWithin, isMark]
        · rw [isRest]
          simp [leftBehind, isMark]

/-- What is left of a walk: the bytes from the index on, and the round that stops. -/
def parseMeasure (nif : List UInt8) (loop : ParseLoop) : Nat :=
  (if loop.stopped then 0 else 1) + (nif.length - loop.nifIndex)

theorem parseStep_decreases (loop next : ParseLoop) (body : parseStep nif loop = some next) :
    parseMeasure nif next < parseMeasure nif loop := by
  have isSize : zwaveMaxNifSize = 156 := rfl
  unfold parseMeasure
  unfold parseStep at body
  split at body
  next => cases body
  next notStopped =>
    rw [if_neg notStopped]
    split at body
    next inBounds =>
      split at body
      next =>
        cases body
        simp only [if_true]
        omega
      next =>
        split at body
        next =>
          split at body
          next =>
            cases body
            rw [if_neg notStopped]
            dsimp only
            omega
          next =>
            cases body
            simp
        next =>
          cases body
          rw [if_neg notStopped]
          dsimp only
          omega
    next => cases body

theorem parseList_spell (proper : ∀ code ∈ codes, code.IsProper leadsWhenParsed) :
    ∃ index, zwaveParseNifListUntilMarkerOrEnd (WideCode.spell codes) true =
        (index, some ((untilMarkWithin zwaveMaxNifSize codes).map commandClassOf)) ∧
      (WideCode.spell codes).drop index = WideCode.spell (leftBehind zwaveMaxNifSize codes) := by
  obtain ⟨final, leaves, isUserList, isRest⟩ := parse_leaves proper
    (show WideCode.spell codes = WideCode.spell [] ++ WideCode.spell codes from rfl) []
    (show zwaveMaxNifSize = zwaveMaxNifSize - (WideCode.spell []).length from rfl)
  have enough : parseMeasure (WideCode.spell codes) ⟨0, [], false⟩ <
      (WideCode.spell codes).length + 2 := by
    simp only [parseMeasure, Bool.false_eq_true, if_false]
    omega
  have left := (leaveWithin_eq_some_iff_leaves _ parseStep_decreases enough _).mpr leaves
  refine ⟨final.nifIndex, ?_, isRest⟩
  unfold zwaveParseNifListUntilMarkerOrEnd
  rw [if_pos rfl, left, ← List.nil_append (List.map _ _), ← isUserList]

theorem leftBehind_suffix (bytes : Nat) (codes : List (WideCode UInt8)) :
    leftBehind bytes codes <:+ codes := by
  induction bytes, codes using leftBehind.induct with
  | case1 | case2 | case3 => simp [leftBehind]
  | case4 bytes code codes notMark ih =>
    rw [leftBehind, if_neg notMark]
    exact ih.trans (List.suffix_cons code codes)

theorem untilMarkWithin_prefixed (bytes : Nat) (codes : List (WideCode UInt8)) :
    untilMarkWithin bytes codes <+: untilMark codes := by
  induction bytes, codes using untilMarkWithin.induct with
  | case1 => simp [untilMarkWithin, untilMark]
  | case2 | case3 => simp [untilMarkWithin]
  | case4 bytes code codes notMark ih =>
    rw [untilMarkWithin, if_neg notMark]
    unfold untilMark at *
    rw [List.takeWhile_cons_of_pos (by simpa using notMark)]
    exact List.cons_prefix_cons.mpr ⟨rfl, ih⟩

theorem untilMark_prefix_filter (codes : List (WideCode UInt8)) :
    untilMark codes <+: codes.filter fun code => decide (code ≠ controlMark) := by
  unfold untilMark
  induction codes with
  | nil => simp
  | cons code codes ih =>
    by_cases isMark : code = controlMark
    · simp [isMark]
    · simpa [isMark] using ih

theorem supported_parseNif (proper : ∀ code ∈ codes, code.IsProper leadsWhenParsed)
    (hasControlledList : Bool) :
    (zwaveParseNif (WideCode.spell codes) true hasControlledList).supported =
      some ((untilMarkWithin zwaveMaxNifSize codes).map commandClassOf) := by
  obtain ⟨index, isWalk, -⟩ := parseList_spell proper
  unfold zwaveParseNif
  rw [isWalk]

/-- The codes from which the controlled classes are listed. -/
def secondWalk (hasSupportedList : Bool) (codes : List (WideCode UInt8)) : List (WideCode UInt8) :=
  if hasSupportedList then leftBehind zwaveMaxNifSize codes else codes

theorem controlled_parseNif (proper : ∀ code ∈ codes, code.IsProper leadsWhenParsed)
    (hasSupportedList : Bool) :
    (zwaveParseNif (WideCode.spell codes) hasSupportedList true).controlled =
      some ((untilMarkWithin zwaveMaxNifSize (secondWalk hasSupportedList codes)).map
        commandClassOf) := by
  unfold secondWalk
  cases hasSupportedList with
  | true =>
    have properRest : ∀ code ∈ leftBehind zwaveMaxNifSize codes, code.IsProper leadsWhenParsed :=
      fun code mem => proper code ((leftBehind_suffix _ codes).subset mem)
    obtain ⟨index, isWalk, isRest⟩ := parseList_spell proper
    obtain ⟨other, isSecond, -⟩ := parseList_spell properRest
    simp only [zwaveParseNif, isWalk, isRest, isSecond, if_true]
  | false =>
    obtain ⟨index, isWalk, -⟩ := parseList_spell proper
    have noWalk : zwaveParseNifListUntilMarkerOrEnd (WideCode.spell codes) false = (0, none) := rfl
    simp only [zwaveParseNif, noWalk, List.drop_zero, isWalk, Bool.false_eq_true, if_false]

theorem leftBehind_eq_afterMark (hasMark : controlMark ∈ codes)
    (inSize : (WideCode.spell (untilMark codes)).length < bytes) :
    leftBehind bytes codes = afterMark codes := by
  induction bytes, codes using leftBehind.induct with
  | case1 => cases hasMark
  | case2 code codes => cases inSize
  | case3 bytes codes => simp [leftBehind, afterMark]
  | case4 bytes code codes notMark ih =>
    have later : controlMark ∈ codes := (List.mem_cons.mp hasMark).resolve_left (Ne.symm notMark)
    have isUntil : untilMark (code :: codes) = code :: untilMark codes := by
      simp [untilMark, notMark]
    have isAfter : afterMark (code :: codes) = afterMark codes := by
      simp [afterMark, notMark]
    rw [isUntil, WideCode.spell_cons, List.length_append] at inSize
    rw [leftBehind, if_neg notMark, isAfter]
    exact ih later (by omega)

/-- A list that does not end in the first byte of an extended class. -/
def IsWellFormed (nif : List UInt8) : Prop := (WideCode.read leadsWhenParsed nif).2 = []

instance (nif : List UInt8) : Decidable (IsWellFormed nif) := inferInstanceAs (Decidable (_ = _))

/-- The codes of a list. -/
def codesOf (nif : List UInt8) : List (WideCode UInt8) := (WideCode.read leadsWhenParsed nif).1

theorem isProper_of_mem_codesOf (nif : List UInt8) :
    ∀ code ∈ codesOf nif, code.IsProper leadsWhenParsed :=
  WideCode.isProper_of_mem_read leadsWhenParsed nif

theorem IsWellFormed.spell_codesOf (wellFormed : IsWellFormed nif) :
    WideCode.spell (codesOf nif) = nif := by
  have spelled := WideCode.spell_read leadsWhenParsed nif
  rwa [wellFormed, List.append_nil] at spelled

/-- Every supported class is also one that begins in the first `zwaveMaxNifSize` bytes. -/
def SupportedInSize (codes : List (WideCode UInt8)) : Prop :=
  ∀ commandClass ∈ supportedClasses codes,
    commandClass ∈ (untilMarkWithin zwaveMaxNifSize codes).map commandClassOf

/-- The first walk comes to the mark. -/
def MarkInSize (codes : List (WideCode UInt8)) : Prop :=
  controlMark ∈ codes ∧ (WideCode.spell (untilMark codes)).length < zwaveMaxNifSize

instance (codes : List (WideCode UInt8)) : Decidable (MarkInSize codes) :=
  inferInstanceAs (Decidable (_ ∧ _))

/-- With a mark that the first walk comes to, the classes behind it begin in the next
`zwaveMaxNifSize` bytes and before another mark.  Otherwise the second walk is over codes
before the mark, and these have to be the same classes as those behind it. -/
def ControlledInOrder (hasSupportedList : Bool) (codes : List (WideCode UInt8)) : Prop :=
  if hasSupportedList = true ∧ MarkInSize codes then
    untilMarkWithin zwaveMaxNifSize (afterMark codes) =
      (afterMark codes).filter fun code => decide (code ≠ controlMark)
  else
    (untilMarkWithin zwaveMaxNifSize (secondWalk hasSupportedList codes)).map commandClassOf =
      controlledClasses codes

instance (hasSupportedList : Bool) (codes : List (WideCode UInt8)) :
    Decidable (ControlledInOrder hasSupportedList codes) :=
  inferInstanceAs (Decidable (ite _ _ _))

theorem agree_iff_supportedInSize (wellFormed : IsWellFormed nif) (isByteLength : nif.length ≤ 255)
    (hasControlledList : Bool) :
    (∀ commandClass,
      isCommandClassInSupportedList commandClass nif = true ↔
        ∃ listed,
          (zwaveParseNif nif true hasControlledList).supported = some listed ∧
            commandClass ∈ listed) ↔ SupportedInSize (codesOf nif) := by
  have proper := isProper_of_mem_codesOf nif
  have searched := fun commandClass =>
    isCommandClassInSupportedList_spell commandClass proper
      (by rwa [wellFormed.spell_codesOf])
  have parsed := supported_parseNif proper hasControlledList
  rw [wellFormed.spell_codesOf] at searched parsed
  simp only [searched, parsed, Option.some.injEq, exists_eq_left']
  constructor
  · intro agree commandClass isSupported
    exact (agree commandClass).mp isSupported
  · intro inSize commandClass
    refine ⟨inSize commandClass, fun isListed => ?_⟩
    exact List.map_subset _ (untilMarkWithin_prefixed _ (codesOf nif)).subset isListed

theorem controlled_iff_controlledInOrder (wellFormed : IsWellFormed nif) (hasSupportedList : Bool) :
    (zwaveParseNif nif hasSupportedList true).controlled =
      some (controlledClasses (codesOf nif)) ↔
      ControlledInOrder hasSupportedList (codesOf nif) := by
  have parsed := controlled_parseNif (isProper_of_mem_codesOf nif) hasSupportedList
  rw [wellFormed.spell_codesOf] at parsed
  rw [parsed, Option.some.injEq]
  unfold ControlledInOrder
  split
  next marked =>
    obtain ⟨hasList, hasMark, inSize⟩ := marked
    have isSecond : secondWalk hasSupportedList (codesOf nif) = afterMark (codesOf nif) := by
      unfold secondWalk
      rw [if_pos hasList]
      exact leftBehind_eq_afterMark hasMark inSize
    rw [isSecond]
    constructor
    · intro same
      have sameLength := congrArg List.length same
      unfold controlledClasses at sameLength
      rw [List.length_map, List.length_map] at sameLength
      exact ((untilMarkWithin_prefixed _ _).trans (untilMark_prefix_filter _)).eq_of_length
        sameLength
    · intro same
      rw [same]
      rfl
  next => exact Iff.rfl

/-- A packed list comes back, the two readers agree on the supported classes, and the
controlled classes are those behind the first mark, each under its condition and under no
other. -/
theorem readers_agree_iff (asserts : Bool) (source destination : ZwaveNodeInfo)
    (nif : List UInt8) (hasSupportedList hasControlledList : Bool) :
    ((∀ commandClass ∈ source.commandClasses, IsPackable commandClass) ->
      ((∃ after, Unpacks asserts destination (zwaveCommandClassListPack source) after ∧
        after.commandClasses = source.commandClasses) ↔
        source.commandClasses ≠ [] ∨ asserts = false ∧ destination.commandClasses = [])) ∧
    (IsWellFormed nif -> nif.length ≤ 255 ->
      ((∀ commandClass,
        isCommandClassInSupportedList commandClass nif = true ↔
          ∃ listed,
            (zwaveParseNif nif true hasControlledList).supported = some listed ∧
              commandClass ∈ listed) ↔
        SupportedInSize (codesOf nif))) ∧
    (IsWellFormed nif ->
      ((zwaveParseNif nif hasSupportedList true).controlled =
        some (controlledClasses (codesOf nif)) ↔
        ControlledInOrder hasSupportedList (codesOf nif))) :=
  ⟨fun packable => unpacks_pack_iff asserts packable destination,
    fun wellFormed isByteLength =>
      agree_iff_supportedInSize wellFormed isByteLength hasControlledList,
    fun wellFormed => controlled_iff_controlledInOrder wellFormed hasSupportedList⟩

/-- Two supported and two controlled classes, one of them extended. -/
def dividedNif : List UInt8 := [0x20, 0x25, 0xEF, 0x86, 0xF1, 0x02]

/-- A basic command class, an extended one and another basic one. -/
def threeClasses : ZwaveNodeInfo :=
  ((emptyNodeInfo.writeClass 0 (by decide) 0x20).writeClass 1 (by decide) 0xF102).writeClass 2
    (by decide) 0x25

theorem readers_agree_divided :
    (∃ after,
      Unpacks true emptyNodeInfo (zwaveCommandClassListPack threeClasses) after ∧
        after.commandClasses = threeClasses.commandClasses) ∧
    (isCommandClassInSupportedList 0x25 dividedNif = true ↔
      ∃ listed, (zwaveParseNif dividedNif true true).supported = some listed ∧ 0x25 ∈ listed) ∧
    (zwaveParseNif dividedNif true true).controlled =
      some (controlledClasses (codesOf dividedNif)) := by
  obtain ⟨packs, supports, controls⟩ := readers_agree_iff true threeClasses emptyNodeInfo dividedNif
    true true
  have classes : threeClasses.commandClasses = [0x20, 0xF102, 0x25] := by decide
  refine ⟨(packs ?_).mpr (.inl (by simp [classes])), (supports (by decide) (by decide)).mpr ?_ 0x25,
    (controls (by decide)).mpr (by decide)⟩
  · intro commandClass listed
    rw [classes] at listed
    simp only [List.mem_cons, List.not_mem_nil, or_false] at listed
    rcases listed with rfl | rfl | rfl
    · exact .inl (by decide)
    · exact .inr (by decide)
    · exact .inl (by decide)
  · intro commandClass supported
    exact supported

/-- Without a list for the supported classes they are listed as controlled. -/
theorem controlled_divided_without_supported :
    (zwaveParseNif dividedNif false true).controlled ≠
      some (controlledClasses (codesOf dividedNif)) := by
  decide

end NodeInformation
