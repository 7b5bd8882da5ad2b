import Zpc.Smartstart.Dsk

/-!
# Which texts are read as a DSK

`convert_dsk_str_to_dsk` reads one to eight numbers with one character of any kind behind each
number, and does not tell whether it wrote the whole DSK.
-/

namespace Smartstart

/-- A decimal group of at most 65535. -/
structure IsGroup (digits : List Char) : Prop where
  nonempty : digits ≠ []
  areDigits : ∀ character ∈ digits, character.isDigit = true
  small : digitsValue digits ≤ 0xFFFF

/-- Decimal groups separated by dashes. -/
inductive Groups : Nat -> List Char -> Prop where
  | one {digits : List Char} (isGroup : IsGroup digits) : Groups 1 digits
  | more {digits : List Char} {count : Nat} {later : List Char} (isGroup : IsGroup digits)
      (groups : Groups count later) :
      Groups (count + 1) (digits ++ '-' :: later)

/-- A number that is read: a group, or a group of the value zero with a minus sign. -/
inductive IsNumber : List Char -> Prop where
  | plain {digits : List Char} (isGroup : IsGroup digits) : IsNumber digits
  | signed {digits : List Char} (isGroup : IsGroup digits) (isZero : digitsValue digits = 0) :
      IsNumber ('-' :: digits)

/-- Numbers with one character between them that is no digit, and at most one behind. -/
inductive Numbers : Nat -> List Char -> Prop where
  | one {number separator : List Char} (isNumber : IsNumber number)
      (short : separator.length ≤ 1) (stops : Stops separator) :
      Numbers 1 (number ++ separator)
  | more {number : List Char} {separator : Char} {count : Nat} {later : List Char}
      (isNumber : IsNumber number) (stops : Stops [separator]) (numbers : Numbers count later) :
      Numbers (count + 1) (number ++ separator :: later)

/-- What is looked at of a text. -/
def readText (text : List Char) : List Char :=
  (text.takeWhile fun character => character ≠ '\x00').take dskStrLen

/-- A text is accepted exactly if it is eight groups, which determine all bytes, and nothing is
written behind the DSK. -/
structure Converts (text : List Char) : Prop where
  accepted : ∀ buffer, (convertDskStrToDsk text buffer).1 = .ok ↔ Groups 8 text
  determined : Groups 8 text -> ∀ first second : List UInt8, first.length = zwaveDskLength ->
    second.length = zwaveDskLength ->
      (convertDskStrToDsk text first).2 = (convertDskStrToDsk text second).2
  inside : ∀ buffer : List UInt8, zwaveDskLength ≤ buffer.length ->
    ∃ written, written.length = zwaveDskLength ∧
      (convertDskStrToDsk text buffer).2 = written ++ buffer.drop zwaveDskLength

variable {text number later rest : List Char} {count room : Nat} {value : Int}

theorem fromChars_number (isNumber : IsNumber number) (stops : Stops later) :
    ∃ value, fromChars (number ++ later) = some (value, later) ∧ ¬(value < 0 ∨ 0xFFFF < value) := by
  cases isNumber with
  | plain isGroup =>
    have small := isGroup.small
    exact ⟨_, fromChars_append isGroup.nonempty isGroup.areDigits (by omega) stops, by omega⟩
  | @signed digits isGroup isZero =>
    have isRead := readDigits_append isGroup.nonempty isGroup.areDigits stops
    rw [isZero] at isRead
    refine ⟨0, ?_, by omega⟩
    rw [List.cons_append]
    simp [fromChars, isRead]

theorem readDigits_eq {digits : Nat} (isRead : readDigits text = some (digits, rest)) :
    ∃ front, front ≠ [] ∧ (∀ character ∈ front, character.isDigit = true) ∧
      digits = digitsValue front ∧ text = front ++ rest ∧ Stops rest := by
  unfold readDigits at isRead
  split at isRead
  · cases isRead
  next nonempty =>
    cases isRead
    refine ⟨_, nonempty, fun _ => List.mem_takeWhile_imp, rfl,
      List.takeWhile_append_dropWhile.symm, fun character isFirst => ?_⟩
    have notDigit := List.head?_dropWhile_not Char.isDigit text
    rw [isFirst] at notDigit
    exact notDigit

theorem number_of_fromChars (isRead : fromChars text = some (value, rest))
    (inRange : ¬(value < 0 ∨ 0xFFFF < value)) :
    ∃ number, IsNumber number ∧ text = number ++ rest ∧ Stops rest := by
  unfold fromChars at isRead
  split at isRead
  next digits =>
    split at isRead
    next magnitude behind isDigits =>
      obtain ⟨front, nonempty, areDigits, rfl, rfl, stops⟩ := readDigits_eq isDigits
      split at isRead
      · cases isRead
      · cases isRead
        exact ⟨'-' :: front, .signed ⟨nonempty, areDigits, by omega⟩ (by omega), rfl, stops⟩
    · cases isRead
  next =>
    split at isRead
    next magnitude behind isDigits =>
      obtain ⟨front, nonempty, areDigits, rfl, rfl, stops⟩ := readDigits_eq isDigits
      split at isRead
      · cases isRead
      · cases isRead
        exact ⟨front, .plain ⟨nonempty, areDigits, by omega⟩, rfl, stops⟩
    · cases isRead

theorem numbers_of_convertNumbers (isOk : (convertNumbers room text).1 = .ok) :
    ∃ count ≤ room, Numbers count text := by
  induction room generalizing text with
  | zero => cases isOk
  | succ room ih =>
    unfold convertNumbers at isOk
    split at isOk
    · cases isOk
    next value behind isRead =>
      split at isOk
      · cases isOk
      next inRange =>
        obtain ⟨number, isNumber, rfl, stops⟩ := number_of_fromChars isRead inRange
        dsimp only at isOk
        split at isOk
        next isEnd => exact ⟨1, by omega, .one isNumber (List.drop_eq_nil_iff.mp isEnd) stops⟩
        next next others isText =>
          obtain ⟨separator, behind, rfl⟩ := List.exists_cons_of_ne_nil
            (show behind ≠ [] by rintro rfl; cases isText)
          obtain ⟨count, fits, numbers⟩ := ih isOk
          rw [← isText] at numbers
          exact ⟨count + 1, by omega, .more isNumber stops numbers⟩

theorem Numbers.converted (numbers : Numbers count text) (fits : count ≤ room) :
    (convertNumbers room text).1 = .ok ∧ (convertNumbers room text).2.length = 2 * count := by
  induction numbers generalizing room with
  | @one number separator isNumber short stops =>
    obtain ⟨room, rfl⟩ : ∃ less, room = less + 1 := ⟨room - 1, by omega⟩
    obtain ⟨value, isRead, inRange⟩ := fromChars_number isNumber stops
    unfold convertNumbers
    rw [isRead]
    dsimp only
    rw [if_neg inRange, List.drop_eq_nil_iff.mpr short]
    exact ⟨rfl, rfl⟩
  | @more number separator count later isNumber stops numbers ih =>
    obtain ⟨room, rfl⟩ : ∃ less, room = less + 1 := ⟨room - 1, by omega⟩
    obtain ⟨value, isRead, inRange⟩ := @fromChars_number number (separator :: later) isNumber stops
    obtain ⟨isOk, length⟩ := @ih room (by omega)
    unfold convertNumbers
    rw [isRead]
    dsimp only
    rw [if_neg inRange, List.drop_one, List.tail_cons]
    split
    next => cases room <;> cases isOk
    next next others =>
      refine ⟨isOk, ?_⟩
      rw [List.length_append, length]
      exact Nat.add_comm _ _

theorem convertDskStrToDsk_ok_iff (text : List Char) (buffer : List UInt8) :
    (convertDskStrToDsk text buffer).1 = .ok ↔ ∃ count ≤ 8, Numbers count (readText text) := by
  have numbersOk : (convertNumbers 8 (readText text)).1 = .ok ↔
      ∃ count ≤ 8, Numbers count (readText text) :=
    ⟨numbers_of_convertNumbers, fun ⟨_, fits, numbers⟩ => (numbers.converted fits).1⟩
  rw [← numbersOk]
  unfold convertDskStrToDsk writtenBytes
  show (if readText text = [] then _ else convertNumbers 8 (readText text)).1 = _ ↔ _
  split
  next isEmpty => rw [isEmpty]; exact iff_of_false nofun nofun
  next => exact Iff.rfl

theorem Numbers.length_writtenBytes (numbers : Numbers count (readText text)) (fits : count ≤ 8) :
    (writtenBytes text).2.length = 2 * count := by
  have length := (numbers.converted fits).2
  unfold writtenBytes
  show (if readText text = [] then _ else convertNumbers 8 (readText text)).2.length = _
  split
  next isEmpty =>
    rw [isEmpty] at length
    exact length
  next => exact length

theorem determined_iff (text : List Char) :
    (∀ first second : List UInt8, first.length = zwaveDskLength ->
      second.length = zwaveDskLength ->
        (convertDskStrToDsk text first).2 = (convertDskStrToDsk text second).2) ↔
      (writtenBytes text).2.length = zwaveDskLength := by
  unfold convertDskStrToDsk
  constructor
  · intro determined
    have same := determined (List.replicate zwaveDskLength 0) (List.replicate zwaveDskLength 1)
      List.length_replicate List.length_replicate
    rw [List.append_cancel_left_eq, List.drop_replicate, List.drop_replicate] at same
    have short := length_writtenBytes text
    rcases (List.replicate_inj.mp same).2 with isComplete | isSame
    · omega
    · exact absurd isSame (by decide)
  · intro length first second firstLength secondLength
    dsimp only
    rw [List.drop_of_length_le (by omega), List.drop_of_length_le (by omega)]

theorem Groups.length_le (groups : Groups count text) : 2 * count ≤ text.length + 1 := by
  induction groups with
  | one isGroup => exact Nat.succ_le_succ (List.length_pos_of_ne_nil isGroup.nonempty)
  | more isGroup _ ih =>
    have long := List.length_pos_of_ne_nil isGroup.nonempty
    rw [List.length_append, List.length_cons]
    omega

/-- The text of a DSK is read back over every content, and a text is converted as it should be
exactly if it is eight groups of which all are looked at, or what is looked at is not one to
eight numbers with single characters between them and at most one behind. -/
theorem converts_iff (text : List Char) :
    ((∀ dsk buffer : List UInt8, dsk.length = zwaveDskLength -> buffer.length = zwaveDskLength ->
        convertDskStrToDsk (convertDskToDskStr dsk) buffer = (.ok, dsk)) ∧ Converts text) ↔
      (Groups 8 text -> Numbers 8 (readText text)) ∧
        (¬Groups 8 text -> ∀ count ≤ 8, ¬Numbers count (readText text)) := by
  constructor
  · rintro ⟨-, converts⟩
    have accepted := converts.accepted []
    rw [convertDskStrToDsk_ok_iff] at accepted
    constructor
    · intro groups
      obtain ⟨count, fits, numbers⟩ := accepted.mpr groups
      have length := (determined_iff text).mp (converts.determined groups)
      rw [numbers.length_writtenBytes fits] at length
      obtain rfl : count = 8 := Nat.eq_of_mul_eq_mul_left Nat.two_pos length
      exact numbers
    · exact fun other count fits numbers => other (accepted.mp ⟨count, fits, numbers⟩)
  · rintro ⟨complete, others⟩
    refine ⟨fun dsk buffer length bufferLength => ?_, fun buffer => ?_, fun groups => ?_,
      fun buffer long => ?_⟩
    · unfold convertDskStrToDsk
      rw [writtenBytes_convertDskToDskStr length]
      dsimp only
      rw [List.drop_of_length_le (by omega), List.append_nil]
    · rw [convertDskStrToDsk_ok_iff]
      constructor
      · rintro ⟨count, fits, numbers⟩
        by_contra other
        exact others other count fits numbers
      · exact fun groups => ⟨8, Nat.le_refl 8, complete groups⟩
    · exact (determined_iff text).mpr ((complete groups).length_writtenBytes (Nat.le_refl 8))
    · have short := length_writtenBytes text
      unfold convertDskStrToDsk
      generalize (writtenBytes text).2 = bytes at short ⊢
      refine ⟨(bytes ++ buffer.drop bytes.length).take zwaveDskLength, ?_, ?_⟩
      · rw [List.length_take, List.length_append, List.length_drop]
        omega
      · have behind : (bytes ++ buffer.drop bytes.length).drop zwaveDskLength =
            buffer.drop zwaveDskLength := by
          rw [List.drop_append, List.drop_of_length_le short, List.nil_append, List.drop_drop,
            Nat.add_sub_cancel' short]
        rw [← behind]
        exact (List.take_append_drop _ _).symm

/-- A single number is taken for a DSK. -/
theorem not_converts : ¬Converts ['1'] := by
  intro converts
  have long := ((converts.accepted []).mp (by decide)).length_le
  exact absurd long (by decide)

end Smartstart
