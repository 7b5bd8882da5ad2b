import Mathlib.Data.List.TakeWhile
import Mathlib.Data.UInt

/-!
# DSKs and their texts

`Utils::convert_dsk_str_to_dsk` and `Utils::convert_dsk_to_dsk_str`.  A text is a list of
characters.  The first function writes two bytes for every number it reads and leaves the
other bytes of its buffer as they are; it takes any character between two numbers, a sign
before a number, numbers without leading zeros and texts with fewer than eight numbers.  The
second one writes eight numbers of five digits.
-/

namespace Smartstart

/-- Result of a conversion. -/
inductive ConvertStatus where
  | ok
  | fail
  | wouldOverflow
  deriving DecidableEq

def zwaveDskLength : Nat := 16

def dskStrLen : Nat := 49

/-- A DSK set to zero. -/
def zeroDsk : List UInt8 := List.replicate zwaveDskLength 0

/-- The value of a row of decimal digits. -/
def digitsValue (digits : List Char) : Nat :=
  digits.foldl (fun value digit => value * 10 + (digit.toNat - 48)) 0

variable (text : List Char)

/-- The digits at the front of a text, as a number. -/
def readDigits : Option (Nat × List Char) :=
  if text.takeWhile Char.isDigit = [] then none
  else some (digitsValue (text.takeWhile Char.isDigit), text.dropWhile Char.isDigit)

/-- `std::from_chars` for an `int`: a minus sign may stand before the digits, and a value
out of range is an error. -/
def fromChars : Option (Int × List Char) :=
  match text with
  | '-' :: digits =>
      match readDigits digits with
      | some (value, rest) => if 2 ^ 31 < value then none else some (-(value : Int), rest)
      | none => none
  | digits =>
      match readDigits digits with
      | some (value, rest) => if 2 ^ 31 ≤ value then none else some ((value : Int), rest)
      | none => none

/-- The loop of `convert_dsk_str_to_dsk` with the number of byte pairs that fit in the
buffer: the status and the bytes that are written. -/
def convertNumbers : Nat -> List Char -> ConvertStatus × List UInt8
  | 0, _ => (.wouldOverflow, [])
  | room + 1, text =>
      match fromChars text with
      | none => (.fail, [])
      | some (numVal, rest) =>
          if numVal < 0 ∨ 0xFFFF < numVal then (.fail, [])
          else
            let bytes := [UInt8.ofNat (numVal.toNat / 256), UInt8.ofNat numVal.toNat]
            match rest.drop 1 with
            | [] => (.ok, bytes)
            | next :: later =>
                let others := convertNumbers room (next :: later)
                (others.1, bytes ++ others.2)

/-- The bytes `convert_dsk_str_to_dsk` writes: a text ends at its first null character and
is looked at no further than `DSK_STR_LEN`. -/
def writtenBytes : ConvertStatus × List UInt8 :=
  let sv := (text.takeWhile fun character => character ≠ '\x00').take dskStrLen
  if sv = [] then (.fail, []) else convertNumbers (zwaveDskLength / 2) sv

/-- No more is written than fits in the buffer. -/
theorem length_convertNumbers (room : Nat) (text : List Char) :
    (convertNumbers room text).2.length ≤ 2 * room := by
  induction room generalizing text with
  | zero => exact Nat.le_refl 0
  | succ room ih =>
    unfold convertNumbers
    split
    · exact Nat.zero_le _
    · split
      · exact Nat.zero_le _
      · dsimp only
        split
        · exact Nat.le_mul_of_pos_right 2 (Nat.succ_pos room)
        next next others _ =>
          have later := ih (next :: others)
          rw [List.length_append]
          exact (Nat.add_le_add_left later 2).trans (by omega)

theorem length_writtenBytes : (writtenBytes text).2.length ≤ zwaveDskLength := by
  unfold writtenBytes
  dsimp only
  split
  · exact Nat.zero_le _
  · exact length_convertNumbers 8 _

/-- `convert_dsk_str_to_dsk`: the status and the buffer afterwards. -/
def convertDskStrToDsk (buffer : List UInt8) : ConvertStatus × List UInt8 :=
  ((writtenBytes text).1, (writtenBytes text).2 ++ buffer.drop (writtenBytes text).2.length)

/-- The DSK a text is the complete value of. -/
def completeDsk : Option (List UInt8) :=
  if (writtenBytes text).1 = .ok ∧ (writtenBytes text).2.length = zwaveDskLength then
    some (writtenBytes text).2
  else none

/-- A decimal digit. -/
def digitChar (digit : Nat) : Char := Char.ofNat (48 + digit)

/-- The format `{:05d}` for a number of two bytes. -/
def fiveDigits (number : Nat) : List Char :=
  [digitChar (number / 10000 % 10), digitChar (number / 1000 % 10),
    digitChar (number / 100 % 10), digitChar (number / 10 % 10), digitChar (number % 10)]

/-- The loop of `convert_dsk_to_dsk_str`: every number is followed by a hyphen. -/
def numbersText : List UInt8 -> List Char
  | high :: low :: rest => fiveDigits (high.toNat * 256 + low.toNat) ++ '-' :: numbersText rest
  | _ => []

/-- `convert_dsk_to_dsk_str`: the last hyphen is overwritten. -/
def convertDskToDskStr (dsk : List UInt8) : List Char := (numbersText dsk).dropLast

def isDskEmpty (dsk : List UInt8) : Bool := dsk.all fun byte => byte == 0

variable {digit number : Nat} {character : Char} {later : List Char} {high low : UInt8}
  {rest : List UInt8}

theorem toNat_digitChar (isDigit : digit < 10) : (digitChar digit).toNat = 48 + digit := by
  revert digit
  decide

theorem isDigit_digitChar (isDigit : digit < 10) : (digitChar digit).isDigit = true := by
  revert digit
  decide

theorem isDigit_of_mem_fiveDigits (mem : character ∈ fiveDigits number) :
    character.isDigit = true := by
  simp only [fiveDigits, List.mem_cons, List.not_mem_nil, or_false] at mem
  rcases mem with rfl | rfl | rfl | rfl | rfl <;> exact isDigit_digitChar (by omega)

theorem digitsValue_fiveDigits (small : number < 100000) :
    digitsValue (fiveDigits number) = number := by
  have digit : ∀ power, (digitChar (number / power % 10)).toNat - 48 = number / power % 10 := by
    intro power
    rw [toNat_digitChar (Nat.mod_lt _ (by omega)), Nat.add_sub_cancel_left]
  have last : (digitChar (number % 10)).toNat - 48 = number % 10 := by
    rw [toNat_digitChar (Nat.mod_lt _ (by omega)), Nat.add_sub_cancel_left]
  simp only [digitsValue, fiveDigits, List.foldl_cons, List.foldl_nil, digit, last]
  omega

/-- A text that goes on with something other than a digit. -/
def Stops : Prop := ∀ character ∈ text.head?, character.isDigit = false

theorem readDigits_append {digits : List Char} (nonempty : digits ≠ [])
    (areDigits : ∀ character ∈ digits, character.isDigit = true) (stops : Stops later) :
    readDigits (digits ++ later) = some (digitsValue digits, later) := by
  have ends : later.takeWhile Char.isDigit = [] ∧ later.dropWhile Char.isDigit = later := by
    cases later with
    | nil => exact ⟨rfl, rfl⟩
    | cons character rest =>
      have isNone := stops character rfl
      rw [List.takeWhile_cons, List.dropWhile_cons, isNone]
      exact ⟨rfl, rfl⟩
  unfold readDigits
  rw [List.takeWhile_append_of_pos areDigits, List.dropWhile_append_of_pos areDigits, ends.1,
    ends.2, List.append_nil]
  exact if_neg nonempty

theorem fromChars_append {digits : List Char} (nonempty : digits ≠ [])
    (areDigits : ∀ character ∈ digits, character.isDigit = true)
    (small : digitsValue digits < 2 ^ 31) (stops : Stops later) :
    fromChars (digits ++ later) = some ((digitsValue digits : Int), later) := by
  have noSign : ∀ rest, digits ++ later ≠ '-' :: rest := by
    intro rest same
    obtain ⟨first, others, rfl⟩ := List.exists_cons_of_ne_nil nonempty
    have isDigit := areDigits first List.mem_cons_self
    rw [List.cons_append, List.cons.injEq] at same
    rw [same.1] at isDigit
    cases isDigit
  unfold fromChars
  split
  next rest isSign => exact absurd isSign (noSign rest)
  next =>
    rw [readDigits_append nonempty areDigits stops]
    exact if_neg (by omega)

theorem fromChars_fiveDigits (small : number < 100000) (stops : Stops later) :
    fromChars (fiveDigits number ++ later) = some ((number : Int), later) := by
  have value := digitsValue_fiveDigits small
  have isRead := @fromChars_append later (fiveDigits number) (List.cons_ne_nil _ _)
    (fun _ => isDigit_of_mem_fiveDigits) (by omega) stops
  rw [isRead, value]

theorem numbersText_ne_nil : numbersText (high :: low :: rest) ≠ [] := List.cons_ne_nil _ _

theorem convertNumbers_numbersText {room : Nat} (even : rest.length % 2 = 0)
    (fits : rest.length < 2 * room) :
    convertNumbers room (numbersText (high :: low :: rest)).dropLast =
      (.ok, high :: low :: rest) := by
  induction room generalizing high low rest with
  | zero => omega
  | succ room ih =>
    have highSmall := high.toNat_lt
    have lowSmall := low.toNat_lt
    have isHigh : UInt8.ofNat ((high.toNat * 256 + low.toNat) / 256) = high := by
      have quotient : (high.toNat * 256 + low.toNat) / 256 = high.toNat := by omega
      rw [quotient, UInt8.ofNat_toNat]
    have isLow : UInt8.ofNat (high.toNat * 256 + low.toNat) = low := by
      apply UInt8.toNat_inj.mp
      rw [UInt8.toNat_ofNat']
      omega
    unfold convertNumbers
    match rest, even, fits with
    | [], _, _ =>
      have text : (numbersText [high, low]).dropLast =
          fiveDigits (high.toNat * 256 + low.toNat) ++ [] := rfl
      rw [text, fromChars_fiveDigits (by omega) (by simp [Stops])]
      dsimp only
      rw [if_neg (by omega), Int.toNat_natCast, isHigh, isLow]
      rfl
    | next :: [], odd, _ => cases odd
    | next :: after :: others, even, fits =>
      have text : (numbersText (high :: low :: next :: after :: others)).dropLast =
          fiveDigits (high.toNat * 256 + low.toNat) ++
            '-' :: (numbersText (next :: after :: others)).dropLast := by
        rw [numbersText, List.dropLast_append_of_ne_nil (List.cons_ne_nil _ _),
          List.dropLast_cons_of_ne_nil numbersText_ne_nil]
      have later := @ih next after others
        (by simp only [List.length_cons] at even; omega)
        (by simp only [List.length_cons] at fits; omega)
      rw [text, fromChars_fiveDigits (by omega) (by rintro character ⟨⟩; rfl)]
      dsimp only
      rw [if_neg (by omega), Int.toNat_natCast, isHigh, isLow, List.drop_one, List.tail_cons]
      split
      next isEmpty =>
        rw [isEmpty] at later
        cases room with
        | zero | succ => cases later
      next character others isText =>
        rw [← isText, later]
        rfl

theorem length_numbersText (bytes : List UInt8) :
    (numbersText bytes).length = bytes.length / 2 * 6 := by
  induction bytes using numbersText.induct with
  | case1 high low rest ih =>
    unfold numbersText
    simp only [List.length_append, List.length_cons, ih, fiveDigits, List.length_nil]
    omega
  | case2 bytes short =>
    have isNil : numbersText bytes = [] := by
      unfold numbersText
      simp
    rw [isNil]
    match bytes, short with
    | [], _ => rfl
    | [_], _ => simp
    | high :: low :: rest, short => exact absurd rfl (short high low rest)

theorem mem_numbersText {bytes : List UInt8} (mem : character ∈ numbersText bytes) :
    character.isDigit = true ∨ character = '-' := by
  induction bytes using numbersText.induct with
  | case1 high low rest ih =>
    rcases List.mem_append.mp mem with isDigit | later
    · exact .inl (isDigit_of_mem_fiveDigits isDigit)
    · rcases List.mem_cons.mp later with isHyphen | rest
      · exact .inr isHyphen
      · exact ih rest
  | case2 bytes short =>
    unfold numbersText at mem
    split at mem
    next high low rest => exact absurd rfl (short high low rest)
    next => exact absurd mem List.not_mem_nil

variable {dsk : List UInt8}

theorem writtenBytes_convertDskToDskStr (length : dsk.length = zwaveDskLength) :
    writtenBytes (convertDskToDskStr dsk) = (.ok, dsk) := by
  have noNull : (convertDskToDskStr dsk).takeWhile (fun character => character ≠ '\x00') =
      convertDskToDskStr dsk := by
    rw [List.takeWhile_eq_self_iff]
    intro character mem
    rcases mem_numbersText (List.mem_of_mem_dropLast mem) with isDigit | isHyphen
    · rw [decide_eq_true_iff]
      rintro rfl
      cases isDigit
    · rw [isHyphen]
      rfl
  have short : (convertDskToDskStr dsk).length = 47 := by
    unfold convertDskToDskStr
    rw [List.length_dropLast, length_numbersText, length]
    rfl
  unfold writtenBytes
  rw [noNull, List.take_of_length_le (by rw [short]; decide),
    if_neg (List.ne_nil_of_length_pos (by omega))]
  match dsk, length with
  | high :: low :: rest, length =>
    rw [List.length_cons, List.length_cons] at length
    unfold zwaveDskLength at length ⊢
    exact convertNumbers_numbersText (by omega) (by omega)

theorem completeDsk_convertDskToDskStr (length : dsk.length = zwaveDskLength) :
    completeDsk (convertDskToDskStr dsk) = some dsk := by
  unfold completeDsk
  rw [writtenBytes_convertDskToDskStr length]
  exact if_pos ⟨rfl, length⟩

end Smartstart
