import Mathlib.Algebra.Group.Int.Defs
import Zpc.Foundation.Reading
import Zpc.TransportService.Definitions

/-!
# The frame parser

`zwave_frame_parser` with its reads, over a frame of any length.  What a read stores in the
attribute store is left out.  An integer is read into a type that is wide enough for it.
-/

namespace ZwaveFrameParser

open Foundation (Reading Agree)

inductive ReadError where
  | outOfRange
  | runtimeError

/-- What a read returns. -/
inductive Value where
  | number (value : Int)
  | text (bytes : List UInt8)
  | fields (values : UInt8 -> Option UInt8)
  | validity (isValid : Option Bool)

inductive Operation where
  | readByte
  | readBitmask (bitmaskLength : UInt8)
  | readByteWithBitmask (bitmasks : List UInt8)
  | readSequential (isSigned : Bool) (bytesToRead : UInt8)
  | readSequentialBytes (bytesToRead : UInt8)
  | readString
  | isChecksumValid

def getFrameLength (frame : List UInt8) : UInt8 := UInt8.ofNat frame.length

/-- The largest size, which is the smallest one if it is not given. -/
def largestSize (minSize maxSize : UInt16) : UInt16 := if maxSize = 0 then minSize else maxSize

def isFrameSizeValid (frame : List UInt8) (minSize maxSize : UInt16) : Bool :=
  decide (minSize.toNat ≤ (getFrameLength frame).toNat) &&
    decide ((getFrameLength frame).toNat ≤ (largestSize minSize maxSize).toNat)

/-- `is_checksum_valid` of an expected checksum.  Nothing is returned where the range of the
checked bytes ends before it begins. -/
def isExpectedChecksum (frame : List UInt8) (expectedChecksum : UInt16) (checksumInFrame : Bool) :
    Option Bool :=
  let offset := if checksumInFrame then 2 else 0
  if frame.length < offset then none
  else some (TransportService.zwaveCrc16 0x1D0F (frame.take (frame.length - offset)) ==
    expectedChecksum)

/-- How far a bitmask is shifted. -/
def getTrailingZeroes (bits : UInt8) : UInt8 :=
  if bits = 0 then 0
  else
    let four : UInt8 := if bits &&& 0xF = 0 then 4 else 0
    let two : UInt8 := if bits >>> four &&& 0x3 = 0 then 2 else 0
    let one : UInt8 := if bits >>> four >>> two &&& 0x1 = 0 then 1 else 0
    four + two + one

/-- The bytes of a number, the most significant one first. -/
def bigEndian (bytes : List UInt8) : Nat :=
  bytes.foldl (fun value byte => value * 256 + byte.toNat) 0

/-- A number as one with a sign of the same width. -/
def withSign (width value : Nat) : Int :=
  if value < 2 ^ (width - 1) then value else (value : Int) - 2 ^ width

section Reads

variable {State : Type} (readByte : Reading ReadError State UInt8) (frame : List UInt8)

def readBytes : Nat -> Reading ReadError State (List UInt8)
  | 0 => pure []
  | count + 1 => do
    let byte ← readByte
    let others ← readBytes count
    pure (byte :: others)

/-- The length comes first unless it is given. -/
def readBitmask (bitmaskLength : UInt8) : Reading ReadError State Value :=
  if 32 < bitmaskLength then .fail .runtimeError
  else
    (if bitmaskLength = 0 then readByte else pure bitmaskLength) >>= fun length =>
      if 4 < length then .fail .runtimeError
      else do
        let bytes ← readBytes readByte length.toNat
        pure (.number (bigEndian bytes.reverse))

def readByteWithBitmask (bitmasks : List UInt8) : Reading ReadError State Value :=
  if bitmasks = [] then pure (.fields fun _ => none)
  else do
    let byte ← readByte
    pure (.fields fun bitmask =>
      if bitmask ∈ bitmasks then some ((bitmask &&& byte) >>> getTrailingZeroes bitmask) else none)

/-- `read_sequential` of an integer. -/
def readSequential (isSigned : Bool) (bytesToRead : UInt8) : Reading ReadError State Value := do
  let bytes ← readBytes readByte bytesToRead.toNat
  if isSigned = false then pure (.number (bigEndian bytes))
  else if bytesToRead ∈ [(1 : UInt8), 2, 4] then
    pure (.number (withSign (8 * bytesToRead.toNat) (bigEndian bytes)))
  else .fail .runtimeError

/-- `read_sequential` of a string or of bytes. -/
def readSequentialBytes (bytesToRead : UInt8) : Reading ReadError State Value := do
  let bytes ← readBytes readByte bytesToRead.toNat
  pure (.text bytes)

/-- One read of a field. -/
def perform : Operation -> Reading ReadError State Value
  | .readByte => do
    let byte ← readByte
    pure (.number byte.toNat)
  | .readBitmask bitmaskLength => readBitmask readByte bitmaskLength
  | .readByteWithBitmask bitmasks => readByteWithBitmask readByte bitmasks
  | .readSequential isSigned bytesToRead => readSequential readByte isSigned bytesToRead
  | .readSequentialBytes bytesToRead => readSequentialBytes readByte bytesToRead
  | .readString => do
    let stringLength ← readByte
    readSequentialBytes readByte stringLength
  | .isChecksumValid => do
    let bytes ← readBytes readByte 2
    pure (.validity (isExpectedChecksum frame (UInt16.ofNat (bigEndian bytes)) true))

/-- What the reads of a sequence return or throw. -/
def results : List Operation -> State -> List (Except ReadError Value)
  | [], _ => []
  | operation :: later, state =>
    (perform readByte frame operation state).1 ::
      results later (perform readByte frame operation state).2

end Reads

/-- `read_byte` with the cursor of the parser. -/
def readAt (frame : List UInt8) : Reading ReadError Nat UInt8 := fun currentIndex =>
  match frame[currentIndex]? with
  | none => (.error .outOfRange, currentIndex)
  | some byte => (.ok byte, (currentIndex + 1) % 256)

/-- A read of the next one of the bytes that are left. -/
def readNext : Reading ReadError (List UInt8) UInt8
  | [] => (.error .outOfRange, [])
  | byte :: later => (.ok byte, later)

/-- The reads of a frame return its bytes one after the other from the third one on, and throw
behind its end; the sizes that are valid are those of the frame; no range is invalid. -/
structure Conforms (frame : List UInt8) : Prop where
  reads : ∀ operations,
    results (readAt frame) frame operations 2 = results readNext frame operations (frame.drop 2)
  sizes : ∀ minSize maxSize, isFrameSizeValid frame minSize maxSize = true ↔
    minSize.toNat ≤ frame.length ∧ frame.length ≤ (largestSize minSize maxSize).toNat
  ranges : ∀ expectedChecksum checksumInFrame,
    isExpectedChecksum frame expectedChecksum checksumInFrame ≠ none

open Foundation (agree_pure agree_fail)

section Agreement

variable {σ τ : Type} {related : σ -> τ -> Prop} {first : Reading ReadError σ UInt8}
  {second : Reading ReadError τ UInt8} (agree : Agree related first second) (frame : List UInt8)
include agree

theorem agree_readBytes (count : Nat) :
    Agree related (readBytes first count) (readBytes second count) := by
  induction count with
  | zero => exact agree_pure []
  | succ count ih => exact agree.bind fun byte => ih.bind fun others => agree_pure (byte :: others)

theorem agree_readSequentialBytes (bytesToRead : UInt8) :
    Agree related (readSequentialBytes first bytesToRead)
      (readSequentialBytes second bytesToRead) :=
  (agree_readBytes agree _).bind fun _ => agree_pure _

theorem agree_perform (operation : Operation) :
    Agree related (perform first frame operation) (perform second frame operation) := by
  cases operation with
  | readByte => exact agree.bind fun _ => agree_pure _
  | readBitmask bitmaskLength =>
    show Agree related (readBitmask first bitmaskLength) (readBitmask second bitmaskLength)
    unfold readBitmask
    split
    · exact agree_fail _
    · refine Agree.bind ?_ fun length => ?_
      · split
        · exact agree
        · exact agree_pure bitmaskLength
      · split
        · exact agree_fail _
        · exact (agree_readBytes agree _).bind fun _ => agree_pure _
  | readByteWithBitmask bitmasks =>
    show Agree related (readByteWithBitmask first bitmasks) (readByteWithBitmask second bitmasks)
    unfold readByteWithBitmask
    split
    · exact agree_pure _
    · exact agree.bind fun _ => agree_pure _
  | readSequential isSigned bytesToRead =>
    refine (agree_readBytes agree bytesToRead.toNat).bind fun bytes => ?_
    split
    · exact agree_pure _
    · split
      · exact agree_pure _
      · exact agree_fail _
  | readSequentialBytes bytesToRead => exact agree_readSequentialBytes agree bytesToRead
  | readString => exact agree.bind fun stringLength => agree_readSequentialBytes agree stringLength
  | isChecksumValid => exact (agree_readBytes agree 2).bind fun _ => agree_pure _

theorem results_eq (operations : List Operation) {left : σ} {right : τ}
    (isRelated : related left right) :
    results first frame operations left = results second frame operations right := by
  induction operations generalizing left right with
  | nil => rfl
  | cons operation later ih =>
    obtain ⟨same, stillRelated⟩ := agree_perform agree frame operation left right isRelated
    unfold results
    rw [same, ih stillRelated]

end Agreement

variable {frame : List UInt8} {index : Nat}

/-- The cursor stands before the bytes that are left. -/
def Stands (frame : List UInt8) (index : Nat) (left : List UInt8) : Prop :=
  left = frame.drop index ∧ index ≤ 255

theorem agree_readAt (short : frame.length ≤ 255) :
    Agree (Stands frame) (readAt frame) readNext := by
  rintro index left ⟨rfl, small⟩
  unfold readAt
  cases found : frame[index]? with
  | none =>
    rw [List.drop_of_length_le (List.getElem?_eq_none_iff.mp found)]
    exact ⟨rfl, (List.drop_of_length_le (List.getElem?_eq_none_iff.mp found)).symm, small⟩
  | some byte =>
    obtain ⟨inside, rfl⟩ := List.getElem?_eq_some_iff.mp found
    rw [List.drop_eq_getElem_cons inside]
    refine ⟨rfl, ?_, ?_⟩
    · dsimp only
      rw [Nat.mod_eq_of_lt (by omega)]
      rfl
    · exact Nat.le_of_lt_succ (Nat.mod_lt _ (by decide))

/-- The cursor never gets behind the end of a frame of more than 255 bytes. -/
theorem results_readAt_long (long : 256 ≤ frame.length) (count : Nat) (small : index < 256) :
    ∀ result ∈ results (readAt frame) frame (List.replicate count .readByte) index,
      ∃ value, result = .ok value := by
  induction count generalizing index with
  | zero => exact fun _ isResult => absurd isResult List.not_mem_nil
  | succ count ih =>
    have found : readAt frame index = (.ok frame[index], (index + 1) % 256) := by
      unfold readAt
      rw [List.getElem?_eq_getElem (by omega)]
    have isRead : perform (readAt frame) frame .readByte index =
        (.ok (.number frame[index].toNat), (index + 1) % 256) := by
      show Reading.bind (readAt frame) _ index = _
      unfold Reading.bind
      rw [found]
      rfl
    rw [List.replicate_succ]
    unfold results
    rw [isRead]
    rintro result (_ | ⟨_, isLater⟩)
    · exact ⟨_, rfl⟩
    · exact ih (Nat.mod_lt _ (by decide)) result isLater

theorem results_readNext_end (frame left : List UInt8) :
    .error .outOfRange ∈
      results readNext frame (List.replicate (left.length + 1) .readByte) left := by
  induction left with
  | nil => exact List.mem_cons_self
  | cons byte later ih => exact List.mem_cons_of_mem _ ih

/-- The parser reads a frame as it should exactly if it has two to 255 bytes. -/
theorem frame_conforms_iff (frame : List UInt8) :
    Conforms frame ↔ 2 ≤ frame.length ∧ frame.length ≤ 255 := by
  constructor
  · intro conforms
    constructor
    · refine Nat.le_of_not_lt fun short => conforms.ranges 0 true ?_
      unfold isExpectedChecksum
      exact if_pos short
    · refine Nat.le_of_not_lt fun long => ?_
      have isEnd := results_readNext_end frame (frame.drop 2)
      rw [← conforms.reads] at isEnd
      obtain ⟨value, isValue⟩ := results_readAt_long (by omega) _ (by decide) _ isEnd
      cases isValue
  · rintro ⟨long, short⟩
    refine ⟨fun operations => ?_, fun minSize maxSize => ?_, fun expected inFrame => ?_⟩
    · exact results_eq (agree_readAt short) frame operations ⟨rfl, by decide⟩
    · have length : (getFrameLength frame).toNat = frame.length := by
        unfold getFrameLength
        rw [UInt8.toNat_ofNat']
        omega
      unfold isFrameSizeValid
      rw [length, Bool.and_eq_true, decide_eq_true_iff, decide_eq_true_iff]
    · unfold isExpectedChecksum
      cases inFrame with
      | false => exact fun isNone => by simp at isNone
      | true => exact fun isNone => by simp [show ¬frame.length < 2 by omega] at isNone

theorem not_frame_conforms : ¬Conforms (List.replicate 256 0) := by
  intro conforms
  have isSize := conforms.sizes 0 0
  exact absurd (isSize.mp (by decide +kernel)).2 (by decide +kernel)

end ZwaveFrameParser
