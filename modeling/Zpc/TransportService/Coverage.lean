import Zpc.Foundation.Run
import Zpc.TransportService.Sender
import Mathlib.Tactic.IntervalCases
import Mathlib.Data.List.Basic

/-!
# What the fragments of a session cover

In a session without losses the lower layer accepts every fragment, reports
its success, and the timer between two fragments expires.  The fragments of
such a session cover the datagram byte by byte exactly when the datagram is
shorter than three fragments: a longer one makes `send_subseq_frag` take the
length of a fragment off the remaining data twice.
-/

namespace TransportService

open Foundation

variable (frame : List UInt8)

/-- Whether a frame is a First Fragment. -/
def isFirstFragment : Bool :=
  frame.getD 1 0 &&& 0xf8 == UInt8.ofNat commandFirstFragment

/-- The offset field of a fragment; a First Fragment starts at zero. -/
def fragmentOffset : Nat :=
  if isFirstFragment frame then 0
  else ((frame.getD 3 0 &&& 0x07).toNat <<< 8) + (frame.getD 4 0).toNat

/-- The bytes of a fragment between its header and its checksum. -/
def fragmentPayload : List UInt8 :=
  if isFirstFragment frame then (frame.drop 4).take (frame.length - 6)
  else (frame.drop 5).take (frame.length - 7)

/-- Each fragment starts where the one before it ended. -/
def Consecutive : Nat -> List (List UInt8) -> Prop
  | _, [] => True
  | start, frame :: rest =>
      fragmentOffset frame = start ∧ fragmentPayload frame ≠ [] ∧
        Consecutive (start + (fragmentPayload frame).length) rest

/-- The fragments cover every byte of the datagram once, in increasing order,
and the last of them is the one the sender took for the last. -/
structure CoversDatagram (datagram : List UInt8) (frames : List LowerLayerFrame) : Prop where
  consecutive : Consecutive 0 (frames.map LowerLayerFrame.payload)
  payloads : (frames.map fun frame => fragmentPayload frame.payload).flatten = datagram
  ended : frames.getLast?.map LowerLayerFrame.callback = some .tempCallbackLastFrag

theorem getD_addCrc_of_lt (buffer : List UInt8) {i : Nat} (inside : i < buffer.length) :
    (addCrc buffer).getD i 0 = buffer.getD i 0 := by
  unfold addCrc
  simp [List.getD, List.getElem?_append_left inside]

theorem addCrc_split (header payload : List UInt8) :
    ((addCrc (header ++ payload)).drop header.length).take
      ((addCrc (header ++ payload)).length - (header.length + 2)) = payload := by
  unfold addCrc
  simp only [List.append_assoc, List.drop_left, List.length_append, List.length_cons,
    List.length_nil]
  rw [show header.length + (payload.length + (0 + 1 + 1)) - (header.length + 2) =
    payload.length by omega]
  exact List.take_left

variable {length : Nat}

theorem high_bits (small : length ≤ payloadSizeMax) : length >>> 8 = 0 := by
  unfold payloadSizeMax at small
  omega

theorem low_byte (small : length ≤ payloadSizeMax) :
    (UInt8.ofNat (length &&& 0xff)).toNat = length := by
  rw [show (0xff : Nat) = 2 ^ 8 - 1 by rfl, Nat.and_two_pow_sub_one_eq_mod]
  unfold payloadSizeMax at small
  simp
  omega

theorem firstFragment_command (small : length ≤ payloadSizeMax) :
    UInt8.ofNat (commandFirstFragment ||| ((length >>> 8) &&& 0x07)) &&& 0xf8 =
      UInt8.ofNat commandFirstFragment := by
  rw [high_bits small]
  decide

theorem subsequentFragment_command (small : length ≤ payloadSizeMax) :
    UInt8.ofNat (commandSubsequentFragment ||| ((length >>> 8) &&& 0x07)) &&& 0xf8 =
      UInt8.ofNat commandSubsequentFragment := by
  rw [high_bits small]
  decide

theorem offset_bytes {offset sessionId : Nat} (small : offset ≤ payloadSizeMax)
    (session : sessionId ≤ 0xf) :
    ((UInt8.ofNat (((sessionId &&& 0x0F) <<< 4) ||| ((offset >>> 8) &&& 0x07)) &&&
          0x07).toNat <<< 8) +
        (UInt8.ofNat (offset &&& 0xff)).toNat = offset := by
  have high : (UInt8.ofNat (((sessionId &&& 0x0F) <<< 4) ||| (0 &&& 0x07)) &&& 0x07).toNat = 0 := by
    interval_cases sessionId <;> decide
  rw [high_bits small, high, low_byte small]
  simp

namespace Service

variable (sessionId : Nat) {datagramLen offset length size remaining expectedResponses : Nat}
  {buffer datagram : List UInt8} {service before after : Service} {callback : LowerLayerCallback}
  {frame first last second : LowerLayerFrame} {frames : List LowerLayerFrame}

theorem read_firstFragment (small : datagramLen ≤ payloadSizeMax) (sessionId : Nat)
    (payload : List UInt8) :
    fragmentOffset (firstFragment datagramLen sessionId payload) = 0 ∧
      fragmentPayload (firstFragment datagramLen sessionId payload) = payload := by
  have first : isFirstFragment (firstFragment datagramLen sessionId payload) = true := by
    unfold isFirstFragment firstFragment
    rw [beq_iff_eq]
    exact firstFragment_command small
  refine ⟨by simp [fragmentOffset, first], ?_⟩
  unfold fragmentPayload
  rw [if_pos first]
  exact addCrc_split [_, _, _, _] _

theorem read_subsequentFragment {sessionId : Nat} (small : datagramLen ≤ payloadSizeMax)
    (session : sessionId ≤ 0xf) (inside : offset ≤ payloadSizeMax) (payload : List UInt8) :
    fragmentOffset (subsequentFragment datagramLen sessionId offset payload) = offset ∧
      fragmentPayload (subsequentFragment datagramLen sessionId offset payload) = payload := by
  have notFirst : isFirstFragment
      (subsequentFragment datagramLen sessionId offset payload) = false := by
    unfold isFirstFragment subsequentFragment
    rw [getD_addCrc_of_lt _ (by simp)]
    simp only [List.cons_append, List.getD_cons_succ, List.getD_cons_zero]
    rw [subsequentFragment_command small]
    decide
  constructor
  · unfold fragmentOffset
    rw [if_neg (by simp [notFirst])]
    exact offset_bytes inside session
  · unfold fragmentPayload
    rw [if_neg (by simp [notFirst])]
    exact addCrc_split [_, _, _, _, _] _

theorem length_addCrc (buffer : List UInt8) : (addCrc buffer).length = buffer.length + 2 := by
  simp [addCrc]

theorem length_addCrc_append (header payload : List UInt8) :
    (addCrc (header ++ payload)).length = payload.length + (header.length + 2) := by
  rw [length_addCrc, List.length_append]
  omega

/-- What happens between two fragments of a session without losses: the lower
layer reports that the last frame was sent, and the timer this may arm
expires. -/
def lossFreeRound (service : Service) (now : Nat) : Service :=
  match service.sent.getLast?.map LowerLayerFrame.callback with
  | some .transportServiceSenddataCb =>
      let service := service.transportServiceSenddataCb now true
      if service.scb.timerBtwn2Frags.isSome then
        sendSubseqFrag
          { service with scb := { service.scb with timerBtwn2Frags := none } } true
      else service
  | some .tempCallbackLastFrag => service.tempCallbackLastFrag 0 true
  | _ => service

/-- The frames handed to the lower layer since an earlier state. -/
def sentSince (before after : Service) : List LowerLayerFrame := after.sent.drop before.sent.length

/-- The sender is in the middle of a datagram: `remaining` is what
`remaining_data_len` says, and a fragment that is not the last one is on its
way. -/
structure Underway
    (service : Service)
    (datagram : List UInt8)
    (size remaining : Nat) : Prop where
  fragmentSize : service.maxFragmentSize = size
  datagramLen : service.scb.datagramLen = datagram.length
  datagramBytes : service.scb.datagram.take datagram.length = datagram
  remainingData : service.scb.remainingDataLen = remaining
  sessionId : service.scb.cmn.sessionId ≤ 0xf
  notCompleted : service.scb.fragComplList.getD service.scb.cmn.sessionId 0 ≠ 1
  noRequest : service.scb.flagReplyFragReq = false
  noWait : service.scb.flagSendFragWait = false
  notAborted : service.scb.transmissionAborted = nothingAborted
  onTheWay : service.sent.getLast?.map LowerLayerFrame.callback = some .transportServiceSenddataCb

theorem datagramBytes_eq (bytes : buffer.take datagram.length = datagram)
    (inside : offset + length ≤ datagram.length) :
    datagramBytes buffer offset length = datagramBytes datagram offset length := by
  unfold datagramBytes
  conv_rhs => rw [← bytes, List.drop_take, List.take_take]
  rw [Nat.min_eq_left (by omega)]

theorem Underway.lossFreeRound_eq (underway : service.Underway datagram size remaining)
    (now : Nat) :
    ∃ next : Service, lossFreeRound service now = next.sendSubseqFrag true ∧
      next.Underway datagram size remaining ∧ next.sent = service.sent := by
  have notOwn : ¬ service.scb.transmissionAborted = service.scb.cmn.sessionId := by
    have := underway.sessionId
    rw [underway.notAborted]
    unfold nothingAborted
    omega
  unfold lossFreeRound
  rw [underway.onTheWay]
  simp only [transportServiceSenddataCb, underway.noRequest, underway.noWait, notOwn,
    if_false, Bool.false_eq_true, Option.isSome_some, if_true, scb_postEvent]
  refine ⟨_, rfl, ?_, by simp⟩
  constructor
  · simpa using underway.fragmentSize
  · exact underway.datagramLen
  · exact underway.datagramBytes
  · exact underway.remainingData
  · exact underway.sessionId
  · exact underway.notCompleted
  · rfl
  · rfl
  · exact underway.notAborted
  · simpa using underway.onTheWay

/-- The length the next fragment is computed from: a remaining length of zero
stands for the whole datagram. -/
def effectiveRemaining (datagram : List UInt8) (remaining : Nat) : Nat :=
  if remaining = 0 then datagram.length else remaining

theorem effectiveRemaining_le (within : remaining ≤ datagram.length) :
    effectiveRemaining datagram remaining ≤ datagram.length := by
  unfold effectiveRemaining
  split <;> omega

/-- A fragment that carries `length` bytes of the datagram from `offset` on. -/
structure Carries
    (frame : LowerLayerFrame)
    (datagram : List UInt8)
    (offset length : Nat) : Prop where
  startsAt : fragmentOffset frame.payload = offset
  payload : fragmentPayload frame.payload = datagramBytes datagram offset length

theorem length_datagramBytes (inside : offset + length ≤ datagram.length) :
    (datagramBytes datagram offset length).length = length := by
  unfold datagramBytes
  rw [List.length_take, List.length_drop]
  omega

theorem subsequentFrame_carries {sessionId : Nat} (small : datagram.length ≤ payloadSizeMax)
    (inside : offset + length ≤ datagram.length) (session : sessionId ≤ 0xf)
    (bytes : buffer.take datagram.length = datagram)
    (dataLength : service.scb.datalenToSend = length)
    (built : service.txBuf = subsequentFragment datagram.length sessionId offset
      (datagramBytes buffer offset length)) :
    Carries (service.subsequentFrame expectedResponses callback) datagram offset length := by
  rw [datagramBytes_eq bytes inside] at built
  have offsetInside : offset ≤ payloadSizeMax := by omega
  have read := read_subsequentFragment small session offsetInside
    (datagramBytes datagram offset length)
  have whole : (service.subsequentFrame expectedResponses callback).payload =
      subsequentFragment datagram.length sessionId offset
        (datagramBytes datagram offset length) := by
    unfold subsequentFrame
    rw [built]
    apply List.take_of_length_le
    unfold subsequentFragment
    rw [length_addCrc, List.length_append, length_datagramBytes inside]
    simp only [List.length_cons, List.length_nil]
    omega
  exact ⟨by rw [whole]; exact read.1, by rw [whole]; exact read.2⟩

theorem Underway.sendSubseqFrag_more (underway : service.Underway datagram size remaining)
    (small : datagram.length ≤ payloadSizeMax)
    (within : effectiveRemaining datagram remaining ≤ datagram.length)
    (more : size < effectiveRemaining datagram remaining) :
    ∃ frame,
      (service.sendSubseqFrag true).sent = service.sent ++ [frame] ∧
      Carries frame datagram
        (datagram.length - effectiveRemaining datagram remaining) size ∧
      (service.sendSubseqFrag true).Underway datagram size
        (if size ≤ effectiveRemaining datagram remaining - size then
          effectiveRemaining datagram remaining - size - size
        else effectiveRemaining datagram remaining - size) := by
  have effective : (if service.scb.remainingDataLen = 0 then datagram.length
      else service.scb.remainingDataLen) = effectiveRemaining datagram remaining := by
    rw [underway.remainingData]
    rfl
  unfold sendSubseqFrag
  simp only [underway.datagramLen, effective, underway.notCompleted, if_false,
    underway.fragmentSize,
    if_neg (Nat.not_le.mpr more), if_true, lowerLayerSendData, armResetTimer,
    if_pos more.le, sent_postEvent]
  refine ⟨_, rfl, ?_, ?_⟩
  · refine subsequentFrame_carries small (by omega) underway.sessionId
      underway.datagramBytes ?_ ?_
    all_goals rfl
  · constructor
    · simp
    · simp
    · simpa using underway.datagramBytes
    · simp
    · simpa using underway.sessionId
    · simpa using underway.notCompleted
    · simpa using underway.noRequest
    · simpa using underway.noWait
    · simpa using underway.notAborted
    · simp [subsequentFrame]

theorem Underway.sendSubseqFrag_last (underway : service.Underway datagram size remaining)
    (small : datagram.length ≤ payloadSizeMax)
    (within : effectiveRemaining datagram remaining ≤ datagram.length)
    (last : effectiveRemaining datagram remaining ≤ size) :
    ∃ frame,
      (service.sendSubseqFrag true).sent = service.sent ++ [frame] ∧
      Carries frame datagram
        (datagram.length - effectiveRemaining datagram remaining)
        (effectiveRemaining datagram remaining) ∧
      frame.callback = .tempCallbackLastFrag := by
  have effective : (if service.scb.remainingDataLen = 0 then datagram.length
      else service.scb.remainingDataLen) = effectiveRemaining datagram remaining := by
    rw [underway.remainingData]
    rfl
  generalize effectiveRemaining datagram remaining = left at *
  have length : (if size ≤ left then size else left) = left := by
    split <;> omega
  unfold sendSubseqFrag
  simp only [underway.datagramLen, effective, underway.notCompleted, if_false,
    underway.fragmentSize,
    if_pos last, length, if_true, lowerLayerSendData, sendLastFrag, scb_postEvent,
    sent_postEvent]
  refine ⟨_, rfl, ?_, rfl⟩
  refine subsequentFrame_carries small (by omega) underway.sessionId
    underway.datagramBytes ?_ ?_
  · simp only
  · simp only [txBuf_postEvent]

theorem sent_lossFreeRound_of_ended
    (ended : service.sent.getLast?.map LowerLayerFrame.callback = some .tempCallbackLastFrag)
    (now : Nat) : (lossFreeRound service now).sent = service.sent := by
  unfold lossFreeRound
  rw [ended]
  simp [tempCallbackLastFrag]

theorem sent_run_of_ended
    (ended : service.sent.getLast?.map LowerLayerFrame.callback = some .tempCallbackLastFrag)
    (clock : List Nat) : (run lossFreeRound service clock).sent = service.sent := by
  induction clock generalizing service with
  | nil => rfl
  | cons now rest ih =>
    have same := sent_lossFreeRound_of_ended ended now
    rw [run_cons, ih (by rw [same]; exact ended), same]

/-- A session is between two fragments or its last fragment is out. -/
def Running (service : Service) (datagram : List UInt8) (size : Nat) : Prop :=
  (∃ remaining, service.Underway datagram size remaining ∧
      effectiveRemaining datagram remaining ≤ datagram.length) ∨
    service.sent.getLast?.map LowerLayerFrame.callback = some .tempCallbackLastFrag

theorem Running.lossFreeRound {service : Service} {datagram : List UInt8} {size : Nat}
    (running : service.Running datagram size) (small : datagram.length ≤ payloadSizeMax)
    (now : Nat) :
    (Service.lossFreeRound service now).Running datagram size ∧
      service.sent <+: (Service.lossFreeRound service now).sent := by
  rcases running with ⟨remaining, underway, within⟩ | ended
  · obtain ⟨next, isRound, nextUnderway, sameSent⟩ := underway.lossFreeRound_eq now
    rw [isRound, ← sameSent]
    by_cases more : size < effectiveRemaining datagram remaining
    · obtain ⟨frame, sentEq, _, further⟩ := nextUnderway.sendSubseqFrag_more small within more
      refine ⟨.inl ⟨_, further, effectiveRemaining_le ?_⟩, by rw [sentEq]; simp⟩
      split <;> omega
    · obtain ⟨frame, sentEq, _, last⟩ := nextUnderway.sendSubseqFrag_last small within (by omega)
      exact ⟨.inr (by rw [sentEq]; simp [last]), by rw [sentEq]; simp⟩
  · have same := sent_lossFreeRound_of_ended ended now
    rw [same]
    exact ⟨.inr (by rw [same]; exact ended), List.prefix_rfl⟩

/-- Later rounds only add to the frames sent. -/
theorem Running.sent_isPrefix_run (running : service.Running datagram size)
    (small : datagram.length ≤ payloadSizeMax) (clock : List Nat) :
    service.sent <+: (run Service.lossFreeRound service clock).sent := by
  induction clock generalizing service with
  | nil => exact List.prefix_rfl
  | cons now rest ih =>
    obtain ⟨next, grown⟩ := running.lossFreeRound small now
    exact grown.trans (ih next)

theorem getD_set_zero (list : List Nat) (i : Nat) : (list.set i 0).getD i 0 = 0 := by
  rw [List.getD_eq_getElem?_getD, List.getElem?_set]
  split
  · split <;> rfl
  · contradiction

theorem nextSessionId_le : nextSessionId sessionId ≤ 0xf := by
  unfold nextSessionId
  dsimp only
  generalize (if sessionId = 0 then 0 else (sessionId + 1) % 2 ^ 8) = next
  split <;> omega

theorem firstFrame_carries (buffer : List UInt8) (sessionId : Nat)
    (small : datagram.length ≤ payloadSizeMax) (inside : length ≤ datagram.length)
    (bytes : buffer.take datagram.length = datagram)
    (dataLength : service.scb.datalenToSend = length)
    (built : service.txBuf = firstFragment datagram.length sessionId
      (datagramBytes buffer 0 length)) :
    Carries (service.firstFrame expectedResponses callback) datagram 0 length := by
  have fromStart : 0 + length ≤ datagram.length := by omega
  rw [datagramBytes_eq bytes fromStart] at built
  have read := read_firstFragment small sessionId (datagramBytes datagram 0 length)
  have whole : (service.firstFrame expectedResponses callback).payload =
      firstFragment datagram.length sessionId (datagramBytes datagram 0 length) := by
    unfold firstFrame
    rw [built]
    apply List.take_of_length_le
    unfold firstFragment
    rw [length_addCrc, List.length_append, length_datagramBytes fromStart]
    simp only [List.length_cons, List.length_nil]
    omega
  exact ⟨by rw [whole]; exact read.1, by rw [whole]; exact read.2⟩

/-- A session is about to send its first fragment. -/
structure Ready (service : Service) (datagram : List UInt8) (size : Nat) : Prop where
  fragmentSize : service.maxFragmentSize = size
  datagramLen : service.scb.datagramLen = datagram.length
  datagramBytes : service.scb.datagram.take datagram.length = datagram
  noRequest : service.scb.flagReplyFragReq = false
  noWait : service.scb.flagSendFragWait = false
  notAborted : service.scb.transmissionAborted = nothingAborted

theorem Ready.sendFirstFrag_more {service : Service} {datagram : List UInt8} {size : Nat}
    (ready : service.Ready datagram size) (small : datagram.length ≤ payloadSizeMax)
    (more : size < datagram.length) (now : Nat) :
    ∃ frame,
      (service.sendFirstFrag now true).sent = service.sent ++ [frame] ∧
      Carries frame datagram 0 size ∧
      (service.sendFirstFrag now true).Underway datagram size (datagram.length - size) := by
  unfold sendFirstFrag
  simp only [ready.fragmentSize, ready.datagramLen, decide_eq_true_eq,
    if_neg (Nat.not_le.mpr more), lowerLayerSendData, if_true, armResetTimer]
  refine ⟨_, rfl, ?_, ?_⟩
  · exact firstFrame_carries service.scb.datagram
      (nextSessionId service.scb.cmn.sessionId) small more.le ready.datagramBytes rfl rfl
  · constructor
    · rfl
    · rfl
    · exact ready.datagramBytes
    · rfl
    · exact nextSessionId_le _
    · rw [getD_set_zero]
      decide
    · exact ready.noRequest
    · exact ready.noWait
    · exact ready.notAborted
    · simp [firstFrame, subsequentFrame]

theorem Ready.sendFirstFrag_single {service : Service} {datagram : List UInt8} {size : Nat}
    (ready : service.Ready datagram size) (small : datagram.length ≤ payloadSizeMax)
    (single : datagram.length ≤ size) (now : Nat) :
    ∃ frame,
      (service.sendFirstFrag now true).sent = service.sent ++ [frame] ∧
      Carries frame datagram 0 datagram.length ∧
      frame.callback = .tempCallbackLastFrag := by
  unfold sendFirstFrag
  simp only [ready.fragmentSize, ready.datagramLen, decide_eq_true_eq, if_pos single,
    lowerLayerSendData, if_true, sendLastFrag, scb_postEvent, sent_postEvent,
    Bool.false_eq_true, if_false]
  refine ⟨_, rfl, ?_, rfl⟩
  refine firstFrame_carries service.scb.datagram
    (nextSessionId service.scb.cmn.sessionId) small (Nat.le_refl _) ready.datagramBytes ?_ ?_
  · simp only
  · simp only [txBuf_postEvent]

theorem transportServiceSendData_idle {service : Service} (idle : service.currentState = .idle)
    {datagram : List UInt8} (small : datagram.length ≤ payloadSizeMax) {maxFrameLen : Nat}
    (frameLen : 7 < maxFrameLen) (frameLenFits : maxFrameLen < 2 ^ 16) (source dest : Nat)
    (onSendComplete : Option Nat) (now : Nat) :
    ∃ ready : Service,
      (service.transportServiceSendData source dest datagram maxFrameLen
        onSendComplete now true).2 = ready.sendFirstFrag now true ∧
      ready.Ready datagram (maxFrameLen - 7) ∧ ready.sent = service.sent := by
  have fits : ¬ payloadSizeMax < datagram.length := Nat.not_lt.mpr small
  have stillIdle :
      (service.takeRequest datagram maxFrameLen onSendComplete).currentState = .idle := by
    simp [takeRequest, fits, armResetTimer, idle]
  have stillIdle' :
      ((service.takeRequest datagram maxFrameLen onSendComplete).beginSession source dest
        datagram.length).currentState = .idle := stillIdle
  refine ⟨((service.takeRequest datagram maxFrameLen onSendComplete).beginSession source
    dest datagram.length).postEvent .startSend, ?_, ?_, ?_⟩
  · unfold transportServiceSendData
    simp only [fits, if_false, stillIdle, State.isSending, State.isReceiving,
      Bool.false_eq_true, stillIdle']
  · constructor
    · simp [beginSession, takeRequest, fits, armResetTimer]
      omega
    · simp [beginSession]
    · simp [beginSession, takeRequest, fits, armResetTimer]
    all_goals simp [beginSession]
  · simp [beginSession, takeRequest, fits, armResetTimer]

theorem Underway.round_more (underway : service.Underway datagram size remaining)
    (small : datagram.length ≤ payloadSizeMax)
    (within : effectiveRemaining datagram remaining ≤ datagram.length)
    (more : size < effectiveRemaining datagram remaining) (now : Nat) :
    ∃ frame,
      (lossFreeRound service now).sent = service.sent ++ [frame] ∧
      Carries frame datagram
        (datagram.length - effectiveRemaining datagram remaining) size ∧
      (lossFreeRound service now).Underway datagram size
        (if size ≤ effectiveRemaining datagram remaining - size then
          effectiveRemaining datagram remaining - size - size
        else effectiveRemaining datagram remaining - size) := by
  obtain ⟨next, isRound, nextUnderway, sameSent⟩ := underway.lossFreeRound_eq now
  rw [isRound, ← sameSent]
  exact nextUnderway.sendSubseqFrag_more small within more

theorem Underway.round_last (underway : service.Underway datagram size remaining)
    (small : datagram.length ≤ payloadSizeMax)
    (within : effectiveRemaining datagram remaining ≤ datagram.length)
    (last : effectiveRemaining datagram remaining ≤ size) (now : Nat) :
    ∃ frame,
      (lossFreeRound service now).sent = service.sent ++ [frame] ∧
      Carries frame datagram
        (datagram.length - effectiveRemaining datagram remaining)
        (effectiveRemaining datagram remaining) ∧
      frame.callback = .tempCallbackLastFrag := by
  obtain ⟨next, isRound, nextUnderway, sameSent⟩ := underway.lossFreeRound_eq now
  rw [isRound, ← sameSent]
  exact nextUnderway.sendSubseqFrag_last small within last

/-- The session from the request to send a datagram on: the first fragment and
then one round for every entry of the clock. -/
def lossFreeSession (service : Service) (source dest : Nat) (datagram : List UInt8)
    (maxFrameLen : Nat) (onSendComplete : Option Nat) (start : Nat) (clock : List Nat) : Service :=
  run lossFreeRound
    (service.transportServiceSendData source dest datagram maxFrameLen onSendComplete
      start true).2
    clock

theorem Carries.length_payload (carries : Carries frame datagram offset length)
    (inside : offset + length ≤ datagram.length) :
    (fragmentPayload frame.payload).length = length := by
  rw [carries.payload, length_datagramBytes inside]

theorem Carries.payload_ne_nil (carries : Carries frame datagram offset length)
    (inside : offset + length ≤ datagram.length) (positive : 0 < length) :
    fragmentPayload frame.payload ≠ [] := by
  intro nothing
  have := carries.length_payload inside
  rw [nothing] at this
  simp at this
  omega

theorem coversDatagram_one {datagram : List UInt8} (nonempty : 1 ≤ datagram.length)
    {only : LowerLayerFrame} (carries : Carries only datagram 0 datagram.length)
    (ended : only.callback = .tempCallbackLastFrag) : CoversDatagram datagram [only] where
  consecutive := ⟨carries.startsAt, carries.payload_ne_nil (by omega) nonempty, trivial⟩
  payloads := by simp [carries.payload, datagramBytes]
  ended := by simp [ended]

theorem coversDatagram_two (positive : 0 < size) (more : size < datagram.length)
    (carriesFirst : Carries first datagram 0 size)
    (carriesLast : Carries last datagram size (datagram.length - size))
    (ended : last.callback = .tempCallbackLastFrag) : CoversDatagram datagram [first, last] where
  consecutive := by
    refine ⟨carriesFirst.startsAt, carriesFirst.payload_ne_nil (by omega) positive, ?_,
      carriesLast.payload_ne_nil (by omega) (by omega), trivial⟩
    rw [carriesFirst.length_payload (by omega), carriesLast.startsAt]
    omega
  payloads := by
    simp only [List.map_cons, List.map_nil, List.flatten_cons, List.flatten_nil,
      List.append_nil, carriesFirst.payload, carriesLast.payload, datagramBytes,
      List.drop_zero]
    have rest : (datagram.drop size).take (datagram.length - size) = datagram.drop size :=
      List.take_of_length_le (by simp)
    rw [rest, List.take_append_drop]
  ended := by simp [ended]

theorem coversDatagram_three (positive : 0 < size) (more : size + size < datagram.length)
    (carriesFirst : Carries first datagram 0 size)
    (carriesSecond : Carries second datagram size size)
    (carriesLast : Carries last datagram (size + size) (datagram.length - (size + size)))
    (ended : last.callback = .tempCallbackLastFrag) :
    CoversDatagram datagram [first, second, last] where
  consecutive := by
    refine ⟨carriesFirst.startsAt, carriesFirst.payload_ne_nil (by omega) positive, ?_,
      carriesSecond.payload_ne_nil (by omega) positive, ?_,
      carriesLast.payload_ne_nil (by omega) (by omega), trivial⟩
    · rw [carriesFirst.length_payload (by omega), carriesSecond.startsAt]
      omega
    · rw [carriesFirst.length_payload (by omega), carriesSecond.length_payload (by omega),
        carriesLast.startsAt]
      omega
  payloads := by
    simp only [List.map_cons, List.map_nil, List.flatten_cons, List.flatten_nil,
      List.append_nil, carriesFirst.payload, carriesSecond.payload, carriesLast.payload,
      datagramBytes, List.drop_zero]
    have rest : (datagram.drop (size + size)).take (datagram.length - (size + size)) =
        (datagram.drop size).drop size := by
      rw [List.take_of_length_le (by simp), List.drop_drop]
    rw [rest, List.take_append_drop, List.take_append_drop]
  ended := by simp [ended]

theorem sentSince_eq (grown : after.sent = before.sent ++ frames) :
    sentSince before after = frames := by
  unfold sentSince
  rw [grown, List.drop_left]

theorem sentSince_of_ended {before after : Service} {frames : List LowerLayerFrame}
    {last : LowerLayerFrame} (grown : after.sent = before.sent ++ (frames ++ [last]))
    (ended : last.callback = .tempCallbackLastFrag) {clock : List Nat} :
    sentSince before (run lossFreeRound after clock) = frames ++ [last] := by
  have out : after.sent.getLast?.map LowerLayerFrame.callback = some .tempCallbackLastFrag := by
    rw [grown]
    simp [ended]
  exact sentSince_eq ((sent_run_of_ended out clock).trans grown)

theorem not_coversDatagram_of_third {third : LowerLayerFrame} {rest : List LowerLayerFrame}
    (carriesFirst : Carries first datagram 0 size)
    (carriesSecond : Carries second datagram size size)
    (carriesThird : Carries third datagram offset length) (inside : size + size ≤ datagram.length)
    (elsewhere : offset ≠ size + size) :
    ¬ CoversDatagram datagram (first :: second :: third :: rest) := by
  intro covers
  obtain ⟨_, _, _, _, third', _⟩ := covers.consecutive
  rw [carriesFirst.length_payload (by omega), carriesSecond.length_payload (by omega),
    carriesThird.startsAt] at third'
  omega

/-- A session after its first fragment covers the datagram exactly when less
than three fragments were needed. -/
theorem Underway.covers_iff {service started : Service} {datagram : List UInt8} {size : Nat}
    (underway : started.Underway datagram size (datagram.length - size))
    (small : datagram.length ≤ payloadSizeMax) (positive : 0 < size) (more : size < datagram.length)
    {first : LowerLayerFrame} (sentFirst : started.sent = service.sent ++ [first])
    (carriesFirst : Carries first datagram 0 size) (now later : Nat) (again : List Nat) :
    CoversDatagram datagram
        (service.sentSince (run lossFreeRound started (now :: later :: again))) ↔
      datagram.length < 3 * size := by
  have effective : effectiveRemaining datagram (datagram.length - size) =
      datagram.length - size := by
    unfold effectiveRemaining
    rw [if_neg (by omega)]
  have offsetSecond : datagram.length - (datagram.length - size) = size := by omega
  rw [run_cons]
  by_cases two : datagram.length - size ≤ size
  · obtain ⟨last, sentLast, carriesLast, ended⟩ :=
      underway.round_last small (by omega) (by omega) now
    rw [effective, offsetSecond] at carriesLast
    rw [sentFirst, List.append_assoc] at sentLast
    rw [sentSince_of_ended sentLast ended]
    exact iff_of_true (coversDatagram_two positive more carriesFirst carriesLast ended)
      (by omega)
  · obtain ⟨second, sentSecond, carriesSecond, further⟩ :=
      underway.round_more small (by omega) (by omega) now
    rw [effective, offsetSecond] at carriesSecond
    rw [effective] at further
    rw [sentFirst, List.append_assoc] at sentSecond
    rw [run_cons]
    by_cases three : datagram.length < 3 * size
    · rw [if_neg (by omega)] at further
      have effectiveLast : effectiveRemaining datagram (datagram.length - size - size) =
          datagram.length - (size + size) := by
        unfold effectiveRemaining
        rw [if_neg (by omega)]
        omega
      have offsetLast : datagram.length - (datagram.length - (size + size)) =
          size + size := by omega
      obtain ⟨last, sentLast, carriesLast, ended⟩ :=
        further.round_last small (by omega) (by omega) later
      rw [effectiveLast, offsetLast] at carriesLast
      rw [sentSecond, List.append_assoc] at sentLast
      rw [sentSince_of_ended sentLast ended]
      exact iff_of_true
        (coversDatagram_three positive (by omega) carriesFirst carriesSecond carriesLast ended)
        three
    · -- The remaining length lost a whole fragment that was never sent.
      rw [if_pos (by omega)] at further
      refine iff_of_false ?_ three
      have within := effectiveRemaining_le
        (show datagram.length - size - size - size ≤ datagram.length by omega)
      have elsewhere : datagram.length -
          effectiveRemaining datagram (datagram.length - size - size - size) ≠ size + size := by
        unfold effectiveRemaining
        split <;> omega
      obtain ⟨third, length, sentThird, carriesThird⟩ :
          ∃ third length,
            (lossFreeRound (lossFreeRound started now) later).sent =
              (lossFreeRound started now).sent ++ [third] ∧
            Carries third datagram (datagram.length -
              effectiveRemaining datagram (datagram.length - size - size - size)) length := by
        by_cases last : effectiveRemaining datagram
            (datagram.length - size - size - size) ≤ size
        · obtain ⟨third, sentThird, carriesThird, _⟩ := further.round_last small within last later
          exact ⟨third, _, sentThird, carriesThird⟩
        · obtain ⟨third, sentThird, carriesThird, _⟩ :=
            further.round_more small within (by omega) later
          exact ⟨third, _, sentThird, carriesThird⟩
      have running : (lossFreeRound (lossFreeRound started now) later).Running datagram size :=
        (Running.lossFreeRound (.inl ⟨_, further, within⟩) small later).1
      obtain ⟨rest, whole⟩ := running.sent_isPrefix_run small again
      rw [sentThird, sentSecond, List.append_assoc, List.append_assoc] at whole
      rw [sentSince_eq whole.symm]
      exact not_coversDatagram_of_third carriesFirst carriesSecond carriesThird (by omega)
        elsewhere

/-- In a session without losses the fragments cover the datagram exactly when
it is shorter than three fragments of the given size. -/
theorem lossFreeSession_covers_iff (service : Service) (idle : service.currentState = .idle)
    (datagram : List UInt8) (nonempty : 1 ≤ datagram.length)
    (small : datagram.length ≤ payloadSizeMax) (maxFrameLen : Nat) (frameLen : 7 < maxFrameLen)
    (frameLenFits : maxFrameLen < 2 ^ 16) (source dest : Nat) (onSendComplete : Option Nat)
    (start : Nat) (clock : List Nat) (enough : datagram.length + 2 ≤ clock.length) :
    CoversDatagram datagram
        (service.sentSince
          (service.lossFreeSession source dest datagram maxFrameLen onSendComplete
            start clock)) ↔
      datagram.length < 3 * (maxFrameLen - 7) := by
  unfold lossFreeSession
  obtain ⟨begun, isBegun, ready, sameSent⟩ := transportServiceSendData_idle idle small
    frameLen frameLenFits source dest onSendComplete start
  rw [isBegun]
  by_cases single : datagram.length ≤ maxFrameLen - 7
  · obtain ⟨only, sentOnly, carries, ended⟩ := ready.sendFirstFrag_single small single start
    rw [sameSent] at sentOnly
    have covered : sentSince service (run lossFreeRound (begun.sendFirstFrag start true) clock) =
        [only] := @sentSince_of_ended _ _ [] only sentOnly ended clock
    rw [covered]
    exact iff_of_true (coversDatagram_one nonempty carries ended) (by omega)
  · obtain ⟨first, sentFirst, carriesFirst, underway⟩ :=
      ready.sendFirstFrag_more small (by omega) start
    rw [sameSent] at sentFirst
    obtain ⟨now, later, again, isClock⟩ : ∃ now later again, clock = now :: later :: again := by
      match clock, enough with
      | now :: later :: again, _ => exact ⟨now, later, again, rfl⟩
    subst isClock
    exact underway.covers_iff small (by omega) (by omega) sentFirst carriesFirst now later again

/-- Two fragments of a datagram of five bytes. -/
theorem lossFreeSession_covers_five_bytes :
    CoversDatagram [1, 2, 3, 4, 5]
      (unused.sentSince
        (unused.lossFreeSession 1 2 [1, 2, 3, 4, 5] 10 none 40
          [60, 80, 100, 120, 140, 160, 180])) :=
  (lossFreeSession_covers_iff unused rfl [1, 2, 3, 4, 5] (by decide) (by decide) 10
    (by decide) (by decide) 1 2 none 40 _ (by decide)).mpr (by decide)

/-- Ten bytes in fragments of three: the third fragment starts at the last byte
and the bytes from 6 to 8 are never sent. -/
theorem lossFreeSession_skips_a_fragment :
    ¬ CoversDatagram [0, 1, 2, 3, 4, 5, 6, 7, 8, 9]
        (unused.sentSince
          (unused.lossFreeSession 1 2 [0, 1, 2, 3, 4, 5, 6, 7, 8, 9] 10 none 40
            (List.replicate 12 60))) ∧
      (unused.sentSince
          (unused.lossFreeSession 1 2 [0, 1, 2, 3, 4, 5, 6, 7, 8, 9] 10 none 40
            (List.replicate 12 60))).map
        (fun frame => (fragmentOffset frame.payload, fragmentPayload frame.payload)) =
        [(0, [0, 1, 2]), (3, [3, 4, 5]), (9, [9])] := by
  constructor
  · intro covers
    have third := covers.consecutive.2.2.2.2.1
    revert third
    decide
  · decide

end Service

end TransportService
