import Zpc.TransportService.Sender

/-!
# Rejected requests

`transport_service_send_data` takes over the callback, the fragment size and the bytes of a
datagram before it looks whether another session is in progress.  A session that is in
progress keeps what belongs to it exactly when the rejected request repeats it.
-/

namespace TransportService

namespace Service

/-- A session is being sent or received. -/
def InProgress (service : Service) : Prop :=
  service.currentState.isSending = true ∨ service.currentState.isReceiving = true

/-- When `reset_timer` was armed last, if it was armed at a time before the request. -/
def resetTimerArmedAt (payload : List UInt8) (armedAt now : Nat) : Nat :=
  if payloadSizeMax < payload.length then armedAt else now

/-- What belongs to the session in progress is as it was: the datagram, its destination, the
callback, the fragment size, the datagram that is being assembled, and the timers with the
time `reset_timer` was armed at. -/
structure SessionKept (before after : Service) (armedAt armedAfter : Nat) : Prop where
  datagram : after.scb.datagram = before.scb.datagram
  datagramLen : after.scb.datagramLen = before.scb.datagramLen
  callback : after.onSendCompleteCb = before.onSendCompleteCb
  maxFragmentSize : after.maxFragmentSize = before.maxFragmentSize
  cmn : after.scb.cmn = before.scb.cmn
  currentDnode : after.scb.currentDnode = before.scb.currentDnode
  received : after.rcb = before.rcb
  resetTimer : after.scb.resetTimer = before.scb.resetTimer ∧ armedAfter = armedAt
  waitRestartTimer : after.scb.waitRestartTimer = before.scb.waitRestartTimer
  timerBtwn2Frags : after.scb.timerBtwn2Frags = before.scb.timerBtwn2Frags

/-- A request repeats the session in progress: it has the same callback and fragment size,
and a payload that fits is the beginning of the datagram, at the time the timer was armed. -/
structure RepeatsSession
    (service : Service)
    (payload : List UInt8)
    (maxFrameLen : Nat)
    (onSendComplete : Option Nat)
    (armedAt now : Nat) : Prop where
  callback : onSendComplete = service.onSendCompleteCb
  maxFragmentSize : (maxFrameLen + 2 ^ 16 - 7) % 2 ^ 16 = service.maxFragmentSize
  payload : payload.length ≤ payloadSizeMax ->
    payload <+: service.scb.datagram ∧ service.scb.resetTimer = some resetTime ∧ now = armedAt

theorem transportServiceSendData_of_inProgress {service : Service} (inProgress : service.InProgress)
    (source dest : Nat) (payload : List UInt8) (maxFrameLen : Nat) (onSendComplete : Option Nat)
    (now : Nat) (accepted : Bool) :
    service.transportServiceSendData source dest payload maxFrameLen onSendComplete now
        accepted =
      (if payloadSizeMax < payload.length then .willOverflow else .busy,
        service.takeRequest payload maxFrameLen onSendComplete) := by
  have sameState :
      (service.takeRequest payload maxFrameLen onSendComplete).currentState =
        service.currentState := by
    unfold takeRequest armResetTimer
    split <;> rfl
  unfold transportServiceSendData
  dsimp only
  rw [sameState]
  split
  · rfl
  · rcases inProgress with sending | receiving
    · rw [if_pos sending]
    · rw [if_pos receiving]
      split <;> rfl

/-- A request that is rejected while a session is in progress leaves the session as it was
exactly when it repeats the session. -/
theorem rejected_keeps_session_iff {service : Service} (inProgress : service.InProgress)
    (source dest : Nat) (payload : List UInt8) (maxFrameLen : Nat) (onSendComplete : Option Nat)
    (armedAt now : Nat) (accepted : Bool) :
    let answer :=
      service.transportServiceSendData source dest payload maxFrameLen onSendComplete now
        accepted
    answer.1 ≠ .sendSuccess ∧
      (SessionKept service answer.2 armedAt (resetTimerArmedAt payload armedAt now) ↔
        service.RepeatsSession payload maxFrameLen onSendComplete armedAt now) := by
  intro answer
  have isAnswer : answer = _ :=
    transportServiceSendData_of_inProgress inProgress source dest payload maxFrameLen
      onSendComplete now accepted
  rw [isAnswer]
  refine ⟨by dsimp only; split <;> decide, ?_⟩
  by_cases tooLong : payloadSizeMax < payload.length
  · have unarmed : service.takeRequest payload maxFrameLen onSendComplete =
        { service with
          onSendCompleteCb := onSendComplete
          maxFragmentSize := (maxFrameLen + 2 ^ 16 - 7) % 2 ^ 16 } := if_pos tooLong
    dsimp only
    rw [unarmed, resetTimerArmedAt, if_pos tooLong]
    constructor
    · intro kept
      exact ⟨kept.callback, kept.maxFragmentSize, fun fits => absurd tooLong (by omega)⟩
    · intro repeats
      exact ⟨rfl, rfl, repeats.callback, repeats.maxFragmentSize, rfl, rfl, rfl, ⟨rfl, rfl⟩,
        rfl, rfl⟩
  · have armed : service.takeRequest payload maxFrameLen onSendComplete =
        { service with
          onSendCompleteCb := onSendComplete
          maxFragmentSize := (maxFrameLen + 2 ^ 16 - 7) % 2 ^ 16
          scb :=
            { service.scb with
              datagram := payload ++ service.scb.datagram.drop payload.length
              resetTimer := some resetTime } } := if_neg tooLong
    dsimp only
    rw [armed, resetTimerArmedAt, if_neg tooLong]
    constructor
    · intro kept
      refine ⟨kept.callback, kept.maxFragmentSize, fun _ => ⟨?_, ?_, kept.resetTimer.2⟩⟩
      · exact List.prefix_iff_eq_append.mpr kept.datagram
      · exact kept.resetTimer.1.symm
    · intro repeats
      obtain ⟨isPrefix, isArmed, isNow⟩ := repeats.payload (by omega)
      exact ⟨List.prefix_iff_eq_append.mp isPrefix, rfl, repeats.callback,
        repeats.maxFragmentSize, rfl, rfl, rfl, ⟨isArmed.symm, isNow⟩, rfl, rfl⟩

/-- A service that waits for the completion of a datagram of two bytes. -/
def sampleWaiting : Service :=
  { Service.unused with
    currentState := .waitAck
    maxFragmentSize := 39
    onSendCompleteCb := some 1
    scb :=
      { Service.unused.scb with
        datagram := [0x25, 0x01]
        datagramLen := 2
        resetTimer := some resetTime } }

/-- The same request at the same time changes nothing. -/
theorem rejected_keeps_session_repeated :
    SessionKept sampleWaiting
      (sampleWaiting.transportServiceSendData 1 2 [0x25, 0x01] 46 (some 1) 10 true).2 10
      (resetTimerArmedAt [0x25, 0x01] 10 10) :=
  (rejected_keeps_session_iff (show sampleWaiting.InProgress from Or.inl rfl) 1 2 [0x25, 0x01]
    46 (some 1) 10 10 true).2.mpr
    ⟨rfl, rfl, fun _ => ⟨⟨[], rfl⟩, rfl, rfl⟩⟩

/-- A request of another user replaces the callback and the bytes, and one that is too long
replaces the callback. -/
theorem not_sessionKept_otherRequest :
    ¬SessionKept sampleWaiting
        (sampleWaiting.transportServiceSendData 1 3 [0x26, 0x02] 46 (some 2) 20 true).2 10
        (resetTimerArmedAt [0x26, 0x02] 10 20) ∧
      ¬SessionKept sampleWaiting
        (sampleWaiting.transportServiceSendData 1 3 (List.replicate 201 0) 46 (some 2) 20
          true).2 10 (resetTimerArmedAt (List.replicate 201 0) 10 20) := by
  constructor
  all_goals
    intro kept
    have same := kept.callback
    revert same
    decide +kernel

end Service

end TransportService
