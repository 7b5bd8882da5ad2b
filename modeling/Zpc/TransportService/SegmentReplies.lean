import Zpc.TransportService.CallEffects
import Zpc.TransportService.SendCompletions
import Zpc.TransportService.SessionData

/-!
# Replies to Segment Requests

A Segment Request names the offset of the bytes to send again in eleven bits, which can lie
behind the end of the datagram.  The reply stays inside the datagram and the transmit buffer
exactly when the offset does not.
-/

namespace TransportService

open Foundation

/-- The size of `t2_txBuf`. -/
def txBufSize : Nat := payloadSizeMax + 7

namespace Service

/-- The receiver has not reported the datagram complete. -/
def BuildsReply (service : Service) : Prop :=
  service.scb.fragComplList.getD service.scb.cmn.sessionId 0 ≠ 1

instance (service : Service) : Decidable service.BuildsReply := inferInstanceAs (Decidable (_ ≠ _))

/-- What a reply reads lies inside the datagram and its buffer, what it writes inside the
transmit buffer, and no subtraction wraps. -/
structure RepliesInside (service after : Service) : Prop where
  fragment : after.scb.datalenToSend ≤ service.maxFragmentSize
  datagram : service.scb.missingOffset + after.scb.datalenToSend ≤ service.scb.datagramLen
  datagramBuffer : service.scb.missingOffset + after.scb.datalenToSend ≤ payloadSizeMax
  transmitBuffer : 5 + after.scb.datalenToSend + 2 ≤ txBufSize
  unwrapped :
    service.scb.datagramLen < service.scb.missingOffset + service.maxFragmentSize ->
      service.scb.missingOffset ≤ service.scb.datagramLen

/-- The length `reply_frag_req` takes. -/
def replyLength (service : Service) : Nat :=
  if service.scb.datagramLen < service.scb.missingOffset + service.maxFragmentSize then
    (service.scb.datagramLen + 2 ^ 16 - service.scb.missingOffset) % 2 ^ 16
  else service.maxFragmentSize

variable (service : Service) (accepted : Bool)

@[simp] theorem lowerLayerSendData_scb (frame : LowerLayerFrame) :
    (service.lowerLayerSendData accepted frame).scb = service.scb := by
  unfold lowerLayerSendData
  split <;> rfl

@[simp] theorem reportCompletion_scb (status : Nat) :
    (service.reportCompletion status).scb = service.scb := by
  unfold reportCompletion
  split <;> rfl

theorem sendLastFrag_datalenToSend :
    (service.sendLastFrag accepted).scb.datalenToSend = service.scb.datalenToSend := by
  unfold sendLastFrag
  extract_lets _ _ _ started frame offered
  have handed : offered.scb = started.scb := lowerLayerSendData_scb _ _ _
  have begins : offered.scb.datalenToSend = service.scb.datalenToSend := by rw [handed]
  split
  · exact begins
  · split
    · simpa [armResetTimer] using begins
    · exact begins

theorem replyFragReq_datalenToSend {service : Service} (builds : service.BuildsReply)
    (accepted : Bool) :
    (service.replyFragReq accepted).scb.datalenToSend = service.replyLength := by
  unfold replyFragReq
  extract_lets length _ sized built _ marked _ callback offered
  rw [if_neg builds]
  split
  · exact (sendLastFrag_datalenToSend _ accepted).trans
      (congrArg (·.datalenToSend) (scb_postEvent _ _))
  · exact congrArg (·.datalenToSend) (lowerLayerSendData_scb built _ _)

theorem repliesInside_iff {service after : Service} (sound : service.Sound)
    (length : after.scb.datalenToSend = service.replyLength) :
    service.RepliesInside after ↔ service.scb.missingOffset ≤ service.scb.datagramLen := by
  have fits : service.scb.datagramLen ≤ 200 := sound.fits
  constructor
  · intro inside
    by_cases isLast : service.scb.datagramLen < service.scb.missingOffset + service.maxFragmentSize
    · exact inside.unwrapped isLast
    · omega
  · intro within
    have short : service.replyLength ≤ service.maxFragmentSize ∧
        service.scb.missingOffset + service.replyLength ≤ service.scb.datagramLen := by
      unfold replyLength
      split
      · have unwrapped : (service.scb.datagramLen + 2 ^ 16 - service.scb.missingOffset) % 2 ^ 16 =
            service.scb.datagramLen - service.scb.missingOffset := by omega
        rw [unwrapped]
        omega
      · omega
    rw [← length] at short
    refine ⟨short.1, short.2, Nat.le_trans short.2 fits, ?_, fun _ => within⟩
    unfold txBufSize payloadSizeMax
    omega

end Service

namespace Wrapper

/-- The replies of a step stay inside the datagram and the transmit buffer. -/
def RepliesStayInside (wrapper : Wrapper) (action : Action) : Prop :=
  ∀ service : Service, .replyFragReq service ∈ wrapper.internalCalls action ->
    service.BuildsReply -> service.RepliesInside (wrapper.step action).service

/-- No reply of a step is asked for an offset behind the end of the datagram. -/
def OffsetsStayInside (wrapper : Wrapper) (action : Action) : Prop :=
  ∀ service : Service, .replyFragReq service ∈ wrapper.internalCalls action ->
    service.BuildsReply -> service.scb.missingOffset ≤ service.scb.datagramLen

variable {wrapper : Wrapper}

theorem repliesStayInside_iff (sound : wrapper.Sound) (action : Action) :
    wrapper.RepliesStayInside action ↔ wrapper.OffsetsStayInside action := by
  have each {service : Service}
      (called : .replyFragReq service ∈ wrapper.internalCalls action)
      (builds : service.BuildsReply) :
      service.RepliesInside (wrapper.step action).service ↔
        service.scb.missingOffset ≤ service.scb.datagramLen := by
    have performed := step_of_call called
    exact Service.repliesInside_iff (sound.internalCalls action _ called)
      (performed.datalenToSend.trans
        (Service.replyFragReq_datalenToSend builds action.accepted))
  constructor
  · intro inside service called builds
    exact (each called builds).mp (inside service called builds)
  · intro within service called builds
    exact (each called builds).mpr (within service called builds)

/-- In every run, the replies to Segment Requests stay inside the datagram and the transmit
buffer exactly when no reply is asked for an offset behind the end of the datagram. -/
theorem replies_stay_inside_iff (actions : List Action) :
    StepsMeet step RepliesStayInside initial actions ↔
      StepsMeet step OffsetsStayInside initial actions :=
  stepsMeet_iff_of_invariant Sound (fun _ action sound => sound.step action)
    (fun _ action sound => repliesStayInside_iff sound action) initial_sound actions

/-- Two fragments of a datagram of a hundred bytes are sent, and the receiver asks for the
bytes from the offset 2047 on. -/
def offsetBehindEndRun : List Action :=
  [.sendData sampleSurroundings sampleRequest 40 true, .lowerLayerCompletion 0 50 true,
    .timerExpiration .btwn2Frags 60 true true, .lowerLayerCompletion 0 70 true,
    .frameReceived 5 1 .singlecast [0x55, 0xC8, 0x07, 0xFF] 80 true true]

/-- Whether an inner call builds a reply. -/
def buildsReply : InternalCall -> Bool
  | .replyFragReq service => decide service.BuildsReply
  | .sendFragWaitCmd _ => false

theorem RepliesStayInside.datalenToSend_le {action : Action}
    (inside : wrapper.RepliesStayInside action)
    (builds : (wrapper.internalCalls action).any buildsReply = true) :
    (wrapper.step action).service.scb.datalenToSend ≤ payloadSizeMax := by
  obtain ⟨call, called, isReply⟩ := List.any_eq_true.mp builds
  cases call with
  | replyFragReq service =>
    have within := (inside service called (of_decide_eq_true isReply)).datagramBuffer
    omega
  | sendFragWaitCmd service => cases isReply

/-- The length wraps, and the reply reads behind the datagram. -/
theorem not_repliesStayInside_offsetBehindEnd :
    ¬StepsMeet step RepliesStayInside initial offsetBehindEndRun := by
  rintro ⟨_, _, _, _, inside, _⟩
  have builds :
      ((run step initial (offsetBehindEndRun.take 4)).internalCalls
        (.frameReceived 5 1 .singlecast [0x55, 0xC8, 0x07, 0xFF] 80 true true)).any
          buildsReply = true := by
    decide +kernel
  have long : payloadSizeMax < (run step initial offsetBehindEndRun).service.scb.datalenToSend := by
    decide +kernel
  have short := RepliesStayInside.datalenToSend_le inside builds
  exact absurd long (Nat.not_lt.mpr short)

end Wrapper

end TransportService
