import Zpc.TransportService.CallEffects
import Zpc.TransportService.SendCompletions
import Zpc.TransportService.SessionData

/-!
# Segment Waits

Outside a sending session a Segment Wait divides the size of the datagram by the size of the
last fragment.  Until the first frame has reached `receive` there is no such fragment, and
the session id is not the one that stands for no session.
-/

namespace TransportService

open Foundation

namespace Service

/-- `send_frag_wait_cmd` divides by the size of the last fragment. -/
def Divides (service : Service) : Prop :=
  service.scb.sending = false ∧ service.rcb.cmn.sessionId ≠ noSessionId

instance (service : Service) : Decidable service.Divides := inferInstanceAs (Decidable (_ ∧ _))

theorem sendFragWaitCmd_pendingSegments {service : Service} (divides : service.Divides)
    (accepted : Bool) :
    (service.sendFragWaitCmd accepted).rcb.cmn.pendingSegments =
      pendingSegments service.rcb.datagramSize service.rcb.curRecvdDataSize := by
  unfold sendFragWaitCmd
  extract_lets armed waitFrame pending _ _ counted
  have isIdle : ¬armed.scb.sending = true := Bool.eq_false_iff.mp divides.1
  have isOpen : armed.rcb.cmn.sessionId ≠ noSessionId := divides.2
  rw [if_neg isIdle, rcb_postEvent]
  have handed : (counted.lowerLayerSendData accepted (waitFrame pending .none)).rcb =
      counted.rcb := by
    unfold lowerLayerSendData
    split <;> rfl
  rw [handed]
  exact if_neg isOpen

end Service

namespace Wrapper

/-- No Segment Wait of a step divides by zero. -/
def NeverDividesByZero (wrapper : Wrapper) (action : Action) : Prop :=
  ∀ service : Service, .sendFragWaitCmd service ∈ wrapper.internalCalls action ->
    service.Divides -> service.rcb.curRecvdDataSize ≠ 0

/-- A Segment Wait that divides is sent when a frame has reached `receive` already. -/
def WaitsInitialized (wrapper : Wrapper) (action : Action) : Prop :=
  ∀ service : Service, .sendFragWaitCmd service ∈ wrapper.internalCalls action ->
    service.Divides -> service.flagInitializeOnce = false

variable {wrapper : Wrapper}

theorem neverDividesByZero_iff (sound : wrapper.Sound) (action : Action) :
    wrapper.NeverDividesByZero action ↔ wrapper.WaitsInitialized action := by
  constructor
  · intro never service called divides
    have soundCall : service.Sound := sound.internalCalls action _ called
    rw [Bool.eq_false_iff]
    intro isFirst
    exact never service called divides (soundCall.unmeasured isFirst)
  · intro initialized service called divides
    have soundCall : service.Sound := sound.internalCalls action _ called
    exact soundCall.measured (initialized service called divides) divides.2

/-- In every run, no Segment Wait divides by zero exactly when every Segment Wait that
divides is sent after a frame has reached `receive`. -/
theorem waits_never_divide_by_zero_iff (actions : List Action) :
    StepsMeet step NeverDividesByZero initial actions ↔
      StepsMeet step WaitsInitialized initial actions :=
  stepsMeet_iff_of_invariant Sound (fun _ action sound => sound.step action)
    (fun _ action sound => neverDividesByZero_iff sound action) initial_sound actions

/-- Two fragments of a datagram are sent, and before any answer a third node sends a
frame. -/
def thirdNodeFirstRun : List Action :=
  [.sendData sampleSurroundings sampleRequest 40 true, .lowerLayerCompletion 0 50 true,
    .timerExpiration .btwn2Frags 60 true true, .lowerLayerCompletion 0 70 true,
    .frameReceived 9 1 .singlecast [0x55, 0xC0, 0x00, 0x00] 80 true true]

/-- Whether an inner call divides by zero. -/
def dividesByZero : InternalCall -> Bool
  | .replyFragReq _ => false
  | .sendFragWaitCmd service => decide service.Divides && service.rcb.curRecvdDataSize == 0

theorem NeverDividesByZero.not_any {action : Action} (never : wrapper.NeverDividesByZero action) :
    (wrapper.internalCalls action).any dividesByZero = false := by
  rw [List.any_eq_false]
  intro call called divides
  cases call with
  | replyFragReq service => cases divides
  | sendFragWaitCmd service =>
    simp only [dividesByZero, Bool.and_eq_true, decide_eq_true_eq, beq_iff_eq] at divides
    exact never service called divides.1 divides.2

/-- The Segment Wait to the third node divides by zero. -/
theorem not_neverDividesByZero_thirdNodeFirst :
    ¬StepsMeet step NeverDividesByZero initial thirdNodeFirstRun := by
  rintro ⟨_, _, _, _, never, _⟩
  have divides :
      ((run step initial (thirdNodeFirstRun.take 4)).internalCalls
        (.frameReceived 9 1 .singlecast [0x55, 0xC0, 0x00, 0x00] 80 true true)).any
          dividesByZero = true := by
    decide +kernel
  exact absurd divides (Bool.eq_false_iff.mp (NeverDividesByZero.not_any never))

end Wrapper

end TransportService
