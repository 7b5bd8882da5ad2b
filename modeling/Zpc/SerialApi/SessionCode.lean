import Mathlib.Data.List.Perm.Subperm
import Zpc.Foundation.Program
import Zpc.SerialApi.Session

/-!
# The code of the session

The functions of `zwapi_session.c` as programs, with every `pthread_mutex_lock` and
`pthread_mutex_unlock` of `session_serial_mutex` as a call of its own.  Any number of threads
run them, one call at a time, and a thread that wants the mutex waits while another has it.
What the connection and the timers answer comes with the action, so that every sequence of
outcomes is a run.

A notification reads and sets `zwapi_session_connection_lost` in one call, since it does so
under the mutex.  The upper layer does not come back into the session from the callbacks.
-/

namespace SerialApi

open Foundation

/-- The statuses that the session returns. -/
inductive SlStatus
  | ok
  | fail
  deriving DecidableEq

namespace SessionCode

/-- What the functions of the session call.  The return of `send_frame` is noted. -/
inductive Call
  | lock
  | unlock
  | readConnectionLost
  | writeConnectionLost (lost : Bool)
  | exchangeConnectionLost
  | connectionLostCallback
  | pollRequest
  | rxQueueLength
  | pushRxFrame (frame : List UInt8)
  | popRxFrame
  | connectionInit
  | connectionShutdown
  | connectionRestart
  | connectionRefresh
  | connectionTx (command : UInt8) (payload : List UInt8) (ackNeeded : Bool)
  | getLastRxFrame
  | isTimestampElapsed
  | sendFrameReturns (status : SlStatus)

/-- What comes back from a call. -/
abbrev Answer : Call -> Type
  | .readConnectionLost => Bool
  | .exchangeConnectionLost => Bool
  | .rxQueueLength => Nat
  | .popRxFrame => Option (List UInt8)
  | .connectionInit => Int
  | .connectionRestart => Int
  | .connectionRefresh => ConnectionStatus
  | .connectionTx _ _ _ => ConnectionStatus
  | .getLastRxFrame => List UInt8
  | .isTimestampElapsed => Bool
  | _ => Unit

/-- A function of the session with its result. -/
abbrev Code (α : Type) := Program Call Answer α

/-- A call with its answer. -/
def ask (request : Call) : Code (Answer request) := Program.ask request

/-- `zwapi_session_enqueue_frame`. -/
def enqueueFrame : Code Unit := do
  let length : Nat ← ask .rxQueueLength
  if maxRxQueueLength ≤ length then pure ()
  else
    let frame : List UInt8 ← ask .getLastRxFrame
    if isRequest frame then
      ask (.pushRxFrame frame)
      ask .pollRequest
    else pure ()

/-- One round of `zwapi_session_wait_for_response`. -/
def waitRound (_ : Unit) : Code (Unit ⊕ ConnectionStatus) := do
  let status : ConnectionStatus ← ask .connectionRefresh
  if status ≠ .idle then pure (.inr status)
  else
    let elapsed : Bool ← ask .isTimestampElapsed
    if elapsed then pure (.inr .rxTimeout) else pure (.inl ())

/-- `zwapi_session_wait_for_response`. -/
def waitForResponse : Code ConnectionStatus := Program.repeating waitRound ()

/-- One round of `enqueue_rx_frames`. -/
def drainRound (_ : Unit) : Code (Unit ⊕ Bool) := do
  let status : ConnectionStatus ← ask .connectionRefresh
  if status = .frameReceived then
    enqueueFrame
    pure (.inl ())
  else pure (.inr (decide (status = .connectionLost)))

def enqueueRxFrames : Code Bool := Program.repeating drainRound ()

/-- `zwapi_session_notify_connection_lost`. -/
def notifyConnectionLost : Code Unit := do
  ask .lock
  let wasLost : Bool ← ask .exchangeConnectionLost
  ask .unlock
  if wasLost then pure () else ask .connectionLostCallback

/-- `zwapi_session_init`. -/
def init : Code Unit := do
  let status : Int ← ask .connectionInit
  ask (.writeConnectionLost (decide (status ≤ 0)))

/-- One round of `zwapi_session_flush_queue`. -/
def flushRound (_ : Unit) : Code (Unit ⊕ Unit) := do
  let frame : Option (List UInt8) ← ask .popRxFrame
  if frame.isSome then pure (.inl ()) else pure (.inr ())

/-- `zwapi_session_flush_queue`. -/
def flushQueue : Code Unit := Program.repeating flushRound ()

/-- `zwapi_session_shutdown`. -/
def shutdown : Code Unit := do
  flushQueue
  ask .connectionShutdown

/-- `zwapi_session_restart`. -/
def restart : Code Unit := do
  let status : Int ← ask .connectionRestart
  if status ≤ 0 then notifyConnectionLost else pure ()

/-- `zwapi_session_dequeue_frame`. -/
def dequeueFrame : Code Unit := do
  let _frame : Option (List UInt8) ← ask .popRxFrame
  pure ()

/-- `zwapi_session_enqueue_rx_frames`. -/
def pollRxFrames : Code Unit := do
  ask .lock
  let connectionLost ← enqueueRxFrames
  ask .unlock
  if connectionLost then notifyConnectionLost else pure ()

/-- The variables of the loop of `send_frame`. -/
structure Attempts where
  i : Nat
  consecutiveTxTimeoutCount : Nat
  onlyTimeouts : Bool

/-- How the loop of `send_frame` ends: the function returns from it, or all attempts have
failed. -/
inductive LoopExit
  | returned (status : SlStatus)
  | exhausted (onlyTimeouts : Bool)

/-- One round of the back-off. -/
def backoffRound (_ : Unit) : Code (Unit ⊕ Bool) := do
  let elapsed : Bool ← ask .isTimestampElapsed
  if elapsed then pure (.inr false)
  else
    ask .lock
    let connectionLost ← enqueueRxFrames
    ask .unlock
    if connectionLost then
      notifyConnectionLost
      pure (.inr true)
    else pure (.inl ())

/-- The back-off between two attempts, with whether the connection is lost. -/
def backoff : Code Bool := Program.repeating backoffRound ()

/-- The end of a round of the loop of `send_frame`. -/
def nextAttempt (attempts : Attempts) (doBackoff : Bool) : Code (Attempts ⊕ LoopExit) := do
  ask .unlock
  if doBackoff then
    let connectionLost ← backoff
    if connectionLost then pure (.inr (.returned .fail))
    else pure (.inl { attempts with i := attempts.i + 1 })
  else pure (.inl { attempts with i := attempts.i + 1 })

/-- The switch of `send_frame` over what came of an attempt. -/
def afterAttempt (attempts : Attempts) : ConnectionStatus -> Code (Attempts ⊕ LoopExit)
  | .frameSent => pure (.inr (.returned .ok))
  | .frameReceived => do
      enqueueFrame
      nextAttempt { attempts with consecutiveTxTimeoutCount := 0 } true
  | .txCan => nextAttempt { attempts with consecutiveTxTimeoutCount := 0 } true
  | .txTimeout =>
      if maxTxTimeouts ≤ attempts.consecutiveTxTimeoutCount + 1 then do
        let connectionFd : Int ← ask .connectionRestart
        ask .unlock
        if connectionFd ≤ 0 then
          notifyConnectionLost
          pure (.inr (.returned .fail))
        else pure (.inr (.returned .fail))
      else
        nextAttempt
          { attempts with consecutiveTxTimeoutCount := attempts.consecutiveTxTimeoutCount + 1 }
          true
  | .rxTimeout => nextAttempt attempts false
  | .txNak => do
      ask .unlock
      pure (.inr (.returned .fail))
  | .connectionLost => do
      ask .unlock
      notifyConnectionLost
      pure (.inr (.returned .fail))
  | .idle => nextAttempt attempts true
  | .checksumError => nextAttempt attempts true

variable (command : UInt8)

/-- A transmission, with what comes of it. -/
def transmit (payload : List UInt8) : Code ConnectionStatus := do
  let sent : ConnectionStatus ← ask (.connectionTx command payload true)
  if sent ≠ .connectionLost then waitForResponse else pure sent

/-- One round of the loop of `send_frame`. -/
def attemptRound (payload : List UInt8) (attempts : Attempts) : Code (Attempts ⊕ LoopExit) :=
  if maxTransmissionRetries ≤ attempts.i then pure (.inr (.exhausted attempts.onlyTimeouts))
  else do
    ask .lock
    let connectionLost : Bool ← ask .readConnectionLost
    if connectionLost then
      ask .unlock
      pure (.inr (.returned .fail))
    else
      let status ← transmit command payload
      afterAttempt
        { attempts with
          onlyTimeouts := attempts.onlyTimeouts && (status = .rxTimeout || status = .txTimeout) }
        status

/-- `send_frame` up to its return. -/
def sendFrameBody (payload : List UInt8) : Code SlStatus := do
  ask .lock
  let connectionLost ← enqueueRxFrames
  let wasLost : Bool ← ask .readConnectionLost
  ask .unlock
  if connectionLost then
    notifyConnectionLost
    pure .fail
  else if wasLost then pure .fail
  else
    let ended ← Program.repeating (attemptRound command payload) ⟨0, 0, true⟩
    match ended with
    | .returned status => pure status
    | .exhausted true => do
        notifyConnectionLost
        pure .fail
    | .exhausted false => pure .fail

/-- `send_frame`. -/
def sendFrameInternal (payload : List UInt8) : Code SlStatus := do
  let status ← sendFrameBody command payload
  ask (.sendFrameReturns status)
  pure status

/-- `zwapi_session_send_frame`. -/
def sendFrame (payload : List UInt8) : Code SlStatus := do
  let status ← sendFrameInternal command payload
  if status = .ok then
    ask .unlock
    pure status
  else pure status

/-- How the wait for a response ends: with the response, without one, or with the loss of the
connection. -/
inductive ResponseWait
  | response (frame : List UInt8)
  | nothing
  | connectionLost

/-- One round of the loop of `zwapi_session_send_frame_with_response`. -/
def responseRound (i : Nat) : Code (Nat ⊕ ResponseWait) :=
  if maxRxFramesWaitingForResponse ≤ i then pure (.inr .nothing)
  else do
    let status ← waitForResponse
    if status = .frameReceived then
      let frame : List UInt8 ← ask .getLastRxFrame
      if frameLengthMin.toNat ≤ frame.length then
        if isResponse frame then
          if frame[2]? = some command then pure (.inr (.response frame))
          else pure (.inl (i + 1))
        else
          enqueueFrame
          pure (.inl (i + 1))
      else pure (.inl (i + 1))
    else if status = .connectionLost then pure (.inr .connectionLost)
    else pure (.inl (i + 1))

/-- `zwapi_session_send_frame_with_response`, with the response when it returns
`SL_STATUS_OK`. -/
def sendFrameWithResponse (payload : List UInt8) : Code (Option (List UInt8)) := do
  let status ← sendFrameInternal command payload
  if status ≠ .ok then pure none
  else
    let waited ← Program.repeating (responseRound command) 0
    ask .unlock
    match waited with
    | .response frame => pure (some frame)
    | .nothing => pure none
    | .connectionLost => do
        notifyConnectionLost
        pure none

/-- `zwapi_session_send_frame_no_ack`. -/
def sendFrameNoAck (payload : List UInt8) : Code SlStatus := do
  ask .lock
  let connectionLost ← enqueueRxFrames
  let wasLost : Bool ← ask .readConnectionLost
  if connectionLost || wasLost then
    ask .unlock
    if connectionLost then
      notifyConnectionLost
      pure .fail
    else pure .fail
  else
    let status : ConnectionStatus ← ask (.connectionTx command payload false)
    ask .unlock
    if status = .connectionLost then
      notifyConnectionLost
      pure .fail
    else pure .ok

/-- A public function of the session. -/
inductive Operation
  | init
  | shutdown
  | restart
  | notifyConnectionLost
  | dequeueFrame
  | enqueueRxFrames
  | sendFrame (command : UInt8) (payload : List UInt8)
  | sendFrameWithResponse (command : UInt8) (payload : List UInt8)
  | sendFrameNoAck (command : UInt8) (payload : List UInt8)
  | flushQueue

/-- A function whose result nobody looks at. -/
def discarding {α : Type} (code : Code α) : Code Unit := do
  let _result ← code
  pure ()

/-- The code of a public function. -/
def codeOf : Operation -> Code Unit
  | .init => init
  | .shutdown => shutdown
  | .restart => restart
  | .notifyConnectionLost => notifyConnectionLost
  | .dequeueFrame => dequeueFrame
  | .enqueueRxFrames => pollRxFrames
  | .sendFrame command payload => discarding (sendFrame command payload)
  | .sendFrameWithResponse command payload => discarding (sendFrameWithResponse command payload)
  | .sendFrameNoAck command payload => discarding (sendFrameNoAck command payload)
  | .flushQueue => flushQueue

/-- What the connection and the timers may answer. -/
structure Reply where
  status : ConnectionStatus
  fileDescriptor : Int
  frame : List UInt8
  elapsed : Bool

/-- The variables of the session, what its threads have left to do, and a record with the
newest entries first: how often the connection was established, the threads that found it lost
when it was not known to be, and the threads that called the callback. -/
structure System where
  threads : Nat -> Code Unit
  serialMutex : Option Nat
  connectionLost : Bool
  rxQueue : List (List UInt8)
  openings : Nat
  losses : List Nat
  notices : List Nat

namespace System

/-- The state before anything is called. -/
def initial : System where
  threads := fun _ => .finish ()
  serialMutex := none
  connectionLost := false
  rxQueue := []
  openings := 0
  losses := []
  notices := []

variable (sys : System)

/-- A thread goes on with some code. -/
def resume (thread : Nat) (code : Code Unit) : System :=
  { sys with threads := Function.update sys.threads thread code }

/-- What a call of a thread does, or nothing when the thread has to wait. -/
def perform (thread : Nat) (reply : Reply) : (request : Call) -> Option (Answer request × System)
  | .lock =>
      if sys.serialMutex = none then some ((), { sys with serialMutex := some thread })
      else none
  | .unlock => some ((), { sys with serialMutex := none })
  | .readConnectionLost => some (sys.connectionLost, sys)
  | .writeConnectionLost lost =>
      some ((),
        { sys with
          connectionLost := lost
          openings := if lost then sys.openings else sys.openings + 1 })
  | .exchangeConnectionLost =>
      some (sys.connectionLost,
        { sys with
          connectionLost := true
          losses := if sys.connectionLost then sys.losses else thread :: sys.losses })
  | .connectionLostCallback => some ((), { sys with notices := thread :: sys.notices })
  | .pollRequest => some ((), sys)
  | .rxQueueLength => some (sys.rxQueue.length, sys)
  | .pushRxFrame frame => some ((), { sys with rxQueue := sys.rxQueue ++ [frame] })
  | .popRxFrame => some (sys.rxQueue.head?, { sys with rxQueue := sys.rxQueue.tail })
  | .connectionInit => some (reply.fileDescriptor, sys)
  | .connectionShutdown => some ((), sys)
  | .connectionRestart => some (reply.fileDescriptor, sys)
  | .connectionRefresh => some (reply.status, sys)
  | .connectionTx _ _ _ => some (reply.status, sys)
  | .getLastRxFrame => some (reply.frame, sys)
  | .isTimestampElapsed => some (reply.elapsed, sys)
  | .sendFrameReturns _ => some ((), sys)

/-- The next step of a thread. -/
def advance (thread : Nat) (reply : Reply) : System :=
  match sys.threads thread with
  | .finish _ => sys
  | .loop body start next => sys.resume thread (Program.unroll body start next)
  | .call request next =>
      match sys.perform thread reply request with
      | none => sys
      | some (answer, after) => after.resume thread (next answer)

/-- What can happen next: a thread that is done calls another function, or a thread takes its
next step. -/
inductive Action
  | start (thread : Nat) (operation : Operation)
  | advance (thread : Nat) (reply : Reply)

/-- One step of the session. -/
def step : Action -> System
  | .start thread operation =>
      match sys.threads thread with
      | .finish _ => sys.resume thread (codeOf operation)
      | _ => sys
  | .advance thread reply => sys.advance thread reply

end System

end SessionCode

end SerialApi
