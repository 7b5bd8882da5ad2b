import Zpc.SerialApi.Connection
import Zpc.Foundation.LinkedQueue
import Zpc.Foundation.Run
import Mathlib.Logic.Function.Basic

/-!
# The session above the connection

`zwapi_session.c` queues the REQUEST frames it receives and retransmits the
frames it sends until the module acknowledges them.  Any number of threads use
it.  A thread takes one step at a time: one call of `zwapi_connection_refresh` or
`zwapi_connection_tx`, with what the code does with the result.  Between two
steps the other threads run, unless the thread holds `session_serial_mutex`.

The queue is a linked list.  `zwapi_session_dequeue_frame` does not take the mutex,
so it and `zwapi_session_enqueue_frame` are run one access to the list at a time.
Nothing is said about what comes after an access to an element that was freed or
through a null pointer.
-/

namespace SerialApi

open Foundation

def timeoutTime : Nat := 1600

def maxRxQueueLength : Nat := 64

def maxTransmissionRetries : Nat := 20

def maxRxFramesWaitingForResponse : Nat := 3

def maxTxTimeouts : Nat := 3

def frameTypeRequest : UInt8 := 0x00

def frameTypeResponse : UInt8 := 0x01

/-- The frame has the type REQUEST at `IDX_TYPE`. -/
def isRequest (frame : List UInt8) : Bool := frame[1]? == some frameTypeRequest

/-- The frame has the type RESPONSE at `IDX_TYPE`. -/
def isResponse (frame : List UInt8) : Bool := frame[1]? == some frameTypeResponse

/-- The arguments and the local variables of `send_frame`. -/
structure Transmission where
  command : UInt8
  payload : List UInt8
  withResponse : Bool
  attempts : Nat
  consecutiveTxTimeoutCount : Nat
  onlyTimeouts : Bool
  deriving DecidableEq

/-- What a thread goes on with when it has drained the line. -/
inductive Purpose
  | poll
  | beforeSend (transmission : Transmission)
  | beforeSendNoAck (command : UInt8) (payload : List UInt8)
  | backoff (transmission : Transmission) (retryTimer : Timestamp)
  deriving DecidableEq

/-- What a thread does next in `zwapi_session_enqueue_frame`, with the element it
has allocated and the one it looks at. -/
inductive Enqueue
  /-- It begins to count the elements. -/
  | begin
  | count (q : Option Nat) (len : Nat)
  /-- It asks whether the queue is empty. -/
  | choose (newElem : Nat)
  | setFirst (newElem : Nat)
  /-- It begins to look for the last element. -/
  | walkFromFirst (newElem : Nat)
  | walk (newElem e : Nat)
  | link (newElem e : Nat)
  deriving DecidableEq

/-- What a thread goes on with after `zwapi_session_enqueue_frame`. -/
inductive Resume
  | drain (purpose : Purpose)
  | backoff (transmission : Transmission)
  | awaitResponse (transmission : Transmission) (frames : Nat)
  deriving DecidableEq

/-- What the receiving thread does next in `zwapi_session_dequeue_frame`, with
`elem` and the link that it has read from it. -/
inductive Dequeue
  | idle
  | readNext (elem : Nat)
  | setFirst (elem : Nat) (next : Option Nat)
  | free (elem : Nat)

/-- Where a thread is. -/
inductive Phase
  | idle
  | notifyConnectionLost
  | drain (purpose : Purpose)
  | attempt (transmission : Transmission)
  | awaitAck (transmission : Transmission) (sessionTimer : Timestamp)
  | backoff (transmission : Transmission) (retryTimer : Timestamp)
  | awaitResponse (transmission : Transmission) (frames : Nat) (sessionTimer : Timestamp)
  | enqueueFrame (enqueue : Enqueue) (resume : Resume)
  deriving DecidableEq

/-- What has happened.  A frame is received when the connection reports it, and
the queue is full or not at that time. -/
inductive Event
  | received (frame : List UInt8) (queueFull : Bool)
  | dequeued (frame : List UInt8)
  | transmitted (thread : Nat) (command : UInt8)
  | acknowledged (thread : Nat) (command : UInt8)
  | returned (thread : Nat) (command : UInt8) (response : List UInt8)

/-- `zwapi_session_list_elem_t`. -/
abbrev ListElem := Cell Nat (List UInt8)

/-- The variables of the session, its threads, and what has happened. -/
structure Session where
  connection : Connection
  /-- `zwapi_session_rx_queue`. -/
  rxQueue : Option Nat
  /-- The elements at their addresses; nothing is at an address that is free. -/
  elements : Nat -> Option ListElem
  connectionLost : Bool
  /-- The thread that holds `session_serial_mutex`. -/
  serialMutex : Option Nat
  phase : Nat -> Phase
  dequeue : Dequeue
  /-- Memory was accessed that is not there. -/
  faulted : Bool
  history : List Event

namespace Session

/-- The session after `zwapi_session_init`. -/
def initial (line : Line) : Session where
  connection := .initial line
  rxQueue := none
  elements := fun _ => none
  connectionLost := false
  serialMutex := none
  phase := fun _ => .idle
  dequeue := .idle
  faulted := false
  history := []

/-- An event is added to the history. -/
def record (session : Session) (event : Event) : Session :=
  { session with history := session.history ++ [event] }

variable (session : Session)

/-- A thread goes on with the mutex. -/
def hold (thread : Nat) (phase : Phase) : Session :=
  { session with
    serialMutex := some thread
    phase := Function.update session.phase thread phase }

/-- A thread goes on without the mutex. -/
def release (thread : Nat) (phase : Phase) : Session :=
  { session with
    serialMutex := none
    phase := Function.update session.phase thread phase }

/-- A thread goes on and leaves the mutex alone. -/
def proceed (thread : Nat) (phase : Phase) : Session :=
  { session with phase := Function.update session.phase thread phase }

/-- The frame that the connection received last. -/
def lastRxFrame : List UInt8 := session.connection.getLastRxFrame frameLengthMax

/-- `zwapi_connection_refresh`. -/
def refresh (session : Session) : ConnectionStatus × Session :=
  let refreshed := { session with connection := session.connection.refresh.2 }
  (session.connection.refresh.1,
    if session.connection.refresh.1 = .frameReceived then
      refreshed.record (.received refreshed.lastRxFrame
        (reaches session.elements maxRxQueueLength session.rxQueue))
    else refreshed)

/-- An element is accessed that is not there. -/
def fault : Session := { session with faulted := true }

/-- The next access of `zwapi_session_dequeue_frame` to the queue.  The frame is
taken out when `zwapi_session_rx_queue` is written. -/
def dequeueFrame : Session :=
  match session.dequeue with
  | .idle =>
      match session.rxQueue with
      | none => session
      | some elem => { session with dequeue := .readNext elem }
  | .readNext elem =>
      match session.elements elem with
      | none => session.fault
      | some cell => { session with dequeue := .setFirst elem cell.next }
  | .setFirst elem next =>
      match session.elements elem with
      | none => session.fault
      | some cell =>
          { session with rxQueue := next, dequeue := .free elem }.record (.dequeued cell.item)
  | .free elem =>
      { session with elements := Function.update session.elements elem none, dequeue := .idle }

/-- `zwapi_connection_tx`, with a REQUEST. -/
def tx (session : Session) (thread : Nat) (command : UInt8) (payload : List UInt8)
    (ackNeeded fails : Bool) : ConnectionStatus × Session :=
  let sent := session.connection.tx command frameTypeRequest payload ackNeeded fails
  (sent.1, { session with connection := sent.2 }.record (.transmitted thread command))

/-- Whether a timer has elapsed. -/
def isElapsed (timer : Timestamp) : Bool :=
  isTimestampElapsed session.connection.line.clock timer

/-- A timer that starts now. -/
def startTimer (period : Nat) : Timestamp :=
  timestampGet session.connection.line.clock period

/-- The end of an iteration of the loop of `send_frame`. -/
def nextAttempt (transmission : Transmission) : Phase :=
  if transmission.attempts + 1 < maxTransmissionRetries then
    .attempt { transmission with attempts := transmission.attempts + 1 }
  else if transmission.onlyTimeouts then .notifyConnectionLost
  else .idle

/-- `enqueue_rx_frames` has returned. -/
def afterDrain (thread : Nat) (isLost fails : Bool) : Purpose -> Session
  | .poll => session.release thread (if isLost then .notifyConnectionLost else .idle)
  | .beforeSend transmission =>
      session.release thread
        (if isLost then .notifyConnectionLost
          else if session.connectionLost then .idle
          else .attempt transmission)
  | .beforeSendNoAck command payload =>
      if isLost then session.release thread .notifyConnectionLost
      else if session.connectionLost then session.release thread .idle
      else
        let sent := session.tx thread command payload false fails
        sent.2.release thread
          (if sent.1 = .connectionLost then .notifyConnectionLost else .idle)
  | .backoff transmission retryTimer =>
      session.release thread
        (if isLost then .notifyConnectionLost else .backoff transmission retryTimer)

/-- The switch of `send_frame` over the result of an attempt.  The port is opened
again with the signals that come then, or cannot be opened. -/
def afterAttempt (thread : Nat) (reopened : Option (List Signal)) (transmission : Transmission)
    (status : ConnectionStatus) : Session :=
  let transmission :=
    { transmission with
      onlyTimeouts := transmission.onlyTimeouts && (status = .rxTimeout || status = .txTimeout) }
  let backoff := fun transmission : Transmission =>
    Phase.backoff transmission (session.startTimer 20)
  match status with
  | .frameSent =>
      let acknowledged := session.record (.acknowledged thread transmission.command)
      if transmission.withResponse then
        acknowledged.hold thread
          (.awaitResponse transmission 0 (session.startTimer timeoutTime))
      else acknowledged.release thread .idle
  | .frameReceived =>
      session.hold thread
        (.enqueueFrame .begin (.backoff { transmission with consecutiveTxTimeoutCount := 0 }))
  | .txCan => session.release thread (backoff { transmission with consecutiveTxTimeoutCount := 0 })
  | .txTimeout =>
      let count := transmission.consecutiveTxTimeoutCount + 1
      if maxTxTimeouts ≤ count then
        { session with connection := session.connection.restart reopened }.release thread
          (if reopened.isSome then .idle else .notifyConnectionLost)
      else
        session.release thread (backoff { transmission with consecutiveTxTimeoutCount := count })
  | .rxTimeout => session.release thread (nextAttempt transmission)
  | .txNak => session.release thread .idle
  | .connectionLost => session.release thread .notifyConnectionLost
  | .idle => session.release thread (backoff transmission)
  | .checksumError => session.release thread (backoff transmission)

/-- The end of an iteration of the loop of
`zwapi_session_send_frame_with_response`. -/
def waitAgain (thread : Nat) (transmission : Transmission) (frames : Nat) : Session :=
  if frames + 1 < maxRxFramesWaitingForResponse then
    session.hold thread
      (.awaitResponse transmission (frames + 1) (session.startTimer timeoutTime))
  else session.release thread .idle

/-- One iteration of the loop of `zwapi_session_send_frame_with_response`. -/
def afterResponseWait (thread : Nat) (transmission : Transmission) (frames : Nat)
    (status : ConnectionStatus) : Session :=
  match status with
  | .frameReceived =>
      if frameLengthMin.toNat ≤ session.lastRxFrame.length then
        if isResponse session.lastRxFrame then
          if session.lastRxFrame[2]? = some transmission.command then
            (session.record (.returned thread transmission.command session.lastRxFrame)).release
              thread .idle
          else session.waitAgain thread transmission frames
        else session.hold thread (.enqueueFrame .begin (.awaitResponse transmission frames))
      else session.waitAgain thread transmission frames
  | .connectionLost => session.release thread .notifyConnectionLost
  | _ => session.waitAgain thread transmission frames

/-- `zwapi_session_enqueue_frame` has returned. -/
def goOn (thread : Nat) : Resume -> Session
  | .drain purpose => session.hold thread (.drain purpose)
  | .backoff transmission =>
      session.release thread (.backoff transmission (session.startTimer 20))
  | .awaitResponse transmission frames => session.waitAgain thread transmission frames

/-- The next access of `zwapi_session_enqueue_frame` to the queue.  `malloc` returns
an address that is free. -/
def enqueueFrame (session : Session) (thread address : Nat) (resume : Resume) : Enqueue -> Session
  | .begin => session.hold thread (.enqueueFrame (.count session.rxQueue 0) resume)
  | .count (some q) len =>
      match session.elements q with
      | none => session.fault
      | some cell => session.hold thread (.enqueueFrame (.count cell.next (len + 1)) resume)
  | .count none len =>
      if maxRxQueueLength ≤ len || !isRequest session.lastRxFrame then session.goOn thread resume
      else if (session.elements address).isSome then session
      else
        { session with
          elements :=
            Function.update session.elements address (some ⟨none, session.lastRxFrame⟩) }.hold
          thread (.enqueueFrame (.choose address) resume)
  | .choose newElem =>
      session.hold thread
        (.enqueueFrame
          (if session.rxQueue.isSome then .walkFromFirst newElem else .setFirst newElem) resume)
  | .setFirst newElem => { session with rxQueue := some newElem }.goOn thread resume
  | .walkFromFirst newElem =>
      match session.rxQueue with
      | none => session.fault
      | some e => session.hold thread (.enqueueFrame (.walk newElem e) resume)
  | .walk newElem e =>
      match session.elements e with
      | none => session.fault
      | some ⟨none, _⟩ => session.hold thread (.enqueueFrame (.link newElem e) resume)
      | some ⟨some next, _⟩ => session.hold thread (.enqueueFrame (.walk newElem next) resume)
  | .link newElem e =>
      match session.elements e with
      | none => session.fault
      | some cell =>
          { session with
            elements :=
              Function.update session.elements e (some ⟨some newElem, cell.item⟩) }.goOn
            thread resume

/-- One iteration of the loop of `zwapi_session_wait_for_response`. -/
def wait (thread : Nat) (stay : Phase) (sessionTimer : Timestamp)
    (done : Session -> ConnectionStatus -> Session) : Session :=
  let polled := session.refresh
  if polled.1 ≠ .idle then done polled.2 polled.1
  else if polled.2.isElapsed sessionTimer then done polled.2 .rxTimeout
  else polled.2.hold thread stay

/-- The next step of a thread.  A write to the line may fail, the port may be opened
again, and memory is allocated at an address. -/
def advance (thread : Nat) (fails : Bool) (reopened : Option (List Signal)) (address : Nat) :
    Session :=
  match session.phase thread with
  | .idle => session
  | .notifyConnectionLost => { session with connectionLost := true }.release thread .idle
  | .drain purpose =>
      let polled := session.refresh
      if polled.1 = .frameReceived then
        polled.2.hold thread (.enqueueFrame .begin (.drain purpose))
      else polled.2.afterDrain thread (polled.1 = .connectionLost) fails purpose
  | .attempt transmission =>
      if session.connectionLost then session.release thread .idle
      else
        let sent := session.tx thread transmission.command transmission.payload true fails
        if sent.1 = .connectionLost then
          sent.2.afterAttempt thread reopened transmission .connectionLost
        else sent.2.hold thread (.awaitAck transmission (session.startTimer timeoutTime))
  | .awaitAck transmission sessionTimer =>
      session.wait thread (.awaitAck transmission sessionTimer) sessionTimer
        fun session status => session.afterAttempt thread reopened transmission status
  | .backoff transmission retryTimer =>
      session.proceed thread
        (if session.isElapsed retryTimer then nextAttempt transmission
          else .drain (.backoff transmission retryTimer))
  | .awaitResponse transmission frames sessionTimer =>
      session.wait thread (.awaitResponse transmission frames sessionTimer) sessionTimer
        fun session status => session.afterResponseWait thread transmission frames status
  | .enqueueFrame enqueue resume => session.enqueueFrame thread address resume enqueue

/-- What a thread is asked to do. -/
inductive Operation
  | enqueueRxFrames
  | sendFrame (command : UInt8) (payload : List UInt8)
  | sendFrameWithResponse (command : UInt8) (payload : List UInt8)
  | sendFrameNoAck (command : UInt8) (payload : List UInt8)

/-- The first phase of an operation. -/
def Operation.start : Operation -> Phase
  | .enqueueRxFrames => .drain .poll
  | .sendFrame command payload => .drain (.beforeSend ⟨command, payload, false, 0, 0, true⟩)
  | .sendFrameWithResponse command payload =>
      .drain (.beforeSend ⟨command, payload, true, 0, 0, true⟩)
  | .sendFrameNoAck command payload => .drain (.beforeSendNoAck command payload)

/-- What can happen next. -/
inductive Action
  | call (thread : Nat) (operation : Operation)
  | advance (thread : Nat) (fails : Bool) (reopened : Option (List Signal)) (address : Nat)
  | dequeueFrame
  | arrive (signals : List Signal)
  | elapse
  | tick (duration : Nat)

/-- A thread can go on: it has the mutex or can have it, or it does not need it to
look at its timer. -/
def canAdvance (thread : Nat) : Bool :=
  match session.serialMutex, session.phase thread with
  | none, _ => true
  | some _, .backoff _ _ => true
  | some holder, _ => decide (holder = thread)

/-- What an action does. -/
def act : Action -> Session
  | .call thread operation =>
      if session.phase thread = .idle then session.proceed thread operation.start
      else session
  | .advance thread fails reopened address =>
      if session.canAdvance thread then session.advance thread fails reopened address
      else session
  | .dequeueFrame => session.dequeueFrame
  | .arrive signals =>
      { session with
        connection :=
          { session.connection with
            line :=
              { session.connection.line with
                incoming := session.connection.line.incoming ++ signals } } }
  | .elapse =>
      { session with
        connection := { session.connection with line := session.connection.line.elapse } }
  | .tick duration =>
      { session with
        connection :=
          { session.connection with
            line :=
              { session.connection.line with
                clock := session.connection.line.clock + duration } } }

/-- One step, as long as no memory was accessed that is not there. -/
def step (action : Action) : Session :=
  if session.faulted then session else session.act action

end Session

end SerialApi
