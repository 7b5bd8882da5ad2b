import Mathlib.Algebra.Group.Nat.Defs
import Mathlib.Data.Nat.Basic
import Zpc.Foundation.OrderedMap
import Zpc.Foundation.Run

/-!
# The Supervision process

The controlled sessions of `zwave_command_class_supervision_process.cpp`, the sending of
supervised frames in `zwave_command_class_supervision.c` and the handling of Supervision
Reports in `command_class_supervision.cpp`.  A function of the source that changes the
table of sessions takes the state and returns the next one.

A callback of a user may call back into the component, and so may a send that evicts
another frame.  A function that calls out therefore leaves what it still has to do on a
stack of calls, and goes on when the innermost call returns.  Whatever happens in between
is an action of its own.

Next to the variables of the source the state keeps a record of the sessions created, of
the callbacks made and of the sessions that left the table.  No function of the source
reads these.  The frames that are built and their options are left out.
-/

namespace Supervision

open Foundation

/-- `zwave_node_id_t`. -/
abbrev NodeId := Nat

/-- `zwave_endpoint_id_t`. -/
abbrev EndpointId := Nat

/-- `zwave_multicast_group_id_t`. -/
abbrev GroupId := Nat

/-- `supervision_id_t`, a `uint32_t`. -/
abbrev SupervisionId := Nat

/-- `zwave_tx_session_id_t`. -/
abbrev TxSessionId := Nat

/-- A `void *` of a user. -/
abbrev UserPointer := Nat

/-- Address of an `on_zwave_tx_send_data_complete_t` function. -/
abbrev CallbackFunction := Nat

/-- The content of a `zwapi_tx_report_t`, which is only handed on. -/
abbrev TxInfo := Nat

/-- Milliseconds of the monotonic clock. -/
abbrev ClockTime := Nat

def invalidSupervisionId : SupervisionId := 0

def zwaveTxInvalidGroup : GroupId := 0

def zwMinNodeId : NodeId := 1

def zwLrMaxNodeId : NodeId := 4000

/-- `SUPERVISION_ENCAPSULATED_COMMAND_MAXIMUM_SIZE`, the value of `ZWAVE_MAX_FRAME_SIZE`. -/
def encapsulatedCommandMaximumSize : Nat := 158

def supervisionReportTimeout : ClockTime := 8000

def supervisionSendDataEmergencyTimer : ClockTime := 60000

def supervisionDefaultSessionDuration : ClockTime := 1 * (60 * 100)

/-- `CLOCK_SECOND` in milliseconds. -/
def clockSecond : ClockTime := 1000

def supervisionReportNoSupport : Nat := 0x00

def supervisionReportWorking : Nat := 0x01

def supervisionReportFail : Nat := 0x02

def transmitCompleteOk : Nat := 0x00

def transmitCompleteVerified : Nat := 0x05

/-- `supervision_session_t`. -/
structure SupervisionSession where
  sessionId : Nat
  nodeId : NodeId
  endpointId : EndpointId
  groupId : GroupId
  deriving DecidableEq

/-- `supervised_session_t`.  A pointer or a value that comes with a flag of its validity
is an option.  The number counts the sessions in the order of their creation, for the
record. -/
structure SupervisedSession where
  session : SupervisionSession
  callback : Option CallbackFunction
  user : UserPointer
  txInfo : Option TxInfo
  status : Nat
  expiryTime : ClockTime
  txSessionId : Option TxSessionId
  number : Nat
  deriving DecidableEq

/-- An armed timer: when it was set, and for how long. -/
structure Timer where
  setAt : ClockTime
  interval : ClockTime

/-- When an armed timer is due. -/
def Timer.deadline (timer : Timer) : ClockTime := timer.setAt + timer.interval

/-- The destination of a frame. -/
inductive Destination
  | node (nodeId : NodeId)
  | multicast (groupId : GroupId)

/-- The arguments of `zwave_command_class_supervision_send_data` that are read.  The flag
tells that the caller wants the TX session id. -/
structure SendRequest where
  remote : Destination
  endpointId : EndpointId
  dataLength : Nat
  discardTimeoutMs : ClockTime
  groupId : GroupId
  onSupervisionComplete : Option CallbackFunction
  user : UserPointer
  wantsSession : Bool

/-- A Supervision Report as it was parsed. -/
structure Report where
  nodeId : NodeId
  endpointId : EndpointId
  sessionId : Nat
  status : Nat
  duration : Nat

/-- What a function has still to do when the call it made returns. -/
inductive Call
  | send (supervisionId : SupervisionId) (wantsSession : Bool)
  | workingCallback
  | finalCallback (supervisionId : SupervisionId)
  | expiry (expired : List SupervisionId)
  | deletion (supervisionId : SupervisionId) (rest : List SupervisionId)
  deriving DecidableEq

/-- One call of the callback of a session. -/
structure CallbackCall where
  supervisionId : SupervisionId
  number : Nat
  function : CallbackFunction
  status : Nat
  txInfo : Option TxInfo
  user : UserPointer

/-- Why a session left the table: it ended, or it was closed by an abort or because its
frame could not be sent. -/
inductive Reason
  | ended
  | closed

/-- A session that left the table, with the callback it had. -/
structure Removal where
  supervisionId : SupervisionId
  number : Nat
  callback : Option CallbackFunction
  reason : Reason

/-- The variables of the process, the calls under way and the record of what happened. -/
structure Process where
  sessions : List (SupervisionId × SupervisedSession)
  supervisionTimer : Option Timer
  nextSupervisionId : SupervisionId
  nextSessionId : Nat
  clockTime : ClockTime
  calls : List Call
  created : Nat
  callbacks : List CallbackCall
  removals : List Removal

namespace Process

/-- The state after the command class was constructed, which picks the first session
id. -/
def initial (nextSessionId : Nat) : Process where
  sessions := []
  supervisionTimer := none
  nextSupervisionId := 1
  nextSessionId := nextSessionId
  clockTime := 0
  calls := []
  created := 0
  callbacks := []
  removals := []

/-- The loop of `zwave_command_class_supervision_restart_timer`: the earliest expiry, zero
when there is none. -/
def nextExpiry (sessions : List (SupervisionId × SupervisedSession)) : ClockTime :=
  sessions.foldl
    (fun next entry =>
      if entry.2.expiryTime = 0 then next
      else if next = 0 then entry.2.expiryTime
      else if entry.2.expiryTime < next then entry.2.expiryTime
      else next)
    0

variable (proc : Process)

/-- `zwave_command_class_supervision_restart_timer`. -/
def restartTimer : Process :=
  { proc with
    supervisionTimer :=
      if nextExpiry proc.sessions = 0 then none
      else if nextExpiry proc.sessions < proc.clockTime then
        some ⟨proc.clockTime, 1⟩
      else some ⟨proc.clockTime, nextExpiry proc.sessions - proc.clockTime⟩ }

/-- The next id, which is never the invalid one. -/
def incrementUniqueSupervisionId : Process :=
  let next := (proc.nextSupervisionId + 1) % 2 ^ 32
  { proc with
    nextSupervisionId := if next = invalidSupervisionId then next + 1 else next }

/-- `zwave_command_class_supervision_find_session_by_unique_id`. -/
def findSessionByUniqueId (supervisionId : SupervisionId) : Option SupervisedSession :=
  proc.sessions.lookup supervisionId

/-- `zwave_command_class_supervision_find_session`. -/
def findSession (sessionId : Nat) (nodeId : NodeId) (endpointId : EndpointId) : SupervisionId :=
  match proc.sessions.find? fun entry =>
      entry.2.session.nodeId == nodeId && entry.2.session.endpointId == endpointId &&
        entry.2.session.sessionId == sessionId with
  | some entry => entry.1
  | none => invalidSupervisionId

/-- Change a session in place. -/
def updateSession (supervisionId : SupervisionId)
    (change : SupervisedSession -> SupervisedSession) :
    Process :=
  { proc with sessions := updateKey proc.sessions supervisionId change }

/-- A session leaves the table. -/
def eraseSession (reason : Reason) (supervisionId : SupervisionId) : Process :=
  match proc.findSessionByUniqueId supervisionId with
  | none => proc
  | some session =>
      { proc with
        sessions := eraseKey proc.sessions supervisionId
        removals := ⟨supervisionId, session.number, session.callback, reason⟩ :: proc.removals }

/-- `zwave_command_class_supervision_close_session`, with the reason for the record. -/
def closeSession (reason : Reason) (supervisionId : SupervisionId) : Process :=
  if supervisionId = invalidSupervisionId then proc
  else
    match proc.findSessionByUniqueId supervisionId with
    | none => proc
    | some _ => (proc.eraseSession reason supervisionId).restartTimer

/-- `zwave_command_class_supervision_close_session_by_tx_session`. -/
def closeSessionByTxSession (txSessionId : TxSessionId) : Process :=
  match proc.sessions.find? fun entry => entry.2.txSessionId == some txSessionId with
  | none => proc
  | some entry => proc.closeSession .closed entry.1

/-- `zwave_command_class_supervision_assign_session_tx_id`. -/
def assignSessionTxId (supervisionId : SupervisionId) (txSessionId : TxSessionId) : Process :=
  proc.updateSession supervisionId fun session => { session with txSessionId := some txSessionId }

/-- The 6-bit id that the next session gets. -/
def sessionIdOfNext : Nat := proc.nextSessionId % 2 ^ 6

/-- A session as it is created. -/
def newSession (request : SendRequest) (nodeId : NodeId) (groupId : GroupId) :
    SupervisedSession where
  session := ⟨proc.sessionIdOfNext, nodeId, request.endpointId, groupId⟩
  callback := request.onSupervisionComplete
  user := request.user
  txInfo := none
  status := supervisionReportNoSupport
  expiryTime := proc.clockTime + request.discardTimeoutMs + supervisionSendDataEmergencyTimer
  txSessionId := none
  number := proc.created

/-- Insert a session under the next supervision id. -/
def insertSession (proc : Process) (session : SupervisedSession) : Process :=
  { proc with
    sessions := insertNew proc.sessions proc.nextSupervisionId session
    created := proc.created + 1 }.incrementUniqueSupervisionId

/-- The next session gets another session id. -/
def incrementSessionId : Process :=
  { proc with nextSessionId := (proc.nextSessionId + 1) % 2 ^ 8 }

/-- `zwave_command_class_supervision_create_singlecast_session`. -/
def createSinglecastSession (request : SendRequest) (nodeId : NodeId) : SupervisionId × Process :=
  (proc.nextSupervisionId,
    (proc.insertSession
      (proc.newSession request nodeId zwaveTxInvalidGroup)).incrementSessionId)

/-- `zwave_command_class_supervision_update_singlecast_follow_up_session`. -/
def updateSinglecastFollowUpSession (request : SendRequest) (nodeId : NodeId) :
    SupervisionId × Process :=
  match proc.sessions.find? fun entry =>
      entry.2.session.nodeId == nodeId && entry.2.session.endpointId == request.endpointId &&
        entry.2.session.groupId == request.groupId with
  | none => (invalidSupervisionId, proc)
  | some entry =>
      (entry.1,
        proc.updateSession entry.1 fun session =>
          { session with
            callback := request.onSupervisionComplete
            user := request.user
            expiryTime :=
              proc.clockTime + request.discardTimeoutMs + supervisionSendDataEmergencyTimer })

/-- The nodes of a group, in the order of their ids. -/
def nodesOf (mask : NodeId -> Bool) : List NodeId :=
  (List.range' zwMinNodeId (zwLrMaxNodeId + 1 - zwMinNodeId)).filter mask

/-- `zwave_command_class_supervision_create_group_session`.  The id of the last session
is returned. -/
def createGroupSession (groups : GroupId -> NodeId -> Bool) (request : SendRequest)
    (groupId : GroupId) : SupervisionId × Process :=
  let created :=
    (nodesOf (groups groupId)).foldl
      (fun created nodeId =>
        (created.2.nextSupervisionId,
          created.2.insertSession (created.2.newSession request nodeId groupId)))
      (invalidSupervisionId, proc)
  (created.1, created.2.incrementSessionId)

/-- `zwave_command_class_supervision_create_session`. -/
def createSession (groups : GroupId -> NodeId -> Bool) (request : SendRequest) :
    SupervisionId × Process :=
  match request.remote with
  | .multicast groupId => proc.createGroupSession groups request groupId
  | .node nodeId =>
      if request.groupId ≠ zwaveTxInvalidGroup then
        proc.updateSinglecastFollowUpSession request nodeId
      else proc.createSinglecastSession request nodeId

/-- Call the callback of a session, and go on with the rest when it returns. -/
def callBack (supervisionId : SupervisionId) (session : SupervisedSession)
    (function : CallbackFunction) (status : Nat) (txInfo : Option TxInfo) (call : Call) : Process :=
  { proc with
    calls := call :: proc.calls
    callbacks :=
      ⟨supervisionId, session.number, function, status, txInfo, session.user⟩ ::
        proc.callbacks }

/-- `zwave_command_class_supervision_send_data` up to the call of `zwave_tx_send_data`. -/
def sendData (groups : GroupId -> NodeId -> Bool) (request : SendRequest) : Process :=
  if encapsulatedCommandMaximumSize < request.dataLength then proc
  else
    let created := proc.createSession groups request
    match created.2.findSessionByUniqueId created.1 with
    | none => created.2
    | some _ =>
        { created.2 with
          calls := .send created.1 request.wantsSession :: created.2.calls }

/-- The rest of `zwave_command_class_supervision_send_data`.  The TX session id is that of
an accepted frame. -/
def sendReturns (supervisionId : SupervisionId) (wantsSession : Bool)
    (accepted : Option TxSessionId) : Process :=
  match accepted with
  | none => (proc.closeSession .closed supervisionId).restartTimer
  | some txSessionId =>
      if wantsSession then
        (proc.assignSessionTxId supervisionId txSessionId).restartTimer
      else proc.restartTimer

/-- A session whose Supervision Get was sent waits for a report. -/
def awaitReport (supervisionId : SupervisionId) (txInfo : Option TxInfo) : Process :=
  proc.updateSession supervisionId fun session =>
    { session with
      expiryTime :=
        if session.status ≠ supervisionReportWorking then
          proc.clockTime + supervisionReportTimeout
        else session.expiryTime
      txInfo := some (txInfo.getD 0) }

/-- `zwave_command_class_supervision_on_send_data_complete`.  The user pointer is cut to
a supervision id. -/
def onSendDataComplete (status : Nat) (txInfo : Option TxInfo) (user : UserPointer) : Process :=
  let proc := proc.restartTimer
  let supervisionId := user % 2 ^ 32
  match proc.findSessionByUniqueId supervisionId with
  | none => proc
  | some session =>
      if status ≠ transmitCompleteOk ∧ status ≠ transmitCompleteVerified then
        match session.callback with
        | some function =>
            proc.callBack supervisionId session function supervisionReportFail txInfo
              (.finalCallback supervisionId)
        | none => proc.closeSession .ended supervisionId
      else proc.awaitReport supervisionId txInfo

/-- A duration field, in seconds or in minutes. -/
def zwaveDurationToTime (duration : Nat) : ClockTime :=
  if duration ≤ 0x7F then duration * clockSecond
  else if duration ≤ 0xFD then (duration - 127) * clockSecond * 60
  else 0

/-- The time a session gets after a report with a duration. -/
def reportedExpiry (duration : Nat) : ClockTime :=
  if duration < 0xFE then
    proc.clockTime + zwaveDurationToTime duration + supervisionReportTimeout
  else proc.clockTime + supervisionDefaultSessionDuration + supervisionReportTimeout

/-- The status and the new expiry of a session after a report. -/
def noteReport (supervisionId : SupervisionId) (report : Report) : Process :=
  proc.updateSession supervisionId fun session =>
    { session with
      status := report.status
      expiryTime := proc.reportedExpiry report.duration }

/-- A report is passed on, and ends its session unless it is working. -/
def onSupervisionReportParsed (report : Report) : Process :=
  let proc := proc.restartTimer
  let supervisionId := proc.findSession report.sessionId report.nodeId report.endpointId
  match proc.findSessionByUniqueId supervisionId with
  | none => proc
  | some session =>
      let proc := proc.noteReport supervisionId report
      if report.status = supervisionReportWorking then
        match session.callback with
        | some function =>
            proc.restartTimer.callBack supervisionId session function report.status
              session.txInfo .workingCallback
        | none => proc.restartTimer
      else
        match session.callback with
        | some function =>
            proc.callBack supervisionId session function report.status session.txInfo
              (.finalCallback supervisionId)
        | none => proc.closeSession .ended supervisionId

/-- The loop of `supervision_process_on_timer_expired_event`: the expired sessions up to
the first one with a callback, and that one. -/
def expiredSessions (now : ClockTime) :
    List (SupervisionId × SupervisedSession) ->
      List SupervisionId × Option (SupervisionId × SupervisedSession × CallbackFunction)
  | [] => ([], none)
  | entry :: rest =>
      if entry.2.expiryTime ≤ now then
        match entry.2.callback with
        | some function => ([entry.1], some (entry.1, entry.2, function))
        | none => (entry.1 :: (expiredSessions now rest).1, (expiredSessions now rest).2)
      else expiredSessions now rest

/-- The end of `supervision_process_on_timer_expired_event`. -/
def eraseExpired (expired : List SupervisionId) : Process :=
  (expired.foldl (fun proc supervisionId => proc.eraseSession .ended supervisionId)
    proc).restartTimer

/-- `supervision_process_on_timer_expired_event`. -/
def onTimerExpiredEvent : Process :=
  let expired := expiredSessions proc.clockTime proc.sessions
  match expired.2 with
  | some (supervisionId, session, function) =>
      proc.callBack supervisionId session function supervisionReportFail session.txInfo
        (.expiry expired.1)
  | none => proc.eraseExpired expired.1

/-- The loop of `zwave_command_class_supervision_on_node_deleted`. -/
def deleteSessions (proc : Process) : List SupervisionId -> Process
  | [] => proc
  | supervisionId :: rest =>
      match proc.findSessionByUniqueId supervisionId with
      | none => deleteSessions proc rest
      | some session =>
          match session.callback with
          | some function =>
              proc.callBack supervisionId session function supervisionReportFail
                session.txInfo (.deletion supervisionId rest)
          | none => deleteSessions (proc.closeSession .ended supervisionId) rest

/-- The sessions with a node. -/
def sessionsWith (nodeId : NodeId) : List SupervisionId :=
  (proc.sessions.filter fun entry => entry.2.session.nodeId == nodeId).map (·.1)

/-- `zwave_command_class_supervision_on_node_deleted`. -/
def onNodeDeleted (nodeId : NodeId) : Process :=
  proc.deleteSessions (proc.sessionsWith nodeId)

/-- What can happen to the process.  The answer a call returns with is read only by the
sending of data. -/
inductive Action
  | sendData (groups : GroupId -> NodeId -> Bool) (request : SendRequest)
  | sendDataComplete (status : Nat) (txInfo : Option TxInfo) (user : UserPointer)
  | reportReceived (report : Report)
  | timerExpires
  | abortSendData (txSessionId : TxSessionId)
  | nodeDeleted (nodeId : NodeId)
  | callReturns (accepted : Option TxSessionId)
  | clockTick (elapsed : ClockTime)

/-- The timer fires when it is due. -/
def timerExpires : Process :=
  match proc.supervisionTimer with
  | none => proc
  | some timer =>
      if timer.deadline ≤ proc.clockTime then
        { proc with supervisionTimer := none }.onTimerExpiredEvent
      else proc

/-- What a function does when the call it made returns. -/
def resume (accepted : Option TxSessionId) : Call -> Process
  | .send supervisionId wantsSession => proc.sendReturns supervisionId wantsSession accepted
  | .workingCallback => proc
  | .finalCallback supervisionId => proc.closeSession .ended supervisionId
  | .expiry expired => proc.eraseExpired expired
  | .deletion supervisionId rest => (proc.closeSession .ended supervisionId).deleteSessions rest

/-- The innermost call returns. -/
def callReturns (accepted : Option TxSessionId) : Process :=
  match proc.calls with
  | [] => proc
  | call :: rest => { proc with calls := rest }.resume accepted call

/-- One step of the process. -/
def step : Action -> Process
  | .sendData groups request => proc.sendData groups request
  | .sendDataComplete status txInfo user => proc.onSendDataComplete status txInfo user
  | .reportReceived report => proc.onSupervisionReportParsed report
  | .timerExpires => proc.timerExpires
  | .abortSendData txSessionId => proc.closeSessionByTxSession txSessionId
  | .nodeDeleted nodeId => proc.onNodeDeleted nodeId
  | .callReturns accepted => proc.callReturns accepted
  | .clockTick elapsed => { proc with clockTime := proc.clockTime + elapsed }

/-- A supervised frame towards a node, as a user with a callback sends it. -/
def sampleRequest (nodeId : NodeId) : SendRequest where
  remote := .node nodeId
  endpointId := 0
  dataLength := 3
  discardTimeoutMs := 0
  groupId := zwaveTxInvalidGroup
  onSupervisionComplete := some 7
  user := 4096
  wantsSession := true

end Process

end Supervision
