import Zpc.Foundation.RangeFilter
import Zpc.Foundation.Run
import Zpc.MulticastFollowUps.Transport

/-!
# What a multicast session does

A session that is not disturbed queues the multicast frame, then one follow-up after every
completion, and calls back and unlocks its group after the completion that follows the last
one.  The cursor of the session is the node behind the last follow-up, so what is left of
the group is a filter of the node ids from the cursor on; it stays what it is as long as the
group is locked.

A send that the TX queue refuses calls back and returns an error as well.
-/

namespace MulticastFollowUps

open Foundation ZwaveDefinitions
open ZwaveTx (SlStatus SessionId UserPointer CallbackFunction ConnectionInfo Endpoint
  Encapsulation TxReport transmitCompleteFail nullSession)

/-- An event without the frame that is sent and the outcome that is called back. -/
inductive Milestone where
  | queued (info : ConnectionInfo) (transport : TransportOptions)
  | locked (groupId : Nat)
  | accepted (request : SendRequest) (members : List Nat)
  | completed
  | called (callback : CallbackFunction) (user : UserPointer)
  | unlocked (groupId : Nat)

/-- The milestone of an event. -/
def Event.milestone : Event -> Milestone
  | .queued frame => .queued frame.info frame.options.transport
  | .locked groupId => .locked groupId
  | .accepted request members => .accepted request members
  | .completed => .completed
  | .called callback _ _ user => .called callback user
  | .unlocked groupId => .unlocked groupId

namespace SendRequest

variable (request : SendRequest)

/-- The group a request is for. -/
def groupId : Nat := multicastGroup request.info

/-- The milestones up to the acceptance of a send: the multicast frame is queued once and
the group is locked. -/
def beginning (members : List Nat) : List Milestone :=
  [.queued request.info
      { request.txOptions.transport with
        parentSessionId := request.parentSessionId
        validParentSessionId := true
        groupId := request.groupId },
    .locked request.groupId,
    .accepted request members]

/-- The milestone of a follow-up to a node. -/
def followUp (node : Nat) (isFirst : Bool) : Milestone :=
  .queued
    { local' := ⟨0, 0, false⟩
      remote := ⟨node, request.info.remote.endpointId, false⟩
      encapsulation := request.info.encapsulation }
    { parentSessionId := request.parentSessionId
      validParentSessionId := true
      groupId := request.groupId
      isFirstFollowUp := isFirst }

/-- The milestones of follow-ups to nodes, each after a completion. -/
def followUps : Bool -> List Nat -> List Milestone
  | _, [] => []
  | isFirst, node :: rest => .completed :: request.followUp node isFirst :: followUps false rest

/-- The milestones from the last completion on: one callback, and the group is unlocked. -/
def ending : List Milestone :=
  .completed ::
    (match request.onSendDataComplete with
      | some callback => [.called callback request.user]
      | none => []) ++ [.unlocked request.groupId]

/-- The milestones of a session after a number of completions that is at most the number of
the members. -/
def sessionUntil (members : List Nat) (completions : Nat) : List Milestone :=
  request.beginning members ++ request.followUps true (members.take completions)

/-- The milestones of a whole session. -/
def wholeSession (members : List Nat) : List Milestone :=
  request.beginning members ++ request.followUps true members ++ request.ending

theorem followUps_concat (isFirst : Bool) (nodes : List Nat) (node : Nat) :
    request.followUps isFirst (nodes ++ [node]) =
      request.followUps isFirst nodes ++
        [.completed, request.followUp node (isFirst && nodes.isEmpty)] := by
  induction nodes generalizing isFirst with
  | nil =>
    rw [List.isEmpty_nil, Bool.and_true]
    rfl
  | cons head rest ih =>
    have later := ih false
    rw [List.isEmpty_cons, Bool.and_false, List.cons_append]
    unfold followUps
    rw [later]
    rfl

end SendRequest

namespace System

/-- The milestones of what happened. -/
def milestones (sys : System) : List Milestone := sys.events.map Event.milestone

/-- The milestones of sessions that are over. -/
def sessionsOver (finished : List (SendRequest × List Nat)) : List Milestone :=
  finished.flatMap fun session => session.1.wholeSession session.2

/-- What happened is a sequence of whole sessions, and one that goes on while the group is
locked. -/
def Conforms (sys : System) : Prop :=
  ∃ finished,
    (sys.state.transmissionOngoing = false ∧ sys.milestones = sessionsOver finished) ∨
      ∃ (request : SendRequest) (members : List Nat) (completions : Nat),
        sys.state.transmissionOngoing = true ∧
          completions ≤ members.length ∧
          sys.milestones = sessionsOver finished ++ request.sessionUntil members completions ∧
          sys.state.groupId = request.groupId ∧
          sys.txGroups.isGroupLocked request.groupId = true

/-- No step of a run is an abort, the TX queue accepts the frames, and the groups of the
sends exist. -/
def Undisturbed (sys : System) : Action -> Prop
  | .sendData request txStatus => txStatus = .ok ∧ sys.txGroups.groups request.groupId ≠ none
  | .complete _ _ _ _ txStatus => txStatus = .ok
  | .abortSendData _ => False
  | _ => True

/-- No other component unlocks the group of a session that goes on. -/
def KeepsLock (sys : System) : Action -> Prop
  | .unlockGroup groupId => sys.state.transmissionOngoing = true -> groupId ≠ sys.state.groupId
  | _ => True

/-- The session that goes on after the follow-ups to the nodes `done`, when those to the
nodes `rest` are left. -/
structure Ongoing
    (sys : System)
    (finished : List (SendRequest × List Nat))
    (request : SendRequest)
    (done rest : List Nat) : Prop where
  happened : sys.milestones = sessionsOver finished ++
    (request.beginning (done ++ rest) ++ request.followUps true done)
  state : sys.state =
    { sessionOf request with lastSinglecastNodeId := sys.state.lastSinglecastNodeId }
  cursorStarts : (sys.state.lastSinglecastNodeId == 0) = done.isEmpty
  cursorInside : sys.state.lastSinglecastNodeId ≤ zwLrMaxNodeId + 1
  locked : ∃ nodeList, sys.txGroups.IsLockedWith request.groupId nodeList ∧
    (List.range' sys.state.lastSinglecastNodeId
      (zwLrMaxNodeId + 1 - sys.state.lastSinglecastNodeId)).filter
        (fun node => isNodeInMask node nodeList) = rest
  oneOutstanding : sys.outstanding.length = 1

/-- What undisturbed sessions keep. -/
def Orderly (sys : System) : Prop :=
  ∃ finished,
    (sys.state = .reset ∧ sys.outstanding = [] ∧ sys.milestones = sessionsOver finished) ∨
      ∃ request done rest, sys.Ongoing finished request done rest

variable {sys : System} {finished : List (SendRequest × List Nat)} {request : SendRequest}
  {done : List Nat} {action : Action}

theorem Orderly.conforms (orderly : sys.Orderly) : sys.Conforms := by
  obtain ⟨finished, ⟨isReset, -, happened⟩ | ⟨request, done, rest, ongoing⟩⟩ := orderly
  · exact ⟨finished, .inl ⟨by rw [isReset]; rfl, happened⟩⟩
  · refine ⟨finished, .inr ⟨request, done ++ rest, done.length, ?_, ?_, ?_, ?_, ?_⟩⟩
    · rw [ongoing.state]
      rfl
    · rw [List.length_append]
      exact Nat.le_add_right _ _
    · rw [ongoing.happened]
      unfold SendRequest.sessionUntil
      rw [List.take_left]
    · rw [ongoing.state]
      rfl
    · obtain ⟨nodeList, isLocked, -⟩ := ongoing.locked
      exact isLocked.isGroupLocked

@[simp] theorem milestones_happen (sys : System) (event : Event) :
    (sys.happen event).milestones = sys.milestones ++ [event.milestone] := by
  unfold milestones happen
  rw [List.map_append]
  rfl

theorem sessionsOver_concat (finished : List (SendRequest × List Nat)) (request : SendRequest)
    (members : List Nat) :
    sessionsOver (finished ++ [(request, members)]) =
      sessionsOver finished ++ request.wholeSession members := by
  unfold sessionsOver
  rw [List.flatMap_append, List.flatMap_singleton]

theorem terminateCurrentSession_spec (sys : System) (status : Nat) (txInfo : Option TxReport)
    (user : UserPointer) : let ended := sys.terminateCurrentSession status txInfo user
    ended.state = .reset ∧ ended.outstanding = sys.outstanding ∧
      ended.milestones = sys.milestones ++
        ((match sys.state.onSendDataComplete with
          | some callback => [Milestone.called callback user]
          | none => []) ++ [.unlocked sys.state.groupId]) := by
  unfold terminateCurrentSession
  cases sys.state.onSendDataComplete with
  | none => exact ⟨rfl, rfl, milestones_happen _ _⟩
  | some callback =>
    refine ⟨rfl, rfl, (milestones_happen _ _).trans ?_⟩
    change (sys.happen _).milestones ++ _ = _
    rw [milestones_happen, List.append_assoc]
    rfl

theorem Ongoing.terminates (ongoing : sys.Ongoing finished request done []) (status : Nat)
    (txInfo : Option TxReport) :
    ({ sys with outstanding := [] }.happen .completed |>.terminateCurrentSession
      status txInfo sys.state.user).Orderly := by
  refine ⟨finished ++ [(request, done)], .inl ?_⟩
  obtain ⟨isReset, outstanding, happened⟩ :=
    terminateCurrentSession_spec ({ sys with outstanding := [] }.happen .completed) status
      txInfo sys.state.user
  refine ⟨isReset, outstanding, happened.trans ?_⟩
  have before : ({ sys with outstanding := [] }.happen .completed).milestones =
      sessionsOver finished ++
        (request.beginning done ++ request.followUps true done) ++ [.completed] := by
    rw [milestones_happen]
    have same := ongoing.happened
    rw [List.append_nil] at same
    exact congrArg (· ++ [Milestone.completed]) same
  rw [before, sessionsOver_concat]
  rw [ongoing.state]
  unfold SendRequest.wholeSession SendRequest.ending
  simp only [List.append_assoc, List.cons_append, List.nil_append]
  rfl

theorem Ongoing.advances {rest : List Nat} {node : Nat}
    (ongoing : sys.Ongoing finished request done (node :: rest)) (parent : ParentElement) :
    let completed := { sys with outstanding := [] }.happen .completed
    ({ completed with state.lastSinglecastNodeId := node + 1 }.zwaveTxSendData
      (followUpFrame completed.state parent node) .ok).Ongoing
        finished request (done ++ [node]) rest := by
  intro completed
  obtain ⟨happened, isState, starts, inside, ⟨nodeList, isLocked, isLeft⟩, -⟩ := ongoing
  obtain ⟨-, after, before, isRest⟩ := filter_range'_eq_cons isLeft
  constructor
  · unfold zwaveTxSendData
    rw [if_pos rfl, milestones_happen]
    change completed.milestones ++ _ = _
    rw [milestones_happen]
    change sys.milestones ++ _ ++ _ = _
    rw [happened, SendRequest.followUps_concat, ← starts]
    have isFrame : (Event.queued (followUpFrame completed.state parent node)).milestone =
        request.followUp node (sys.state.lastSinglecastNodeId == 0) := by
      change (Event.queued (followUpFrame sys.state parent node)).milestone = _
      rw [isState]
      rfl
    rw [isFrame]
    simp only [List.append_assoc, List.cons_append, List.nil_append]
    rfl
  · change { sys.state with lastSinglecastNodeId := node + 1 } = _
    rw [isState]
    rfl
  · cases done with
    | nil | cons => rfl
  · change node + 1 ≤ zwLrMaxNodeId + 1
    omega
  · refine ⟨nodeList, isLocked, ?_⟩
    have sameEnd : sys.state.lastSinglecastNodeId +
        (zwLrMaxNodeId + 1 - sys.state.lastSinglecastNodeId) - (node + 1) =
          zwLrMaxNodeId + 1 - (node + 1) := by omega
    rw [sameEnd] at isRest
    exact isRest
  · rfl

theorem ongoing_of_sendData (noneOutstanding : sys.outstanding = [])
    (happened : sys.milestones = sessionsOver finished) (request : SendRequest)
    {group : ZwaveTxGroup} (found : sys.txGroups.groups request.groupId = some group) :
    let queued := sys.zwaveTxSendData (multicastFrame request) .ok
    ({ queued with
        txGroups := queued.txGroups.lockGroup request.groupId
        state := sessionOf request }.happen (.locked request.groupId) |>.happen
          (.accepted request (sys.members request.groupId))).Ongoing
      finished request [] (nodesInMask group.nodeList) := by
  intro queued
  have isMembers : sys.members request.groupId = nodesInMask group.nodeList := by
    unfold members ZwaveTxGroups.getNodes
    rw [found]
    rfl
  constructor
  · rw [milestones_happen, milestones_happen, isMembers]
    change queued.milestones ++ _ ++ _ = _
    have isQueued : queued.milestones =
        sessionsOver finished ++ [(Event.queued (multicastFrame request)).milestone] := by
      change (sys.zwaveTxSendData (multicastFrame request) .ok).milestones = _
      unfold zwaveTxSendData
      rw [if_pos rfl, milestones_happen]
      exact congrArg (· ++ _) happened
    rw [isQueued, List.append_assoc, List.append_assoc]
    rfl
  · rfl
  · rfl
  · exact Nat.zero_le _
  · refine ⟨group.nodeList, ZwaveTxGroups.isLockedWith_lockGroup found, ?_⟩
    change (List.range' 0 (zwLrMaxNodeId + 1)).filter _ = nodesInMask group.nodeList
    -- there is no node 0
    rw [List.range'_succ, List.filter_cons_of_neg (by simp [not_isNodeInMask_zero])]
    unfold nodesInMask
    rw [Nat.zero_add]
  · change (sys.zwaveTxSendData (multicastFrame request) .ok).outstanding.length = 1
    unfold zwaveTxSendData
    rw [noneOutstanding]
    rfl

theorem Orderly.sendData {sys : System} (orderly : sys.Orderly) (request : SendRequest)
    (groupExists : sys.txGroups.groups request.groupId ≠ none) :
    (sys.step (.sendData request .ok)).Orderly := by
  change (if (sys.sendData request .ok).1 = .ok then _ else _ : System).Orderly
  unfold System.sendData
  by_cases unsupported : request.info.remote.isMulticast = false ∨
      request.txOptions.sendFollowUps = false
  · rw [if_pos unsupported]
    exact orderly
  · rw [if_neg unsupported]
    by_cases busy : sys.state.transmissionOngoing = true
    · rw [if_pos busy]
      exact orderly
    · rw [if_neg busy]
      obtain ⟨finished, ⟨-, noneOutstanding, happened⟩ | ⟨_, _, _, ongoing⟩⟩ := orderly
      · obtain ⟨group, found⟩ := Option.ne_none_iff_exists'.mp groupExists
        exact ⟨finished, .inr ⟨request, [], _,
          ongoing_of_sendData noneOutstanding happened request found⟩⟩
      · rw [ongoing.state] at busy
        exact absurd rfl busy

section

variable (sys : System) {nodeList : List UInt8} (goesOn : sys.state.transmissionOngoing = true)
  (nodes : sys.txGroups.getNodes sys.state.groupId = some nodeList)
include goesOn nodes

variable {status : Nat} {txInfo : Option TxReport} {parent : ParentElement}

theorem onMulticastMessageSendComplete_none (isNone : nextSinglecastNode sys.state nodeList = none)
    {txStatus : SlStatus} :
    sys.onMulticastMessageSendComplete status txInfo parent txStatus =
      sys.terminateCurrentSession status txInfo sys.state.user := by
  unfold onMulticastMessageSendComplete
  rw [if_neg (by simp [goesOn]), nodes]
  dsimp only
  rw [isNone]

theorem onMulticastMessageSendComplete_some {node : Nat}
    (isSome : nextSinglecastNode sys.state nodeList = some node) :
    sys.onMulticastMessageSendComplete status txInfo parent .ok =
      { sys with state.lastSinglecastNodeId := node + 1 }.zwaveTxSendData
        (followUpFrame sys.state parent node) .ok := by
  unfold onMulticastMessageSendComplete
  rw [if_neg (by simp [goesOn]), nodes]
  dsimp only
  rw [isSome]
  exact if_pos rfl

end

theorem Orderly.complete (orderly : sys.Orderly) (index status : Nat) (txInfo : Option TxReport)
    (parent : ParentElement) : (sys.step (.complete index status txInfo parent .ok)).Orderly := by
  unfold step
  dsimp only
  split
  next => exact orderly
  next frame found =>
    obtain ⟨finished, ⟨-, noneOutstanding, -⟩ | ⟨request, done, rest, ongoing⟩⟩ := orderly
    · rw [noneOutstanding] at found
      cases found
    · have noneLeft : sys.outstanding.eraseIdx index = [] := by
        apply List.eq_nil_of_length_eq_zero
        obtain ⟨inside, -⟩ := List.getElem?_eq_some_iff.mp found
        rw [List.length_eraseIdx_of_lt inside, ongoing.oneOutstanding]
      rw [noneLeft]
      have goesOn : sys.state.transmissionOngoing = true := by
        rw [ongoing.state]
        rfl
      have isGroup : sys.state.groupId = request.groupId := by
        rw [ongoing.state]
        rfl
      obtain ⟨nodeList, isLocked, isLeft⟩ := ongoing.locked
      have nodes : sys.txGroups.getNodes sys.state.groupId = some nodeList := by
        rw [isGroup]
        exact isLocked.getNodes
      let completed : System := { sys with outstanding := [] }.happen .completed
      cases rest with
      | nil =>
        have isNone : nextSinglecastNode sys.state nodeList = none :=
          find?_eq_none_of_filter_eq_nil isLeft
        rw [onMulticastMessageSendComplete_none completed goesOn nodes isNone]
        exact ongoing.terminates status txInfo
      | cons node rest =>
        have isSome : nextSinglecastNode sys.state nodeList = some node :=
          (filter_range'_eq_cons isLeft).1
        rw [onMulticastMessageSendComplete_some completed goesOn nodes isSome]
        exact ⟨finished, .inr ⟨request, done ++ [node], rest, ongoing.advances parent⟩⟩

theorem Orderly.changeGroups (orderly : sys.Orderly) {txGroups : ZwaveTxGroups}
    (keeps : sys.state.transmissionOngoing = true -> ∀ nodeList,
      sys.txGroups.IsLockedWith sys.state.groupId nodeList ->
        txGroups.IsLockedWith sys.state.groupId nodeList) :
    ({ sys with txGroups := txGroups } : System).Orderly := by
  obtain ⟨finished, idle | ⟨request, done, rest, ongoing⟩⟩ := orderly
  · exact ⟨finished, .inl idle⟩
  · obtain ⟨nodeList, isLocked, isLeft⟩ := ongoing.locked
    have isGroup : sys.state.groupId = request.groupId := by
      rw [ongoing.state]
      rfl
    rw [isGroup] at keeps
    have stays := keeps (by rw [ongoing.state]; rfl) nodeList isLocked
    exact ⟨finished, .inr ⟨request, done, rest,
      { ongoing with locked := ⟨nodeList, stays, isLeft⟩ }⟩⟩

/-- An undisturbed step that keeps the group locked leaves the session orderly. -/
theorem Orderly.step {sys : System} (orderly : sys.Orderly) {action : Action}
    (undisturbed : sys.Undisturbed action) (keepsLock : sys.KeepsLock action) :
    (sys.step action).Orderly := by
  cases action with
  | sendData request txStatus =>
    obtain ⟨isOk, groupExists⟩ := undisturbed
    subst isOk
    exact orderly.sendData request groupExists
  | complete index status txInfo parent txStatus =>
    cases undisturbed
    exact orderly.complete index status txInfo parent
  | abortSendData sessionId => exact undisturbed.elim
  | addNodeToGroup node groupId =>
    exact orderly.changeGroups fun _ _ locked => locked.addNodeToGroup node groupId
  | assignGroup nodes => exact orderly.changeGroups fun _ _ locked => locked.assignGroup nodes
  | lockGroup groupId => exact orderly.changeGroups fun _ _ locked => locked.lockGroup groupId
  | unlockGroup groupId =>
    exact orderly.changeGroups fun goesOn _ locked => locked.setLocked (keepsLock goesOn) false

theorem Orderly.keepsLock_of_conforms (orderly : sys.Orderly)
    (conforms : (sys.step action).Conforms) : sys.KeepsLock action := by
  cases action with
  | unlockGroup groupId =>
    intro goesOn same
    subst same
    obtain ⟨finished, ⟨isOver, -⟩ | ⟨request, members, completions, -, -, -, isGroup,
      isLocked⟩⟩ := conforms
    · change sys.state.transmissionOngoing = false at isOver
      rw [goesOn] at isOver
      cases isOver
    · change sys.state.groupId = request.groupId at isGroup
      rw [← isGroup] at isLocked
      obtain ⟨finished, ⟨isReset, -⟩ | ⟨request, done, rest, ongoing⟩⟩ := orderly
      · rw [isReset] at goesOn
        cases goesOn
      · obtain ⟨nodeList, wasLocked, -⟩ := ongoing.locked
        have sameGroup : sys.state.groupId = request.groupId := by
          rw [ongoing.state]
          rfl
        rw [← sameGroup] at wasLocked
        exact absurd isLocked (by
          change ¬ (sys.txGroups.unlockGroup sys.state.groupId).isGroupLocked _ = true
          rw [wasLocked.isGroupLocked_unlockGroup]
          exact Bool.false_ne_true)
  | _ => trivial

variable (txGroups : ZwaveTxGroups)

theorem orderly_initial : (initial txGroups).Orderly :=
  ⟨[], .inl ⟨rfl, rfl, rfl⟩⟩

/-- The callbacks of a system. -/
def calls (sys : System) : List Milestone :=
  sys.milestones.filter fun milestone =>
    match milestone with
    | .called _ _ => true
    | _ => false

/-- A send that does not return `SL_STATUS_OK` calls no callback. -/
def SilentOnRefusal (sys : System) : Action -> Prop
  | .sendData request txStatus =>
      (sys.sendData request txStatus).1 ≠ .ok -> (sys.sendData request txStatus).2.calls = sys.calls
  | _ => True

/-- The TX queue does not refuse the multicast frame of a session that starts, or the send
came without a callback. -/
def QueueTakesMulticast (sys : System) : Action -> Prop
  | .sendData request txStatus =>
      request.info.remote.isMulticast = true -> request.txOptions.sendFollowUps = true ->
        sys.state.transmissionOngoing = false -> txStatus = .ok ∨ request.onSendDataComplete = none
  | _ => True

theorem calls_of_refusal (sys : System) {request : SendRequest} {txStatus : SlStatus}
    (refused : txStatus ≠ .ok) (multicast : request.info.remote.isMulticast = true)
    (followUps : request.txOptions.sendFollowUps = true)
    (idle : sys.state.transmissionOngoing = false) :
    (sys.sendData request txStatus).1 = .fail ∧
      (sys.sendData request txStatus).2.calls = sys.calls ++
        (match request.onSendDataComplete with
          | some callback => [Milestone.called callback request.user]
          | none => []) := by
  have isFailure : sys.sendData request txStatus =
      (.fail, ({ sys with
        txGroups := sys.txGroups.lockGroup request.groupId
        state := sessionOf request }.happen
          (.locked request.groupId)).terminateCurrentSession transmitCompleteFail none
            request.user) := by
    unfold sendData zwaveTxSendData
    rw [if_neg (by simp [multicast, followUps]), if_neg (by simp [idle]), if_neg refused,
      if_neg refused]
    rfl
  rw [isFailure]
  refine ⟨rfl, ?_⟩
  unfold calls
  rw [(terminateCurrentSession_spec _ _ _ _).2.2, milestones_happen]
  rw [List.filter_append, List.filter_append, List.append_assoc]
  refine (List.append_right_inj _).mpr ?_
  change [] ++ List.filter _ ((match request.onSendDataComplete with
    | some callback => [Milestone.called callback request.user]
    | none => []) ++ _) = _
  cases request.onSendDataComplete <;> rfl

theorem silentOnRefusal_iff (sys : System) (action : Action) :
    sys.SilentOnRefusal action ↔ sys.QueueTakesMulticast action := by
  cases action with
  | sendData request txStatus =>
    constructor
    · intro silent multicast followUps idle
      by_cases isOk : txStatus = .ok
      · exact .inl isOk
      · obtain ⟨failed, called⟩ := sys.calls_of_refusal isOk multicast followUps idle
        have same := silent (by rw [failed]; decide)
        rw [called] at same
        refine .inr ?_
        cases isCallback : request.onSendDataComplete with
        | none => rfl
        | some callback =>
          rw [isCallback] at same
          exact absurd (List.append_right_eq_self.mp same) (List.cons_ne_nil _ _)
    · intro takes failed
      by_cases unsupported : request.info.remote.isMulticast = false ∨
          request.txOptions.sendFollowUps = false
      · unfold sendData
        rw [if_pos unsupported]
      · by_cases busy : sys.state.transmissionOngoing = true
        · unfold sendData
          rw [if_neg unsupported, if_pos busy]
        · rw [not_or, Bool.not_eq_false, Bool.not_eq_false] at unsupported
          have idle := Bool.eq_false_of_not_eq_true busy
          have refused : txStatus ≠ .ok := by
            intro isOk
            apply failed
            unfold sendData
            rw [if_neg (by simp [unsupported]), if_neg busy, if_pos isOk]
          rw [(sys.calls_of_refusal refused unsupported.1 unsupported.2 idle).2,
            (takes unsupported.1 unsupported.2 idle).resolve_left refused, List.append_nil]
  | _ => exact Iff.rfl

/-- In every part of a run that is not disturbed the sessions do what they should. -/
def SessionsConform (actions : List Action) : Prop :=
  ∀ done, done <+: actions -> StepsMeet step Undisturbed (initial txGroups) done ->
    (run step (initial txGroups) done).Conforms

/-- In every part of a run that is not disturbed no other component unlocks the group of a
session. -/
def LocksKept (actions : List Action) : Prop :=
  ∀ done, done <+: actions -> StepsMeet step Undisturbed (initial txGroups) done ->
    StepsMeet step KeepsLock (initial txGroups) done

theorem sessionsConform_iff (actions : List Action) :
    SessionsConform txGroups actions ↔ LocksKept txGroups actions := by
  have sessions : ∀ done, StepsMeet step Undisturbed (initial txGroups) done ->
      ((∀ part, part <+: done -> (run step (initial txGroups) part).Conforms) ↔
        StepsMeet step KeepsLock (initial txGroups) done) :=
    fun done undisturbed => throughout_iff_of_assumed Orderly Conforms
      (fun _ => Orderly.conforms)
      (fun _ _ orderly undisturbed keepsLock => orderly.step undisturbed keepsLock)
      (fun _ _ orderly _ conforms => orderly.keepsLock_of_conforms conforms)
      (orderly_initial txGroups) undisturbed
  constructor
  · intro conform done before undisturbed
    refine (sessions done undisturbed).mp fun part isPart => ?_
    exact conform part (isPart.trans before) (undisturbed.of_isPrefix isPart)
  · intro kept done before undisturbed
    exact (sessions done undisturbed).mpr (kept done before undisturbed) done
      (List.prefix_refl done)

/-- The sessions of a run do what they should and no failed send calls back exactly when no
other component unlocks the group of a session and the TX queue takes the multicast frame of
every session that has a callback. -/
theorem followUps_iff (txGroups : ZwaveTxGroups) (actions : List Action) :
    SessionsConform txGroups actions ∧ StepsMeet step SilentOnRefusal (initial txGroups) actions ↔
      LocksKept txGroups actions ∧ StepsMeet step QueueTakesMulticast (initial txGroups) actions :=
  and_congr (sessionsConform_iff txGroups actions)
    (stepsMeet_congr silentOnRefusal_iff (initial txGroups) actions)

/-- The group 1 with the nodes 2 and 300. -/
def twoNodes : ZwaveTxGroups where
  groups := fun groupId =>
    if groupId = 1 then some ⟨addNodeToMask 300 (addNodeToMask 2 emptyMask), false⟩ else none
  nextGroupIdToReuse := 1

/-- A send to the group 1 with follow-ups. -/
def requestToGroup : SendRequest where
  info := ⟨⟨1, 0, false⟩, ⟨1, 0, true⟩, .security2Authenticated⟩
  data := [0x25, 0x01, 0xFF]
  txOptions := ⟨0, 0, 10, true, ⟨0, false, 0, false⟩⟩
  onSendDataComplete := some 7
  user := 1
  parentSessionId := 5

/-- A send whose multicast frame the TX queue refuses fails and calls back. -/
theorem not_silentOnRefusal_refused :
    ¬ (SessionsConform twoNodes [.sendData requestToGroup .fail] ∧
      StepsMeet step SilentOnRefusal (initial twoNodes) [.sendData requestToGroup .fail]) := by
  rintro ⟨-, silent, -⟩
  have refused : ZwaveTx.SlStatus.fail ≠ .ok := by decide
  obtain ⟨failed, called⟩ :=
    @calls_of_refusal (initial twoNodes) requestToGroup .fail refused rfl rfl rfl
  have same := silent (by rw [failed]; exact refused)
  cases same

end System

end MulticastFollowUps
