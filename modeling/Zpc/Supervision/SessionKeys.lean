import Zpc.Supervision.FinalCallbacks

/-!
# Telling the sessions of a node apart

A Supervision Report names the node, the endpoint and a 6-bit session id.  The counter of
the session ids wraps around without a look at the sessions that are still live, so two
of them may agree in all three.  They stay apart exactly as long as no session is created
while a live one has its key.
-/

namespace Supervision

open Foundation

/-- What a Supervision Report tells about its session. -/
def SupervisionSession.key (session : SupervisionSession) : NodeId × EndpointId × Nat :=
  (session.nodeId, session.endpointId, session.sessionId)

namespace Process

/-- No two live sessions have the same key, and a report is matched to the session whose
key it has. -/
structure SessionsApart (proc : Process) : Prop where
  distinct : ∀ first ∈ proc.sessions, ∀ second ∈ proc.sessions,
    first.2.session.key = second.2.session.key -> first.1 = second.1
  matched : ∀ entry ∈ proc.sessions,
    proc.findSession entry.2.session.sessionId entry.2.session.nodeId
      entry.2.session.endpointId = entry.1

/-- The table has one session for an id, and the keys of the sessions differ. -/
structure KeysApart (proc : Process) : Prop where
  nodup : (proc.sessions.map (·.1)).Nodup
  distinct : ∀ first ∈ proc.sessions, ∀ second ∈ proc.sessions,
    first.2.session.key = second.2.session.key -> first.1 = second.1

theorem KeysApart.sessionsApart {proc : Process} (apart : proc.KeysApart) : proc.SessionsApart where
  distinct := apart.distinct
  matched := by
    intro entry mem
    unfold findSession
    split
    next found isFound =>
      apply apart.distinct found (List.mem_of_find?_eq_some isFound) entry mem
      have same := List.find?_some isFound
      simp only [Bool.and_eq_true, beq_iff_eq] at same
      simp [SupervisionSession.key, same]
    next nothing =>
      have differs := List.find?_eq_none.mp nothing entry mem
      simp at differs

/-- No session was added, those that are left have the keys and the numbers they had, and
only sessions of the earlier state were called back. -/
structure Evolves (before after : Process) : Prop where
  nodup : (before.sessions.map (·.1)).Nodup -> (after.sessions.map (·.1)).Nodup
  nextId : after.nextSupervisionId = before.nextSupervisionId
  created : after.created = before.created
  entries : ∀ entry ∈ after.sessions, ∃ session, (entry.1, session) ∈ before.sessions ∧
    session.session = entry.2.session ∧ session.number = entry.2.number
  callbacks : ∃ newer, after.callbacks = newer ++ before.callbacks ∧
    ∀ call ∈ newer, ∃ entry ∈ before.sessions, entry.2.number = call.number

variable (proc : Process) (supervisionId : SupervisionId) (request : SendRequest)
  (groupId : GroupId) (nodeId : NodeId) {before after : Process}

theorem Evolves.refl : proc.Evolves proc where
  nodup := id
  nextId := rfl
  created := rfl
  entries entry mem := ⟨entry.2, mem, rfl, rfl⟩
  callbacks := ⟨[], rfl, fun _ mem => absurd mem List.not_mem_nil⟩

theorem Evolves.trans {first second third : Process} (earlier : first.Evolves second)
    (later : second.Evolves third) : first.Evolves third where
  nodup nodup := later.nodup (earlier.nodup nodup)
  nextId := later.nextId.trans earlier.nextId
  created := later.created.trans earlier.created
  entries entry mem := by
    obtain ⟨middle, isMiddle, sameSession, sameNumber⟩ := later.entries entry mem
    obtain ⟨start, isStart, startSession, startNumber⟩ := earlier.entries _ isMiddle
    exact ⟨start, isStart, startSession.trans sameSession, startNumber.trans sameNumber⟩
  callbacks := by
    obtain ⟨newer, isSecond, fromFirst⟩ := earlier.callbacks
    obtain ⟨newest, isThird, fromSecond⟩ := later.callbacks
    refine ⟨newest ++ newer, by rw [isThird, isSecond, List.append_assoc], fun call isCall => ?_⟩
    rcases List.mem_append.mp isCall with isNewest | isNewer
    · obtain ⟨entry, mem, same⟩ := fromSecond call isNewest
      obtain ⟨session, isStart, -, sameStart⟩ := earlier.entries entry mem
      exact ⟨_, isStart, sameStart.trans same⟩
    · exact fromFirst call isNewer

theorem Evolves.keysApart (evolves : before.Evolves after) (apart : before.KeysApart) :
    after.KeysApart where
  nodup := evolves.nodup apart.nodup
  distinct := by
    intro first isFirst second isSecond same
    obtain ⟨earlier, isEarlier, sameSession, -⟩ := evolves.entries first isFirst
    obtain ⟨other, isOther, otherSession, -⟩ := evolves.entries second isSecond
    apply apart.distinct _ isEarlier _ isOther
    rw [sameSession, otherSession]
    exact same

theorem Evolves.restartTimer : proc.Evolves proc.restartTimer := { Evolves.refl _ with }

theorem Evolves.updateSession {change : SupervisedSession -> SupervisedSession}
    (keeps : ∀ session, (change session).session = session.session)
    (keepsNumber : ∀ session, (change session).number = session.number) :
    proc.Evolves (proc.updateSession supervisionId change) where
  nodup nodup := by
    unfold Process.updateSession
    rw [keys_updateKey]
    exact nodup
  nextId := rfl
  created := rfl
  entries entry mem := by
    rcases mem_updateKey.mp mem with ⟨earlier, -⟩ | ⟨session, earlier, changed⟩
    · exact ⟨entry.2, earlier, rfl, rfl⟩
    · rw [changed]
      exact ⟨session, earlier, (keeps session).symm, (keepsNumber session).symm⟩
  callbacks := ⟨[], rfl, fun _ mem => absurd mem List.not_mem_nil⟩

theorem Evolves.eraseSession (reason : Reason) (supervisionId : SupervisionId) :
    proc.Evolves (proc.eraseSession reason supervisionId) := by
  unfold Process.eraseSession
  split
  · exact .refl proc
  · refine ⟨fun nodup => nodup_keys_eraseKey nodup supervisionId, rfl, rfl, fun entry mem => ?_,
      [], rfl, fun _ mem => absurd mem List.not_mem_nil⟩
    exact ⟨entry.2, (mem_eraseKey.mp mem).1, rfl, rfl⟩

theorem Evolves.closeSession (reason : Reason) (supervisionId : SupervisionId) :
    proc.Evolves (proc.closeSession reason supervisionId) := by
  unfold Process.closeSession
  split
  · exact .refl proc
  · split
    · exact .refl proc
    · exact (Evolves.eraseSession proc reason supervisionId).trans (.restartTimer _)

theorem Evolves.callBack {proc : Process} (evolves : before.Evolves proc)
    {supervisionId : SupervisionId} {session : SupervisedSession}
    (mem : (supervisionId, session) ∈ before.sessions) (function : CallbackFunction)
    (status : Nat) (txInfo : Option TxInfo) (call : Call) :
    before.Evolves (proc.callBack supervisionId session function status txInfo call) := by
  obtain ⟨newer, isNewer, fromBefore⟩ := evolves.callbacks
  refine { evolves with callbacks := ⟨_ :: newer, congrArg (List.cons _) isNewer, ?_⟩ }
  intro other isCall
  rcases List.mem_cons.mp isCall with isNew | isOld
  · rw [isNew]
    exact ⟨_, mem, rfl⟩
  · exact fromBefore other isOld

theorem Evolves.closeSessionByTxSession (txSessionId : TxSessionId) :
    proc.Evolves (proc.closeSessionByTxSession txSessionId) := by
  unfold Process.closeSessionByTxSession
  split
  · exact .refl proc
  · exact .closeSession proc .closed _

theorem Evolves.sendReturns (wantsSession : Bool) (accepted : Option TxSessionId) :
    proc.Evolves (proc.sendReturns supervisionId wantsSession accepted) := by
  unfold Process.sendReturns
  split
  next => exact (Evolves.closeSession proc .closed supervisionId).trans (.restartTimer _)
  next txSessionId =>
    have assigned : proc.Evolves (proc.assignSessionTxId supervisionId txSessionId) :=
      .updateSession proc supervisionId (fun _ => rfl) fun _ => rfl
    split
    · exact assigned.trans (.restartTimer _)
    · exact .restartTimer proc

theorem Evolves.onSendDataComplete (status : Nat) (txInfo : Option TxInfo) (user : UserPointer) :
    proc.Evolves (proc.onSendDataComplete status txInfo user) := by
  refine (Evolves.restartTimer proc).trans ?_
  unfold Process.onSendDataComplete
  dsimp only
  split
  next => exact .refl _
  next session found =>
    split
    · split
      · exact (Evolves.refl _).callBack (mem_of_lookup_eq_some found) _ _ _ _
      · exact .closeSession _ _ _
    · exact .updateSession _ _ (fun _ => rfl) fun _ => rfl

theorem Evolves.noteReport (report : Report) :
    proc.Evolves (proc.noteReport supervisionId report) :=
  .updateSession proc supervisionId (fun _ => rfl) fun _ => rfl

theorem Evolves.onSupervisionReportParsed (report : Report) :
    proc.Evolves (proc.onSupervisionReportParsed report) := by
  refine (Evolves.restartTimer proc).trans ?_
  unfold Process.onSupervisionReportParsed
  dsimp only
  have noted := fun supervisionId => Evolves.noteReport proc.restartTimer supervisionId report
  split
  next => exact .refl _
  next session found =>
    have mem := mem_of_lookup_eq_some found
    split
    · split
      · exact ((noted _).trans (.restartTimer _)).callBack mem _ _ _ _
      · exact (noted _).trans (.restartTimer _)
    · split
      · exact (noted _).callBack mem _ _ _ _
      · exact (noted _).trans (.closeSession _ _ _)

theorem Evolves.eraseExpired (expired : List SupervisionId) :
    proc.Evolves (proc.eraseExpired expired) := by
  refine Evolves.trans ?_ (.restartTimer _)
  induction expired generalizing proc with
  | nil => exact .refl proc
  | cons supervisionId rest ih =>
    exact (Evolves.eraseSession proc .ended supervisionId).trans (ih _)

theorem Evolves.timerExpires : proc.Evolves proc.timerExpires := by
  unfold Process.timerExpires
  split
  · exact .refl proc
  · split
    · have stopped : proc.Evolves { proc with supervisionTimer := none } := { Evolves.refl _ with }
      unfold onTimerExpiredEvent
      dsimp only
      split
      next supervisionId session function isCalled =>
        have isFirst := (expiredSessions_spec proc.clockTime proc.sessions).2
          supervisionId session function isCalled
        exact stopped.callBack (List.mem_of_find?_eq_some isFirst.2) _ _ _ _
      next => exact stopped.trans (.eraseExpired _ _)
    · exact .refl proc

theorem Evolves.deleteSessions (ids : List SupervisionId) :
    proc.Evolves (proc.deleteSessions ids) := by
  induction ids generalizing proc with
  | nil => exact .refl proc
  | cons supervisionId rest ih =>
    unfold deleteSessions
    split
    next => exact ih proc
    next session found =>
      split
      · exact (Evolves.refl proc).callBack (mem_of_lookup_eq_some found) _ _ _ _
      · exact (Evolves.closeSession proc .ended supervisionId).trans (ih _)

theorem Evolves.callReturns (proc : Process) (accepted : Option TxSessionId) :
    proc.Evolves (proc.callReturns accepted) := by
  unfold Process.callReturns
  split
  · exact .refl proc
  next call rest _ =>
    have popped : proc.Evolves { proc with calls := rest } := { Evolves.refl _ with }
    cases call with
    | send supervisionId wantsSession =>
      exact popped.trans (.sendReturns _ supervisionId wantsSession accepted)
    | workingCallback => exact popped
    | finalCallback supervisionId => exact popped.trans (.closeSession _ .ended supervisionId)
    | expiry expired => exact popped.trans (.eraseExpired _ expired)
    | deletion supervisionId rest =>
      exact popped.trans
        ((Evolves.closeSession _ .ended supervisionId).trans (.deleteSessions _ rest))

theorem Evolves.updateSinglecastFollowUpSession :
    proc.Evolves (proc.updateSinglecastFollowUpSession request nodeId).2 := by
  unfold Process.updateSinglecastFollowUpSession
  split
  · exact .refl proc
  · exact .updateSession proc _ (fun _ => rfl) fun _ => rfl

/-- The session that a request inserts for a node has the key of no live one.  Nothing is
inserted when the next supervision id is in use. -/
def KeyFree (proc : Process) (request : SendRequest) (nodeId : NodeId) : Prop :=
  hasKey proc.sessions proc.nextSupervisionId = false ->
    ∀ entry ∈ proc.sessions,
      entry.2.session.key ≠ (nodeId, request.endpointId, proc.sessionIdOfNext)

/-- One round of the loop over the nodes of a group. -/
def insertFor (request : SendRequest) (groupId : GroupId) (proc : Process)
    (nodeId : NodeId) : Process :=
  proc.insertSession (proc.newSession request nodeId groupId)

theorem createGroupSession_eq (proc : Process) (groups : GroupId -> NodeId -> Bool)
    (request : SendRequest) (groupId : GroupId) :
    (proc.createGroupSession groups request groupId).2 =
      (run (insertFor request groupId) proc (nodesOf (groups groupId))).incrementSessionId := by
  have loop : ∀ (nodes : List NodeId) (last : SupervisionId) (proc : Process),
      (nodes.foldl
        (fun created nodeId =>
          (created.2.nextSupervisionId,
            created.2.insertSession (created.2.newSession request nodeId groupId)))
        (last, proc)).2 = run (insertFor request groupId) proc nodes := by
    intro nodes
    induction nodes with
    | nil => exact fun _ _ => rfl
    | cons nodeId rest ih => exact fun last proc => ih _ _
  exact congrArg incrementSessionId (loop _ _ _)

theorem subset_insertFor (proc : Process) (nodeId : NodeId) :
    proc.sessions ⊆ (insertFor request groupId proc nodeId).sessions :=
  subset_insertNew _ _ _

theorem KeysApart.insertFor_iff {proc : Process} (apart : proc.KeysApart)
    (request : SendRequest) (groupId : GroupId) (nodeId : NodeId) :
    (insertFor request groupId proc nodeId).KeysApart ↔ proc.KeyFree request nodeId := by
  have members : ∀ entry, entry ∈ (insertFor request groupId proc nodeId).sessions ↔ _ :=
    fun entry => mem_insertNew
  constructor
  · intro after isNew entry mem same
    have inserted := (members _).mpr (.inr ⟨isNew, rfl⟩)
    have sameId : entry.1 = proc.nextSupervisionId :=
      after.distinct entry ((members entry).mpr (.inl mem)) _ inserted same
    apply hasKey_eq_false_iff.mp isNew
    rw [← sameId]
    exact List.mem_map_of_mem mem
  · intro free
    refine ⟨nodup_insertNew apart.nodup _ _, ?_⟩
    intro first isFirst second isSecond same
    rcases (members first).mp isFirst with old | ⟨isNew, rfl⟩
    · rcases (members second).mp isSecond with alsoOld | ⟨isNew, rfl⟩
      · exact apart.distinct first old second alsoOld same
      · exact absurd same (free isNew first old)
    · rcases (members second).mp isSecond with old | ⟨-, rfl⟩
      · exact absurd same.symm (free isNew second old)
      · rfl

theorem subset_run_insertFor (proc : Process) (nodes : List NodeId) :
    proc.sessions ⊆ (run (insertFor request groupId) proc nodes).sessions := by
  induction nodes generalizing proc with
  | nil => exact List.Subset.refl _
  | cons nodeId rest ih =>
    apply List.Subset.trans (subset_insertFor request groupId proc nodeId)
    exact ih _

theorem KeysApart.insertGroup_iff {proc : Process} (apart : proc.KeysApart)
    (request : SendRequest) (groupId : GroupId) (nodes : List NodeId) :
    (run (insertFor request groupId) proc nodes).KeysApart ↔
      StepsMeet (insertFor request groupId) (fun proc nodeId => proc.KeyFree request nodeId)
        proc nodes := by
  induction nodes generalizing proc with
  | nil => exact iff_of_true apart trivial
  | cons nodeId rest ih =>
    constructor
    · intro after
      -- what is apart at the end was apart after the first round, as nothing is removed
      have once : (insertFor request groupId proc nodeId).KeysApart := by
        refine ⟨nodup_insertNew apart.nodup _ _, ?_⟩
        have kept := subset_run_insertFor request groupId
          (insertFor request groupId proc nodeId) rest
        exact fun first isFirst second isSecond =>
          after.distinct first (kept isFirst) second (kept isSecond)
      exact ⟨(apart.insertFor_iff request groupId nodeId).mp once, (ih once).mp after⟩
    · rintro ⟨free, others⟩
      exact (ih ((apart.insertFor_iff request groupId nodeId).mpr free)).mpr
        others

/-- The sessions that a request creates have the keys of no live ones. -/
def KeysFree (proc : Process) (groups : GroupId -> NodeId -> Bool) (request : SendRequest) : Prop :=
  match request.remote with
  | .node nodeId => request.groupId = zwaveTxInvalidGroup -> proc.KeyFree request nodeId
  | .multicast groupId =>
      StepsMeet (insertFor request groupId) (fun proc nodeId => proc.KeyFree request nodeId)
        proc (nodesOf (groups groupId))

/-- A session is created only while no live one has its key. -/
def CreatesApart (proc : Process) : Action -> Prop
  | .sendData groups request =>
      request.dataLength ≤ encapsulatedCommandMaximumSize -> proc.KeysFree groups request
  | _ => True

theorem keysApart_congr {proc other : Process} (same : other.sessions = proc.sessions) :
    other.KeysApart ↔ proc.KeysApart := by
  constructor <;> rintro ⟨nodup, distinct⟩
  · exact ⟨same ▸ nodup, same ▸ distinct⟩
  · exact ⟨same ▸ nodup, same ▸ distinct⟩

theorem keysApart_incrementSessionId {proc : Process} :
    proc.incrementSessionId.KeysApart ↔ proc.KeysApart :=
  keysApart_congr rfl

theorem KeysApart.createSession_iff {proc : Process} (apart : proc.KeysApart)
    (groups : GroupId -> NodeId -> Bool) (request : SendRequest) :
    (proc.createSession groups request).2.KeysApart ↔ proc.KeysFree groups request := by
  unfold createSession KeysFree
  cases request.remote with
  | multicast groupId =>
    rw [createGroupSession_eq]
    exact keysApart_incrementSessionId.trans (apart.insertGroup_iff request groupId _)
  | node nodeId =>
    dsimp only
    split
    next followUp =>
      have evolves := Evolves.updateSinglecastFollowUpSession proc request nodeId
      exact iff_of_true (evolves.keysApart apart) fun single => absurd single followUp
    next single =>
      have iff := keysApart_incrementSessionId.trans
        (apart.insertFor_iff request zwaveTxInvalidGroup nodeId)
      exact ⟨fun after _ => iff.mp after, fun free => iff.mpr (free (not_not.mp single))⟩

/-- Only `zwave_command_class_supervision_send_data` adds sessions. -/
theorem Evolves.step (proc : Process) :
    ∀ action, (∀ groups request, action ≠ .sendData groups request) ->
      proc.Evolves (proc.step action)
  | .sendData groups request, sends => absurd rfl (sends groups request)
  | .sendDataComplete status txInfo user, _ => .onSendDataComplete proc status txInfo user
  | .reportReceived report, _ => .onSupervisionReportParsed proc report
  | .timerExpires, _ => .timerExpires proc
  | .abortSendData txSessionId, _ => .closeSessionByTxSession proc txSessionId
  | .nodeDeleted _, _ => .deleteSessions proc _
  | .callReturns accepted, _ => .callReturns proc accepted
  | .clockTick _, _ => { Evolves.refl _ with }

/-- The keys stay apart exactly if the session created has its own. -/
theorem KeysApart.step_iff {proc : Process} (apart : proc.KeysApart) (action : Action) :
    (proc.step action).KeysApart ↔ proc.CreatesApart action := by
  cases action with
  | sendData groups request =>
    unfold step sendData
    dsimp only
    split
    next tooLong => exact iff_of_true apart fun fits => absurd fits (Nat.not_le_of_lt tooLong)
    next fits =>
      have iff := apart.createSession_iff groups request
      have whenFits : proc.CreatesApart (.sendData groups request) ↔ proc.KeysFree groups request :=
        ⟨fun free => free (Nat.le_of_not_lt fits), fun free _ => free⟩
      rw [whenFits, ← iff]
      split
      · exact Iff.rfl
      · exact keysApart_congr rfl
  | _ => exact iff_of_true ((Evolves.step proc _ fun _ _ => by nofun).keysApart apart) trivial

/-- Every step keeps the ids of the sessions distinct. -/
theorem nodup_step {proc : Process} (nodup : (proc.sessions.map (·.1)).Nodup) (action : Action) :
    ((proc.step action).sessions.map (·.1)).Nodup := by
  cases action with
  | sendData groups request =>
    have created : ((proc.createSession groups request).2.sessions.map (·.1)).Nodup := by
      unfold createSession
      cases request.remote with
      | multicast groupId =>
        rw [createGroupSession_eq]
        exact @run_invariant _ _ (insertFor request groupId)
          (fun reached : Process => (reached.sessions.map (·.1)).Nodup)
          (fun reached nodeId nodup => nodup_insertNew nodup _ _) proc nodup _
      | node nodeId =>
        dsimp only
        split
        · exact (Evolves.updateSinglecastFollowUpSession proc request nodeId).nodup nodup
        · exact nodup_insertNew nodup _ _
    unfold step sendData
    dsimp only
    split
    · exact nodup
    · split <;> exact created
  | _ => exact (Evolves.step proc _ fun _ _ => by nofun).nodup nodup

/-- In every state of a run the live sessions are told apart by what a report says, and
reports are matched to their sessions, exactly when no step creates a session while a live
one has its key. -/
theorem sessions_apart_throughout_iff (nextSessionId : Nat) (actions : List Action) :
    (∀ done, done <+: actions -> (run step (initial nextSessionId) done).SessionsApart) ↔
      StepsMeet step CreatesApart (initial nextSessionId) actions := by
  apply throughout_iff_of_invariant KeysApart SessionsApart
  · exact fun _ apart => apart.sessionsApart
  · exact fun proc action apart free => (apart.step_iff action).mpr free
  · intro proc action apart after
    exact (apart.step_iff action).mp ⟨nodup_step apart.nodup action, after.distinct⟩
  · exact ⟨List.nodup_nil, fun first mem => absurd mem List.not_mem_nil⟩

/-- Sixty-five frames are sent to one node, each after the one before was transmitted.  The
node reports on none of them. -/
def burst : List Action :=
  (List.range 65).flatMap fun txSessionId =>
    [.sendData (fun _ _ => false) (sampleRequest 5), .callReturns (some txSessionId),
      .sendDataComplete transmitCompleteOk none (txSessionId + 1)]

/-- The first and the last session of the burst have the same key. -/
theorem not_sessionsApart_burst : ¬ (run step (initial 0) burst).SessionsApart := by
  intro apart
  have collision : ∃ first ∈ (run step (initial 0) burst).sessions,
      ∃ second ∈ (run step (initial 0) burst).sessions,
        first.2.session.key = second.2.session.key ∧ first.1 ≠ second.1 := by
    decide +kernel
  obtain ⟨first, isFirst, second, isSecond, same, differs⟩ := collision
  exact differs (apart.distinct first isFirst second isSecond same)

end Process

end Supervision
