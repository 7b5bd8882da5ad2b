import Zpc.Foundation.FirstMatch
import Zpc.Supervision.Deadlines

/-!
# The final callback of a session

A session is erased only after its callback returned, so the callback runs while the
session is still in the table.  Whatever happens inside the callback may find the session
again: the Get of the session may be evicted by the send that the callback makes, a
follow-up may give a session a callback that is about to be erased.  The calls under way
say which sessions these are, and they are called back once as long as nothing that
happens inside a callback touches them.
-/

namespace Supervision

open Foundation

/-- The sessions that are erased when a call returns. -/
def Call.erases : Call -> List SupervisionId
  | .finalCallback supervisionId => [supervisionId]
  | .expiry expired => expired
  | .deletion supervisionId _ => [supervisionId]
  | _ => []

/-- A session is erased when one of the calls returns. -/
def Pending (calls : List Call) (supervisionId : SupervisionId) : Prop :=
  ∃ call ∈ calls, supervisionId ∈ call.erases

/-- The supervision id after a given one. -/
def followingId (supervisionId : SupervisionId) : SupervisionId :=
  let next := (supervisionId + 1) % 2 ^ 32
  if next = invalidSupervisionId then next + 1 else next

namespace Process

/-- The final calls of a session. -/
def finalCalls (proc : Process) (number : Nat) : List CallbackCall :=
  proc.callbacks.filter fun call => call.number == number && call.status != supervisionReportWorking

/-- A session has at most one final callback, exactly one when it ended with a callback,
and no callback after it. -/
structure CalledBackOnce (proc : Process) : Prop where
  atMostOnce : ∀ number, (proc.finalCalls number).length ≤ 1
  endedOnce : ∀ removal ∈ proc.removals, removal.reason = .ended -> removal.callback ≠ none ->
    (proc.finalCalls removal.number).length = 1
  silentAfter : proc.callbacks.Pairwise fun later earlier =>
    later.number = earlier.number -> earlier.status = supervisionReportWorking

/-- There is a live session with a callback. -/
def hasCallback (proc : Process) (supervisionId : SupervisionId) : Bool :=
  (proc.findSessionByUniqueId supervisionId).any fun session => session.callback.isSome

/-- How many sessions a request asks for. -/
def requestedSessions (groups : GroupId -> NodeId -> Bool) (request : SendRequest) : Nat :=
  match request.remote with
  | .multicast groupId => (nodesOf (groups groupId)).length
  | .node _ => if request.groupId ≠ zwaveTxInvalidGroup then 0 else 1

/-- The session that a follow-up changes. -/
def followUpSession (proc : Process)
    (request : SendRequest) : Option (SupervisionId × SupervisedSession) :=
  match request.remote with
  | .multicast _ => none
  | .node nodeId =>
      if request.groupId ≠ zwaveTxInvalidGroup then
        proc.sessions.find? fun entry =>
          entry.2.session.nodeId == nodeId && entry.2.session.endpointId == request.endpointId &&
            entry.2.session.groupId == request.groupId
      else none

/-- What happens inside a callback leaves the sessions alone that are about to be erased:
they are not called back, they get no callback, and no session is created under their
id. -/
def LeavesPending (proc : Process) : Action -> Prop
  | .sendData groups request =>
      (∀ supervisionId ∈
          List.iterate followingId proc.nextSupervisionId (requestedSessions groups request),
        Pending proc.calls supervisionId -> hasKey proc.sessions supervisionId = true) ∧
      ∀ entry, proc.followUpSession request = some entry -> Pending proc.calls entry.1 ->
        entry.2.callback = none -> request.onSupervisionComplete = none
  | .sendDataComplete status _ user =>
      status ≠ transmitCompleteOk -> status ≠ transmitCompleteVerified ->
        proc.hasCallback (user % 2 ^ 32) = true -> ¬ Pending proc.calls (user % 2 ^ 32)
  | .reportReceived report =>
      let supervisionId := proc.findSession report.sessionId report.nodeId report.endpointId
      proc.hasCallback supervisionId = true -> ¬ Pending proc.calls supervisionId
  | .timerExpires =>
      ∀ entry,
        (proc.sessions.find? fun entry =>
          decide (entry.2.expiryTime ≤ proc.clockTime) && entry.2.callback.isSome) =
            some entry -> ¬ Pending proc.calls entry.1
  | .nodeDeleted nodeId =>
      ∀ supervisionId, (proc.sessionsWith nodeId).find? proc.hasCallback =
        some supervisionId -> ¬ Pending proc.calls supervisionId
  | .callReturns _ =>
      ∀ closed rest calls, proc.calls = .deletion closed rest :: calls ->
        ∀ supervisionId,
          (rest.find? fun other => other != closed && proc.hasCallback other) =
            some supervisionId -> ¬ Pending proc.calls supervisionId
  | _ => True

/-! ## Accounts -/

/-- The record agrees with the table.  The claimed sessions are those that are about to be
erased: their final callback was made, or they have none. -/
structure Accounts (proc : Process) (claimed : SupervisionId -> Prop) : Prop where
  nodup : (proc.sessions.map (·.1)).Nodup
  valid : ∀ entry ∈ proc.sessions, entry.1 ≠ invalidSupervisionId
  validNext : proc.nextSupervisionId ≠ invalidSupervisionId
  numbered : ∀ entry ∈ proc.sessions, entry.2.number < proc.created
  recorded : ∀ call ∈ proc.callbacks, call.number < proc.created
  apart : ∀ first ∈ proc.sessions, ∀ second ∈ proc.sessions,
    first.2.number = second.2.number -> first.1 = second.1
  silentAfter : proc.callbacks.Pairwise fun later earlier =>
    later.number = earlier.number -> earlier.status = supervisionReportWorking
  ended : ∀ removal ∈ proc.removals, removal.reason = .ended -> removal.callback ≠ none ->
    ∃ call ∈ proc.callbacks, call.number = removal.number ∧ call.status ≠ supervisionReportWorking
  unclaimed : ∀ entry ∈ proc.sessions, ¬ claimed entry.1 ->
    ∀ call ∈ proc.callbacks, call.number = entry.2.number -> call.status = supervisionReportWorking
  claimed : ∀ entry ∈ proc.sessions, claimed entry.1 -> entry.2.callback ≠ none ->
    ∃ call ∈ proc.callbacks, call.number = entry.2.number ∧ call.status ≠ supervisionReportWorking

variable {proc : Process} {claimed before after : SupervisionId -> Prop}
  {supervisionId : SupervisionId} {session live : SupervisedSession} {call : Call} {status : Nat}

theorem mem_finalCalls {number : Nat} {call : CallbackCall} :
    call ∈ proc.finalCalls number ↔
      call ∈ proc.callbacks ∧ call.number = number ∧ call.status ≠ supervisionReportWorking := by
  simp [finalCalls]

theorem Accounts.calledBackOnce (accounts : proc.Accounts claimed) : proc.CalledBackOnce := by
  have atMostOnce : ∀ number, (proc.finalCalls number).length ≤ 1 := by
    intro number
    apply length_le_one_of_pairwise (accounts.silentAfter.filter _)
    intro first isFirst second isSecond silent
    have firstCall := mem_finalCalls.mp isFirst
    have secondCall := mem_finalCalls.mp isSecond
    exact secondCall.2.2 (silent (firstCall.2.1.trans secondCall.2.1.symm))
  refine ⟨atMostOnce, fun removal mem ended hadCallback => ?_, accounts.silentAfter⟩
  obtain ⟨call, isCall, sameNumber, final⟩ := accounts.ended removal mem ended hadCallback
  have called : call ∈ proc.finalCalls removal.number :=
    mem_finalCalls.mpr ⟨isCall, sameNumber, final⟩
  exact Nat.le_antisymm (atMostOnce removal.number) (List.length_pos_of_mem called)

theorem Accounts.congr (accounts : proc.Accounts before)
    (same : ∀ entry ∈ proc.sessions, before entry.1 ↔ after entry.1) : proc.Accounts after :=
  { accounts with
    unclaimed := fun entry mem unclaimed =>
      accounts.unclaimed entry mem fun claimed => unclaimed ((same entry mem).mp claimed)
    claimed := fun entry mem claimed => accounts.claimed entry mem ((same entry mem).mpr claimed) }

theorem Accounts.claim (accounts : proc.Accounts before)
    (kept : ∀ supervisionId, before supervisionId -> after supervisionId)
    (silent : ∀ entry ∈ proc.sessions, after entry.1 -> ¬ before entry.1 ->
      entry.2.callback = none) :
    proc.Accounts after :=
  { accounts with
    unclaimed := fun entry mem unclaimed =>
      accounts.unclaimed entry mem fun claimed => unclaimed (kept entry.1 claimed)
    claimed := by
      intro entry mem claimed hasCallback
      by_cases earlier : before entry.1
      · exact accounts.claimed entry mem earlier hasCallback
      · exact absurd (silent entry mem claimed earlier) hasCallback }

/-! ## Operations on the table -/

theorem Accounts.restartTimer (accounts : proc.Accounts claimed) :
    proc.restartTimer.Accounts claimed :=
  { accounts with }

theorem Accounts.updateSession {proc : Process} {claimed : SupervisionId -> Prop}
    (accounts : proc.Accounts claimed) (supervisionId : SupervisionId)
    {change : SupervisedSession -> SupervisedSession}
    (sameNumber : ∀ session, (change session).number = session.number)
    (noCallback : claimed supervisionId -> ∀ session,
      (supervisionId, session) ∈ proc.sessions -> (change session).callback ≠ none ->
        session.callback ≠ none) :
    (proc.updateSession supervisionId change).Accounts claimed := by
  have earlier : ∀ entry ∈ (proc.updateSession supervisionId change).sessions,
      ∃ session, (entry.1, session) ∈ proc.sessions ∧ session.number = entry.2.number ∧
        (claimed entry.1 -> entry.2.callback ≠ none -> session.callback ≠ none) := by
    intro entry mem
    rcases mem_updateKey.mp mem with ⟨isEarlier, -⟩ | ⟨session, isEarlier, changed⟩
    · exact ⟨entry.2, isEarlier, rfl, fun _ hasCallback => hasCallback⟩
    · subst changed
      exact ⟨session, isEarlier, (sameNumber session).symm,
        fun isClaimed => noCallback isClaimed session isEarlier⟩
  constructor
  · unfold Process.updateSession
    rw [keys_updateKey]
    exact accounts.nodup
  · intro entry mem
    obtain ⟨session, isEarlier, -⟩ := earlier entry mem
    exact accounts.valid (entry.1, session) isEarlier
  · exact accounts.validNext
  · intro entry mem
    obtain ⟨session, isEarlier, same, -⟩ := earlier entry mem
    rw [← same]
    exact accounts.numbered _ isEarlier
  · exact accounts.recorded
  · intro first isFirst second isSecond same
    obtain ⟨one, isOne, sameOne, -⟩ := earlier first isFirst
    obtain ⟨other, isOther, sameOther, -⟩ := earlier second isSecond
    exact accounts.apart (first.1, one) isOne (second.1, other) isOther
      (sameOne.trans (same.trans sameOther.symm))
  · exact accounts.silentAfter
  · exact accounts.ended
  · intro entry mem notClaimed
    obtain ⟨session, isEarlier, same, -⟩ := earlier entry mem
    rw [← same]
    exact accounts.unclaimed _ isEarlier notClaimed
  · intro entry mem isClaimed hasCallback
    obtain ⟨session, isEarlier, same, hadCallback⟩ := earlier entry mem
    rw [← same]
    exact accounts.claimed _ isEarlier isClaimed (hadCallback isClaimed hasCallback)

variable {reason : Reason}

theorem Accounts.eraseSession (accounts : proc.Accounts claimed)
    (justified : reason = .ended -> claimed supervisionId) :
    (proc.eraseSession reason supervisionId).Accounts claimed := by
  unfold Process.eraseSession
  split
  next => exact accounts
  next session found =>
    have mem := mem_of_lookup_eq_some found
    have kept : ∀ {entry}, entry ∈ eraseKey proc.sessions supervisionId ->
        entry ∈ proc.sessions := fun isKept => (mem_eraseKey.mp isKept).1
    constructor
    · exact nodup_keys_eraseKey accounts.nodup supervisionId
    · exact fun entry isKept => accounts.valid entry (kept isKept)
    · exact accounts.validNext
    · exact fun entry isKept => accounts.numbered entry (kept isKept)
    · exact accounts.recorded
    · exact fun first isFirst second isSecond =>
        accounts.apart first (kept isFirst) second (kept isSecond)
    · exact accounts.silentAfter
    · intro removal isRemoval ended hadCallback
      rcases List.mem_cons.mp isRemoval with isNew | isEarlier
      · subst isNew
        exact accounts.claimed _ mem (justified ended) hadCallback
      · exact accounts.ended removal isEarlier ended hadCallback
    · exact fun entry isKept => accounts.unclaimed entry (kept isKept)
    · exact fun entry isKept => accounts.claimed entry (kept isKept)

theorem eraseSession_notMem (proc : Process) (reason : Reason) (supervisionId : SupervisionId) :
    ∀ entry ∈ (proc.eraseSession reason supervisionId).sessions, entry.1 ≠ supervisionId := by
  intro entry mem same
  unfold eraseSession at mem
  split at mem
  next absent =>
    have differs := List.lookup_eq_none_iff.mp absent entry mem
    rw [same, bne_self_eq_false] at differs
    cases differs
  next => exact (mem_eraseKey.mp mem).2 same

theorem Accounts.closeSession (accounts : proc.Accounts claimed)
    (justified : reason = .ended -> claimed supervisionId) :
    (proc.closeSession reason supervisionId).Accounts claimed := by
  unfold Process.closeSession
  split
  · exact accounts
  · split
    · exact accounts
    · exact (accounts.eraseSession justified).restartTimer

theorem Accounts.closeSession_notMem (accounts : proc.Accounts claimed) (reason : Reason)
    (supervisionId : SupervisionId) :
    ∀ entry ∈ (proc.closeSession reason supervisionId).sessions, entry.1 ≠ supervisionId := by
  unfold Process.closeSession
  split
  next isInvalid =>
    rw [isInvalid]
    exact accounts.valid
  next =>
    split
    next absent =>
      have erased := eraseSession_notMem proc reason supervisionId
      unfold Process.eraseSession at erased
      rw [absent] at erased
      exact erased
    next => exact eraseSession_notMem proc reason supervisionId

theorem Accounts.endSession
    (accounts : proc.Accounts fun other => other = supervisionId ∨ claimed other) :
    (proc.closeSession .ended supervisionId).Accounts claimed := by
  apply (accounts.closeSession fun _ => .inl rfl).congr
  intro entry mem
  have differs := accounts.closeSession_notMem .ended supervisionId entry mem
  exact or_iff_right differs

theorem Accounts.endSilentSession (accounts : proc.Accounts claimed)
    (found : proc.findSessionByUniqueId supervisionId = some session)
    (silent : session.callback = none) :
    (proc.closeSession .ended supervisionId).Accounts claimed := by
  apply Accounts.endSession
  apply accounts.claim fun _ isClaimed => .inr isClaimed
  intro entry mem isClaimed notClaimed
  have same : entry.1 = supervisionId := isClaimed.resolve_right notClaimed
  have isFound := lookup_eq_some_of_mem accounts.nodup mem
  rw [same] at isFound
  have sameSession : entry.2 = session := Option.some.inj (isFound.symm.trans found)
  rw [sameSession]
  exact silent

theorem Accounts.eraseExpired {expired : List SupervisionId}
    (accounts : proc.Accounts fun other => other ∈ expired ∨ claimed other) :
    (proc.eraseExpired expired).Accounts claimed := by
  apply Accounts.restartTimer
  induction expired generalizing proc with
  | nil => exact accounts.congr fun _ _ => or_iff_right List.not_mem_nil
  | cons supervisionId rest ih =>
    apply ih
    apply (accounts.eraseSession fun _ => .inl List.mem_cons_self).congr
    intro entry mem
    have differs := eraseSession_notMem proc .ended supervisionId entry mem
    rw [List.mem_cons, or_iff_right differs]

theorem Accounts.insertSession {proc : Process} {claimed : SupervisionId -> Prop}
    (accounts : proc.Accounts claimed) {session : SupervisedSession}
    (numbered : session.number = proc.created)
    (free : claimed proc.nextSupervisionId -> hasKey proc.sessions proc.nextSupervisionId = true) :
    (proc.insertSession session).Accounts claimed := by
  have members : ∀ {entry}, entry ∈ (proc.insertSession session).sessions ->
      entry ∈ proc.sessions ∨
        (hasKey proc.sessions proc.nextSupervisionId = false ∧
          entry = (proc.nextSupervisionId, session)) := mem_insertNew.mp
  constructor
  · exact nodup_insertNew accounts.nodup _ _
  · intro entry mem
    rcases members mem with isEarlier | ⟨-, isNew⟩
    · exact accounts.valid entry isEarlier
    · rw [isNew]
      exact accounts.validNext
  · unfold Process.insertSession incrementUniqueSupervisionId
    dsimp only
    split
    next => simp [invalidSupervisionId]
    next isValid => exact isValid
  · intro entry mem
    rcases members mem with isEarlier | ⟨-, isNew⟩
    · exact Nat.lt_succ_of_lt (accounts.numbered entry isEarlier)
    · rw [isNew]
      exact Nat.lt_succ_of_le (Nat.le_of_eq numbered)
  · exact fun call isCall => Nat.lt_succ_of_lt (accounts.recorded call isCall)
  · intro first isFirst second isSecond same
    rcases members isFirst with firstEarlier | ⟨-, firstNew⟩
    · rcases members isSecond with secondEarlier | ⟨-, secondNew⟩
      · exact accounts.apart first firstEarlier second secondEarlier same
      · rw [secondNew] at same
        exact absurd (same.trans numbered) (Nat.ne_of_lt (accounts.numbered first firstEarlier))
    · rcases members isSecond with secondEarlier | ⟨-, secondNew⟩
      · rw [firstNew] at same
        exact absurd (same.symm.trans numbered)
          (Nat.ne_of_lt (accounts.numbered second secondEarlier))
      · rw [firstNew, secondNew]
  · exact accounts.silentAfter
  · exact accounts.ended
  · intro entry mem notClaimed call isCall same
    rcases members mem with isEarlier | ⟨-, isNew⟩
    · exact accounts.unclaimed entry isEarlier notClaimed call isCall same
    · rw [isNew] at same
      exact absurd (same.trans numbered) (Nat.ne_of_lt (accounts.recorded call isCall))
  · intro entry mem isClaimed hasCallback
    rcases members mem with isEarlier | ⟨unused, isNew⟩
    · exact accounts.claimed entry isEarlier isClaimed hasCallback
    · rw [isNew] at isClaimed
      rw [free isClaimed] at unused
      cases unused

/-! ## Callbacks -/

theorem Accounts.callBack (accounts : proc.Accounts claimed)
    (mem : (supervisionId, live) ∈ proc.sessions) (sameNumber : session.number = live.number)
    (notClaimed : ¬ claimed supervisionId) (function : CallbackFunction) (status : Nat)
    (txInfo : Option TxInfo) (call : Call) :
    (proc.callBack supervisionId session function status txInfo call).Accounts fun other =>
      (other = supervisionId ∧ status ≠ supervisionReportWorking) ∨ claimed other := by
  constructor
  · exact accounts.nodup
  · exact accounts.valid
  · exact accounts.validNext
  · exact accounts.numbered
  · intro other isCall
    rcases List.mem_cons.mp isCall with isNew | isEarlier
    · rw [isNew]
      exact Nat.lt_of_le_of_lt (Nat.le_of_eq sameNumber) (accounts.numbered _ mem)
    · exact accounts.recorded other isEarlier
  · exact accounts.apart
  · refine List.pairwise_cons.mpr ⟨fun earlier isEarlier same => ?_, accounts.silentAfter⟩
    exact accounts.unclaimed _ mem notClaimed earlier isEarlier (same.symm.trans sameNumber)
  · intro removal isRemoval ended hadCallback
    obtain ⟨earlier, isEarlier, same⟩ := accounts.ended removal isRemoval ended hadCallback
    exact ⟨earlier, List.mem_cons_of_mem _ isEarlier, same⟩
  · intro entry isEntry unclaimed other isCall same
    rcases List.mem_cons.mp isCall with isNew | isEarlier
    · rw [isNew] at same ⊢
      have sameId := accounts.apart entry isEntry _ mem (same.symm.trans sameNumber)
      by_contra final
      exact unclaimed (.inl ⟨sameId, final⟩)
    · exact accounts.unclaimed entry isEntry (fun isClaimed => unclaimed (.inr isClaimed)) other
        isEarlier same
  · intro entry isEntry isClaimed hasCallback
    rcases isClaimed with ⟨sameId, final⟩ | isClaimed
    · refine ⟨_, List.mem_cons_self, ?_, final⟩
      have isLive := lookup_eq_some_of_mem accounts.nodup mem
      have isEntryLive := lookup_eq_some_of_mem accounts.nodup isEntry
      rw [sameId, isLive] at isEntryLive
      exact sameNumber.trans (congrArg SupervisedSession.number (Option.some.inj isEntryLive))
    · obtain ⟨earlier, isEarlier, same⟩ := accounts.claimed entry isEntry isClaimed hasCallback
      exact ⟨earlier, List.mem_cons_of_mem _ isEarlier, same⟩

theorem pending_cons (call : Call) (calls : List Call) (supervisionId : SupervisionId) :
    Pending (call :: calls) supervisionId ↔
      supervisionId ∈ call.erases ∨ Pending calls supervisionId := by
  simp [Pending]

/-- The accounts when the sessions about to be erased are those of the calls under way. -/
def Settled (proc : Process) : Prop := proc.Accounts (Pending proc.calls)

theorem Settled.restartTimer (settled : proc.Settled) : proc.restartTimer.Settled :=
  Accounts.restartTimer settled

theorem Settled.push {before after : Process} {call : Call}
    (accounts : after.Accounts (Pending before.calls)) (calls : after.calls = call :: before.calls)
    (nothing : call.erases = []) : after.Settled := by
  apply accounts.congr
  intro entry _
  rw [calls, pending_cons, nothing]
  exact (or_iff_right List.not_mem_nil).symm

theorem Settled.finalCallback (settled : proc.Settled) (mem : (supervisionId, live) ∈ proc.sessions)
    (sameNumber : session.number = live.number) (notPending : ¬ Pending proc.calls supervisionId)
    (function : CallbackFunction) (final : status ≠ supervisionReportWorking)
    (txInfo : Option TxInfo) (erases : call.erases = [supervisionId]) :
    (proc.callBack supervisionId session function status txInfo call).Settled := by
  apply (Accounts.callBack settled mem sameNumber notPending function status txInfo call).congr
  intro entry _
  change _ ↔ Pending (call :: proc.calls) entry.1
  rw [pending_cons, erases, List.mem_singleton, and_iff_left final]

theorem Settled.workingCallback (settled : proc.Settled)
    (mem : (supervisionId, live) ∈ proc.sessions) (sameNumber : session.number = live.number)
    (notPending : ¬ Pending proc.calls supervisionId) (function : CallbackFunction)
    (txInfo : Option TxInfo) :
    (proc.callBack supervisionId session function supervisionReportWorking txInfo
      .workingCallback).Settled := by
  apply Settled.push _ rfl rfl
  apply (Accounts.callBack settled mem sameNumber notPending function _ txInfo _).congr
  intro entry _
  exact or_iff_right fun isFinal => isFinal.2 rfl

@[simp] theorem calls_eraseSession (proc : Process) (reason : Reason)
    (supervisionId : SupervisionId) :
    (proc.eraseSession reason supervisionId).calls = proc.calls := by
  unfold eraseSession
  split <;> rfl

@[simp] theorem calls_closeSession (proc : Process) (reason : Reason)
    (supervisionId : SupervisionId) :
    (proc.closeSession reason supervisionId).calls = proc.calls := by
  unfold closeSession
  split
  · rfl
  · split
    · rfl
    · exact calls_eraseSession proc reason supervisionId

@[simp] theorem calls_eraseExpired (proc : Process) (expired : List SupervisionId) :
    (proc.eraseExpired expired).calls = proc.calls := by
  induction expired generalizing proc with
  | nil => rfl
  | cons supervisionId rest ih => exact (ih _).trans (calls_eraseSession proc .ended supervisionId)

theorem Settled.endSilentSession (settled : proc.Settled)
    (found : proc.findSessionByUniqueId supervisionId = some session)
    (silent : session.callback = none) : (proc.closeSession .ended supervisionId).Settled := by
  unfold Settled
  rw [calls_closeSession]
  exact Accounts.endSilentSession settled found silent

theorem Settled.closeSession (settled : proc.Settled) (supervisionId : SupervisionId) :
    (proc.closeSession .closed supervisionId).Settled := by
  unfold Settled
  rw [calls_closeSession]
  exact Accounts.closeSession settled nofun

theorem hasCallback_of_found {function : CallbackFunction}
    (found : proc.findSessionByUniqueId supervisionId = some session)
    (isCallback : session.callback = some function) : proc.hasCallback supervisionId = true := by
  unfold hasCallback
  rw [found, Option.any_some, isCallback]
  rfl

theorem Settled.onSendDataComplete (settled : proc.Settled) {txInfo : Option TxInfo}
    {user : UserPointer} (leaves : proc.LeavesPending (.sendDataComplete status txInfo user)) :
    (proc.onSendDataComplete status txInfo user).Settled := by
  have restarted := settled.restartTimer
  unfold Process.onSendDataComplete
  dsimp only
  split
  next => exact restarted
  next session found =>
    split
    next failed =>
      split
      next function isCallback =>
        have hasCallback := hasCallback_of_found found isCallback
        exact restarted.finalCallback (mem_of_lookup_eq_some found) rfl
          (leaves failed.1 failed.2 hasCallback) function (by decide) txInfo rfl
      next silent => exact restarted.endSilentSession found silent
    next => exact Accounts.updateSession restarted _ (fun _ => rfl) fun _ _ _ has => has

theorem Settled.noteReport (settled : proc.Settled) (supervisionId : SupervisionId)
    (report : Report) : (proc.noteReport supervisionId report).Settled :=
  Accounts.updateSession settled supervisionId (fun _ => rfl) fun _ _ _ has => has

theorem findSession_noteReport (mem : (supervisionId, session) ∈ proc.sessions) (report : Report) :
    (supervisionId, { session with
      status := report.status
      expiryTime := proc.reportedExpiry report.duration }) ∈
        (proc.noteReport supervisionId report).sessions := by
  unfold noteReport updateSession
  dsimp only
  exact mem_updateKey.mpr (.inr ⟨session, mem, rfl⟩)

theorem Settled.onSupervisionReportParsed (settled : proc.Settled) {report : Report}
    (leaves : proc.LeavesPending (.reportReceived report)) :
    (proc.onSupervisionReportParsed report).Settled := by
  have restarted := settled.restartTimer
  unfold Process.onSupervisionReportParsed
  dsimp only
  split
  next => exact restarted
  next session found =>
    have noted := restarted.noteReport
      (proc.restartTimer.findSession report.sessionId report.nodeId report.endpointId) report
    have live := findSession_noteReport (mem_of_lookup_eq_some found) report
    split
    next working =>
      split
      next function isCallback =>
        rw [working]
        exact noted.restartTimer.workingCallback live rfl
          (leaves (hasCallback_of_found found isCallback)) function _
      next => exact noted.restartTimer
    next final =>
      split
      next function isCallback =>
        exact noted.finalCallback live rfl (leaves (hasCallback_of_found found isCallback))
          function final _ rfl
      next silent => exact noted.endSilentSession (lookup_eq_some_of_mem noted.nodup live) silent

/-! ## Expiry and deletion -/

theorem expiredSessions_spec (now : ClockTime)
    (sessions : List (SupervisionId × SupervisedSession)) :
    (∀ supervisionId ∈ (expiredSessions now sessions).1,
      (∃ session, (supervisionId, session) ∈ sessions ∧ session.callback = none) ∨
        ∃ session function,
          (expiredSessions now sessions).2 = some (supervisionId, session, function)) ∧
    ∀ supervisionId session function,
      (expiredSessions now sessions).2 = some (supervisionId, session, function) ->
        supervisionId ∈ (expiredSessions now sessions).1 ∧
          (sessions.find? fun entry =>
            decide (entry.2.expiryTime ≤ now) && entry.2.callback.isSome) =
              some (supervisionId, session) := by
  induction sessions with
  | nil => exact ⟨nofun, nofun⟩
  | cons entry rest ih =>
    obtain ⟨collected, called⟩ := ih
    unfold expiredSessions
    split
    next expired =>
      split
      next function isCallback =>
        refine ⟨fun supervisionId mem => ?_, fun supervisionId session other same => ?_⟩
        · rw [List.mem_singleton.mp mem]
          exact .inr ⟨entry.2, function, rfl⟩
        · cases same
          simp [expired, isCallback]
      next silent =>
        refine ⟨fun supervisionId mem => ?_, fun supervisionId session function same => ?_⟩
        · rcases List.mem_cons.mp mem with isEntry | isLater
          · subst isEntry
            exact .inl ⟨entry.2, List.mem_cons_self, silent⟩
          · refine (collected supervisionId isLater).imp_left ?_
            rintro ⟨session, isSession, noCallback⟩
            exact ⟨session, List.mem_cons_of_mem entry isSession, noCallback⟩
        · obtain ⟨isCollected, isFirst⟩ := called supervisionId session function same
          refine ⟨List.mem_cons_of_mem _ isCollected, ?_⟩
          rw [List.find?_cons_of_neg]
          · exact isFirst
          · simp [silent]
    next notExpired =>
      refine ⟨fun supervisionId mem => ?_, fun supervisionId session function same => ?_⟩
      · refine (collected supervisionId mem).imp_left ?_
        rintro ⟨session, isSession, noCallback⟩
        exact ⟨session, List.mem_cons_of_mem entry isSession, noCallback⟩
      · obtain ⟨isCollected, isFirst⟩ := called supervisionId session function same
        refine ⟨isCollected, ?_⟩
        rw [List.find?_cons_of_neg]
        · exact isFirst
        · simp [notExpired]

theorem Accounts.unique {proc : Process} {claimed : SupervisionId -> Prop}
    (accounts : proc.Accounts claimed) {entry : SupervisionId × SupervisedSession}
    (mem : entry ∈ proc.sessions) {session : SupervisedSession}
    (isSession : (entry.1, session) ∈ proc.sessions) : entry.2 = session :=
  Option.some.inj ((lookup_eq_some_of_mem accounts.nodup mem).symm.trans
    (lookup_eq_some_of_mem accounts.nodup isSession))

theorem Settled.onTimerExpiredEvent (settled : proc.Settled)
    (leaves : proc.LeavesPending .timerExpires) : proc.onTimerExpiredEvent.Settled := by
  obtain ⟨collected, called⟩ := expiredSessions_spec proc.clockTime proc.sessions
  unfold Process.onTimerExpiredEvent
  dsimp only
  split
  next supervisionId session function isCalled =>
    obtain ⟨isCollected, isFirst⟩ := called supervisionId session function isCalled
    have mem := List.mem_of_find?_eq_some isFirst
    have notPending := leaves (supervisionId, session) isFirst
    have accounts := Accounts.callBack settled mem rfl notPending function
      supervisionReportFail session.txInfo
      (.expiry (expiredSessions proc.clockTime proc.sessions).1)
    refine accounts.claim (fun other isClaimed => ?_) fun entry isEntry isClaimed notClaimed => ?_
    · apply (pending_cons _ _ _).mpr
      rcases isClaimed with ⟨same, -⟩ | isPending
      · rw [same]
        exact .inl isCollected
      · exact .inr isPending
    · have isExpired : entry.1 ∈ (expiredSessions proc.clockTime proc.sessions).1 :=
        ((pending_cons _ _ _).mp isClaimed).resolve_right fun isPending =>
          notClaimed (.inr isPending)
      rcases collected entry.1 isExpired with ⟨silent, isSilent, noCallback⟩ | ⟨_, _, isOther⟩
      · rw [settled.unique isEntry isSilent]
        exact noCallback
      · rw [isOther] at isCalled
        cases isCalled
        exact absurd (.inl ⟨rfl, by decide⟩) notClaimed
  next nothing =>
    unfold Settled
    rw [calls_eraseExpired]
    apply Accounts.eraseExpired
    apply Accounts.claim settled fun _ isPending => .inr isPending
    intro entry isEntry isClaimed notPending
    rcases collected entry.1 (isClaimed.resolve_right notPending) with
      ⟨silent, isSilent, noCallback⟩ | ⟨_, _, isOther⟩
    · rw [settled.unique isEntry isSilent]
      exact noCallback
    · rw [nothing] at isOther
      cases isOther

theorem Settled.timerExpires (settled : proc.Settled) (leaves : proc.LeavesPending .timerExpires) :
    proc.timerExpires.Settled := by
  unfold Process.timerExpires
  split
  · exact settled
  · split
    · have stopped : { proc with supervisionTimer := none }.Settled :=
        { settled with }
      exact stopped.onTimerExpiredEvent leaves
    · exact settled

theorem Accounts.hasCallback_closeSession (accounts : proc.Accounts claimed) (reason : Reason)
    (supervisionId other : SupervisionId) :
    (proc.closeSession reason supervisionId).hasCallback other =
      (other != supervisionId && proc.hasCallback other) := by
  -- a session that is not in the table has no callback
  have absentCase : proc.findSessionByUniqueId supervisionId = none ->
      proc.hasCallback other = (other != supervisionId && proc.hasCallback other) := by
    intro absent
    by_cases same : other = supervisionId
    · rw [same, bne_self_eq_false, Bool.false_and]
      unfold hasCallback
      rw [absent, Option.any_none]
    · rw [bne_iff_ne.mpr same, Bool.true_and]
  unfold Process.closeSession
  split
  next isInvalid =>
    apply absentCase
    apply lookup_eq_none_of_notMem
    intro isKey
    obtain ⟨entry, mem, same⟩ := List.mem_map.mp isKey
    exact accounts.valid entry mem (same.trans isInvalid)
  next =>
    split
    next absent => exact absentCase absent
    next session found =>
      have erased : (proc.eraseSession reason supervisionId).restartTimer.sessions =
          eraseKey proc.sessions supervisionId := by
        unfold Process.eraseSession
        rw [found]
        rfl
      unfold hasCallback findSessionByUniqueId
      rw [erased]
      by_cases same : other = supervisionId
      all_goals simp [same]

theorem Settled.deleteSessions (settled : proc.Settled) (ids : List SupervisionId)
    (leaves : ∀ supervisionId, ids.find? proc.hasCallback = some supervisionId ->
      ¬ Pending proc.calls supervisionId) :
    (proc.deleteSessions ids).Settled := by
  induction ids generalizing proc with
  | nil => exact settled
  | cons supervisionId rest ih =>
    unfold deleteSessions
    split
    next absent =>
      apply ih settled
      intro other isFirst
      apply leaves other
      rw [List.find?_cons_of_neg]
      · exact isFirst
      · simp [hasCallback, absent]
    next session found =>
      split
      next function isCallback =>
        have notPending := leaves supervisionId
          (List.find?_cons_of_pos (hasCallback_of_found found isCallback))
        exact settled.finalCallback (mem_of_lookup_eq_some found) rfl notPending function
          (by decide) _ rfl
      next silent =>
        have noCallback : proc.hasCallback supervisionId = false := by
          unfold hasCallback
          rw [found, Option.any_some, silent]
          rfl
        have sameCallbacks : (proc.closeSession .ended supervisionId).hasCallback =
            proc.hasCallback := by
          funext other
          rw [settled.hasCallback_closeSession]
          by_cases same : other = supervisionId
          · rw [same, noCallback, Bool.and_false]
          · rw [bne_iff_ne.mpr same, Bool.true_and]
        apply ih (settled.endSilentSession found silent)
        intro other isFirst
        rw [sameCallbacks] at isFirst
        rw [calls_closeSession]
        apply leaves other
        rw [List.find?_cons_of_neg]
        · exact isFirst
        · simp [noCallback]

theorem Settled.callReturns (settled : proc.Settled) {accepted : Option TxSessionId}
    (leaves : proc.LeavesPending (.callReturns accepted)) :
    (proc.callReturns accepted).Settled := by
  unfold Process.callReturns
  split
  next => exact settled
  next call rest calls =>
    have popped : { proc with calls := rest }.Accounts fun other =>
        other ∈ call.erases ∨ Pending rest other := by
      have accounts : { proc with calls := rest }.Accounts (Pending proc.calls) :=
        { settled with }
      apply accounts.congr
      intro entry _
      rw [calls, pending_cons]
    -- a call that erases nothing leaves the accounts as they are
    have unchanged : call.erases = [] -> { proc with calls := rest }.Settled := by
      intro nothing
      apply popped.congr
      intro entry _
      rw [nothing]
      exact or_iff_right List.not_mem_nil
    have ended : ∀ supervisionId, call.erases = [supervisionId] ->
        ({ proc with calls := rest }.closeSession .ended supervisionId).Settled := by
      intro supervisionId erases
      unfold Settled
      rw [calls_closeSession]
      apply Accounts.endSession
      apply popped.congr
      intro entry _
      rw [erases, List.mem_singleton]
    cases call with
    | send supervisionId wantsSession =>
      unfold resume sendReturns
      dsimp only
      split
      · exact ((unchanged rfl).closeSession supervisionId).restartTimer
      · split
        · apply Settled.restartTimer
          exact Accounts.updateSession (unchanged rfl) supervisionId (fun _ => rfl)
            fun _ _ _ has => has
        · exact (unchanged rfl).restartTimer
    | workingCallback => exact unchanged rfl
    | finalCallback supervisionId => exact ended supervisionId rfl
    | expiry expired =>
      unfold resume Settled
      rw [calls_eraseExpired]
      exact popped.eraseExpired
    | deletion supervisionId later =>
      apply (ended supervisionId rfl).deleteSessions later
      intro other isFirst
      rw [calls_closeSession]
      have notPending := leaves supervisionId later rest calls other
      rw [calls, pending_cons] at notPending
      intro isPending
      apply notPending _ (.inr isPending)
      have sameCallbacks : ({ proc with calls := rest }.closeSession .ended
          supervisionId).hasCallback =
            fun other => other != supervisionId && proc.hasCallback other := by
        funext other
        exact popped.hasCallback_closeSession .ended supervisionId other
      rw [sameCallbacks] at isFirst
      exact isFirst

/-! ## Sending -/

theorem hasKey_insertNew_of_hasKey {sessions : List (SupervisionId × SupervisedSession)}
    (isKey : hasKey sessions supervisionId = true) (other : SupervisionId)
    (session : SupervisedSession) :
    hasKey (insertNew sessions other session) supervisionId = true := by
  by_contra notKey
  rw [Bool.not_eq_true, hasKey_eq_false_iff] at notKey
  have absent : hasKey sessions supervisionId = false :=
    hasKey_eq_false_iff.mpr fun mem =>
      notKey (List.map_subset _ (subset_insertNew sessions other session) mem)
  rw [isKey] at absent
  cases absent

theorem Accounts.insertSessions {claimed : SupervisionId -> Prop} (request : SendRequest)
    (groupId : GroupId) (nodes : List NodeId) {created : SupervisionId × Process}
    (accounts : created.2.Accounts claimed)
    (free : ∀ supervisionId ∈ List.iterate followingId created.2.nextSupervisionId nodes.length,
      claimed supervisionId -> hasKey created.2.sessions supervisionId = true) :
    (nodes.foldl
      (fun created nodeId =>
        (created.2.nextSupervisionId,
          created.2.insertSession (created.2.newSession request nodeId groupId)))
      created).2.Accounts claimed := by
  induction nodes generalizing created with
  | nil => exact accounts
  | cons nodeId rest ih =>
    apply ih
    · exact accounts.insertSession rfl (free _ List.mem_cons_self)
    · intro supervisionId mem isClaimed
      apply hasKey_insertNew_of_hasKey
      exact free supervisionId (List.mem_cons_of_mem _ mem) isClaimed

variable {groups : GroupId -> NodeId -> Bool} {request : SendRequest}

theorem Settled.createSession {proc : Process} (settled : proc.Settled)
    (leaves : proc.LeavesPending (.sendData groups request)) :
    (proc.createSession groups request).2.Accounts (Pending proc.calls) := by
  obtain ⟨free, followUp⟩ := leaves
  unfold requestedSessions at free
  unfold followUpSession at followUp
  unfold Process.createSession
  cases remote : request.remote with
  | multicast groupId =>
    rw [remote] at free
    have accounts := @Accounts.insertSessions _ request groupId (nodesOf (groups groupId))
      (invalidSupervisionId, proc) settled free
    exact { accounts with }
  | node nodeId =>
    rw [remote] at free followUp
    dsimp only at free followUp ⊢
    split
    next isFollowUp =>
      rw [if_pos isFollowUp] at followUp
      unfold updateSinglecastFollowUpSession
      split
      next => exact settled
      next entry isEntry =>
        apply Accounts.updateSession settled entry.1
        · exact fun _ => rfl
        · intro isPending session mem getsCallback silent
          have same := settled.unique (List.mem_of_find?_eq_some isEntry) mem
          rw [← same] at silent
          exact getsCallback (followUp entry isEntry isPending silent)
    next isSinglecast =>
      rw [if_neg isSinglecast] at free
      have accounts := @Accounts.insertSession _ _ settled
        (proc.newSession request nodeId zwaveTxInvalidGroup) rfl
        (free _ List.mem_cons_self)
      exact { accounts with }

theorem Settled.sendData {proc : Process} (settled : proc.Settled)
    (leaves : proc.LeavesPending (.sendData groups request)) :
    (proc.sendData groups request).Settled := by
  have accounts := settled.createSession leaves
  have sameCalls := (Creates.createSession proc groups request).sameCalls
  unfold Process.sendData
  dsimp only
  split
  · exact settled
  · split
    · unfold Settled
      rw [sameCalls]
      exact accounts
    · refine @Settled.push proc _
        (.send (proc.createSession groups request).1 request.wantsSession) ?_ ?_ rfl
      · exact { accounts with }
      · exact congrArg _ sameCalls

/-! ## Runs -/

/-- Every step that leaves pending sessions alone keeps the account. -/
theorem Settled.step (settled : proc.Settled) {action : Action}
    (leaves : proc.LeavesPending action) :
    (proc.step action).Settled := by
  cases action with
  | sendData groups request => exact settled.sendData leaves
  | sendDataComplete status txInfo user => exact settled.onSendDataComplete leaves
  | reportReceived report => exact settled.onSupervisionReportParsed leaves
  | timerExpires => exact settled.timerExpires leaves
  | abortSendData txSessionId =>
    unfold Process.step closeSessionByTxSession
    dsimp only
    split
    · exact settled
    · exact settled.closeSession _
  | nodeDeleted nodeId => exact settled.deleteSessions _ leaves
  | callReturns accepted => exact settled.callReturns leaves
  | clockTick elapsed => exact { settled with }

theorem settled_initial (nextSessionId : Nat) : (initial nextSessionId).Settled where
  nodup := List.nodup_nil
  valid := nofun
  validNext := Nat.one_ne_zero
  numbered := nofun
  recorded := nofun
  apart := nofun
  silentAfter := .nil
  ended := nofun
  unclaimed := nofun
  claimed := nofun

/-- As long as nothing that happens inside a callback touches the sessions about to be
erased, every session is called back once. -/
theorem called_back_once_throughout (nextSessionId : Nat) {actions : List Action}
    (leaves : StepsMeet Process.step LeavesPending (initial nextSessionId) actions) :
    ∀ done, done <+: actions -> (run Process.step (initial nextSessionId) done).CalledBackOnce := by
  intro done before
  have settled := (leaves.of_isPrefix before).invariant Settled
    (fun _ _ settled leaves => settled.step leaves) (settled_initial nextSessionId)
  exact Accounts.calledBackOnce settled

theorem leavesPending_of_idle (idle : proc.calls = []) (action : Action) :
    proc.LeavesPending action := by
  have nothing : ∀ supervisionId, ¬ Pending proc.calls supervisionId := by
    rintro supervisionId ⟨call, mem, -⟩
    rw [idle] at mem
    cases mem
  cases action with
  | sendData groups request =>
    exact ⟨fun supervisionId _ isPending => absurd isPending (nothing supervisionId),
      fun entry _ isPending => absurd isPending (nothing entry.1)⟩
  | sendDataComplete status txInfo user => exact fun _ _ _ => nothing _
  | reportReceived report => exact fun _ => nothing _
  | timerExpires => exact fun entry _ => nothing entry.1
  | abortSendData | clockTick => trivial
  | nodeDeleted nodeId => exact fun supervisionId _ => nothing supervisionId
  | callReturns accepted => exact fun _ _ _ _ supervisionId _ => nothing supervisionId

/-- A session expires, and its callback sends the frame once more. -/
def retriedSend : List Action :=
  [.sendData (fun _ _ => false) (sampleRequest 5), .callReturns (some 0), .clockTick 60000,
    .timerExpires, .sendData (fun _ _ => false) (sampleRequest 5), .callReturns (some 1),
    .callReturns none]

theorem called_back_once_retriedSend :
    StepsMeet Process.step LeavesPending (initial 0) retriedSend ∧
      ∀ done, done <+: retriedSend -> (run Process.step (initial 0) done).CalledBackOnce := by
  have leaves : StepsMeet step LeavesPending (initial 0) retriedSend := by
    refine ⟨leavesPending_of_idle rfl _, nofun, trivial, leavesPending_of_idle rfl _, ⟨?_, nofun⟩,
      nofun, nofun, trivial⟩
    -- the new session gets the id after the one about to be erased
    rintro supervisionId mem ⟨call, isCall, isErased⟩
    have isNext := List.mem_singleton.mp mem
    have isExpiry := List.mem_singleton.mp isCall
    subst isNext isExpiry
    exact absurd isErased (by decide)
  exact ⟨leaves, called_back_once_throughout 0 leaves⟩

/-- A session expires, and the frame that its callback sends evicts the Get of the session,
which was still queued. -/
def evictedSend : List Action :=
  [.sendData (fun _ _ => false) (sampleRequest 5), .callReturns (some 0), .clockTick 60000,
    .timerExpires, .sendData (fun _ _ => false) (sampleRequest 5),
    .sendDataComplete 0x02 none 1]

/-- The session is called back twice. -/
theorem not_calledBackOnce_evictedSend :
    ¬ (run Process.step (initial 0) evictedSend).CalledBackOnce := by
  intro once
  exact absurd (once.atMostOnce 0) (by decide)

end Process

end Supervision
