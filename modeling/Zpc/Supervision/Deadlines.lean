import Zpc.Supervision.Process

/-!
# The supervision timer and the expiries of the sessions

A session that has expired is found by the timer only, so the timer has to be armed for
the earliest expiry of the table.  Between an expiry that was written and the restart of
the timer a call of a user may be under way; the frames of the stack say who still
restarts the timer, and for which session.

The completion of a frame restarts the timer before it writes the expiry of the session
that now waits for its report.  That is in time only when the timer is due early enough
for another reason.
-/

namespace Supervision

open Foundation

/-- A timer is due not later than an expiry, or at once when the expiry has passed. -/
def Timer.InTime (timer : Timer) (expiry : ClockTime) : Prop :=
  timer.deadline ≤ expiry ∨ (expiry ≤ timer.setAt ∧ timer.interval ≤ 1)

/-- The timer is restarted when the call returns, whatever happened in between. -/
def Call.restartsTimer : Call -> Bool
  | .send _ _ => true
  | .expiry _ => true
  | _ => false

namespace Process

/-- The timer is armed in time for a session. -/
def Covers (proc : Process) (session : SupervisedSession) : Prop :=
  ∃ timer, proc.supervisionTimer = some timer ∧ timer.InTime session.expiryTime

/-- When no call is under way, the timer is armed in time for every live session. -/
def TimerInTime (proc : Process) : Prop :=
  proc.calls = [] -> ∀ entry ∈ proc.sessions, proc.Covers entry.2

/-- A call is under way that restarts the timer in the end. -/
def RestartsLater (proc : Process) : Prop := ∃ call ∈ proc.calls, call.restartsTimer = true

/-- A session that starts to wait for its report does so while the timer is due before the
report has to be there, or while a call is under way that restarts the timer. -/
def AwaitsInTime (proc : Process) : Action -> Prop
  | .sendDataComplete status _ user =>
      (status = transmitCompleteOk ∨ status = transmitCompleteVerified) ->
        ¬ proc.RestartsLater ->
          ∀ session, (user % 2 ^ 32, session) ∈ proc.sessions ->
            session.status ≠ supervisionReportWorking ->
              ∃ entry ∈ proc.sessions,
                entry.2.expiryTime ≤ proc.clockTime + supervisionReportTimeout
  | _ => True

/-- The ids and the expiries in the table are those of sessions that were created. -/
structure WellFormed (proc : Process) : Prop where
  positive : ∀ entry ∈ proc.sessions, 0 < entry.2.expiryTime
  valid : ∀ entry ∈ proc.sessions, entry.1 ≠ invalidSupervisionId
  validNext : proc.nextSupervisionId ≠ invalidSupervisionId

/-- Every session is covered, or is closed by a call under way. -/
def AttendedExcept (proc : Process) (excepted : SupervisionId -> Prop) : Prop :=
  proc.RestartsLater ∨ ∀ entry ∈ proc.sessions,
    proc.Covers entry.2 ∨ .finalCallback entry.1 ∈ proc.calls ∨ excepted entry.1

/-- The invariant of the process between two actions. -/
structure Attended (proc : Process) : Prop where
  wellFormed : proc.WellFormed
  attended : proc.AttendedExcept fun _ => False

variable {proc : Process} {entry : SupervisionId × SupervisedSession} {txInfo : Option TxInfo}

theorem Attended.timerInTime (attended : proc.Attended) : proc.TimerInTime := by
  intro idle entry mem
  rcases attended.attended with ⟨call, under, -⟩ | each
  · rw [idle] at under
    cases under
  · rcases each entry mem with covered | under | never
    · exact covered
    · rw [idle] at under
      cases under
    · cases never

theorem earlier_expiry (next expiry : Nat) : let earlier :=
      if expiry = 0 then next
      else if next = 0 then expiry
      else if expiry < next then expiry
      else next
    (0 < next -> 0 < earlier ∧ earlier ≤ next) ∧
      (0 < expiry -> 0 < earlier ∧ earlier ≤ expiry) := by
  split
  · omega
  · split
    · omega
    · split <;> omega

theorem foldl_nextExpiry (sessions : List (SupervisionId × SupervisedSession)) (next : ClockTime) :
    let last := sessions.foldl
      (fun next entry =>
        if entry.2.expiryTime = 0 then next
        else if next = 0 then entry.2.expiryTime
        else if entry.2.expiryTime < next then entry.2.expiryTime
        else next)
      next
    (0 < next -> 0 < last ∧ last ≤ next) ∧
      ∀ entry ∈ sessions, 0 < entry.2.expiryTime -> 0 < last ∧ last ≤ entry.2.expiryTime := by
  induction sessions generalizing next with
  | nil => exact ⟨fun positive => ⟨positive, Nat.le_refl next⟩, fun entry mem => nomatch mem⟩
  | cons head tail ih =>
    obtain ⟨kept, earlier⟩ := ih
      (if head.2.expiryTime = 0 then next
        else if next = 0 then head.2.expiryTime
        else if head.2.expiryTime < next then head.2.expiryTime
        else next)
    have round := earlier_expiry next head.2.expiryTime
    refine ⟨fun positive => ?_, fun entry mem positive => ?_⟩
    · have first := round.1 positive
      exact ⟨(kept first.1).1, Nat.le_trans (kept first.1).2 first.2⟩
    · rcases List.mem_cons.mp mem with isHead | isLater
      · subst isHead
        have first := round.2 positive
        exact ⟨(kept first.1).1, Nat.le_trans (kept first.1).2 first.2⟩
      · exact earlier entry isLater positive

theorem nextExpiry_le {sessions : List (SupervisionId × SupervisedSession)}
    (mem : entry ∈ sessions) (positive : 0 < entry.2.expiryTime) :
    0 < nextExpiry sessions ∧ nextExpiry sessions ≤ entry.2.expiryTime :=
  (foldl_nextExpiry sessions 0).2 entry mem positive

theorem restartTimer_inTime (mem : entry ∈ proc.sessions) (positive : 0 < entry.2.expiryTime)
    {expiry : ClockTime} (later : entry.2.expiryTime ≤ expiry) :
    ∃ timer, proc.restartTimer.supervisionTimer = some timer ∧ timer.InTime expiry := by
  obtain ⟨armed, early⟩ := nextExpiry_le mem positive
  unfold restartTimer
  rw [if_neg (Nat.pos_iff_ne_zero.mp armed)]
  split
  next passed =>
    refine ⟨_, rfl, ?_⟩
    by_cases expired : expiry ≤ proc.clockTime
    · exact .inr ⟨expired, Nat.le_refl 1⟩
    · exact .inl (Nat.lt_of_not_le expired)
  next ahead =>
    refine ⟨_, rfl, .inl ?_⟩
    have due : proc.clockTime + (nextExpiry proc.sessions - proc.clockTime) =
        nextExpiry proc.sessions :=
      Nat.add_sub_cancel' (Nat.le_of_not_lt ahead)
    exact Nat.le_trans (Nat.le_of_eq due) (Nat.le_trans early later)

theorem WellFormed.restartTimer (wellFormed : proc.WellFormed) : proc.restartTimer.WellFormed :=
  ⟨wellFormed.positive, wellFormed.valid, wellFormed.validNext⟩

theorem WellFormed.attended_restartTimer (wellFormed : proc.WellFormed) :
    proc.restartTimer.Attended where
  wellFormed := wellFormed.restartTimer
  attended := .inr fun entry mem =>
    .inl (restartTimer_inTime mem (wellFormed.positive entry mem) (Nat.le_refl _))

section

variable (wellFormed : proc.WellFormed)
include wellFormed

theorem WellFormed.updateSession (supervisionId : SupervisionId)
    {change : SupervisedSession -> SupervisedSession}
    (positive : ∀ session, 0 < session.expiryTime -> 0 < (change session).expiryTime) :
    (proc.updateSession supervisionId change).WellFormed where
  positive entry mem := by
    rcases mem_updateKey.mp mem with ⟨earlier, -⟩ | ⟨session, earlier, changed⟩
    · exact wellFormed.positive entry earlier
    · rw [changed]
      exact positive session (wellFormed.positive _ earlier)
  valid entry mem := by
    rcases mem_updateKey.mp mem with ⟨earlier, -⟩ | ⟨session, earlier, changed⟩
    · exact wellFormed.valid entry earlier
    · rw [changed]
      exact wellFormed.valid (supervisionId, session) earlier
  validNext := wellFormed.validNext

theorem WellFormed.eraseSession (reason : Reason) (supervisionId : SupervisionId) :
    (proc.eraseSession reason supervisionId).WellFormed := by
  unfold Process.eraseSession
  split
  · exact wellFormed
  · refine ⟨fun entry mem => ?_, fun entry mem => ?_, wellFormed.validNext⟩
    · exact wellFormed.positive entry (mem_eraseKey.mp mem).1
    · exact wellFormed.valid entry (mem_eraseKey.mp mem).1

theorem WellFormed.closeSession (reason : Reason) (supervisionId : SupervisionId) :
    (proc.closeSession reason supervisionId).WellFormed := by
  unfold Process.closeSession
  split
  · exact wellFormed
  · split
    · exact wellFormed
    · exact (wellFormed.eraseSession reason supervisionId).restartTimer

theorem WellFormed.eraseExpired (expired : List SupervisionId) :
    (proc.eraseExpired expired).Attended := by
  apply WellFormed.attended_restartTimer
  induction expired generalizing proc with
  | nil => exact wellFormed
  | cons supervisionId rest ih => exact ih (wellFormed.eraseSession .ended supervisionId)

theorem WellFormed.insertSession {session : SupervisedSession} (positive : 0 < session.expiryTime) :
    (proc.insertSession session).WellFormed where
  positive entry mem := by
    rcases mem_insertNew.mp mem with earlier | ⟨-, isNew⟩
    · exact wellFormed.positive entry earlier
    · rw [isNew]
      exact positive
  valid entry mem := by
    rcases mem_insertNew.mp mem with earlier | ⟨-, isNew⟩
    · exact wellFormed.valid entry earlier
    · rw [isNew]
      exact wellFormed.validNext
  validNext := by
    unfold Process.insertSession incrementUniqueSupervisionId
    dsimp only
    split
    next => simp [invalidSupervisionId]
    next valid => exact valid

end

theorem newSession_positive (proc : Process) (request : SendRequest) (nodeId : NodeId)
    (groupId : GroupId) : 0 < (proc.newSession request nodeId groupId).expiryTime :=
  Nat.add_pos_right _ (by decide)

theorem WellFormed.createSession (wellFormed : proc.WellFormed) (groups : GroupId -> NodeId -> Bool)
    (request : SendRequest) : (proc.createSession groups request).2.WellFormed := by
  have incremented : ∀ {reached : Process}, reached.WellFormed ->
      reached.incrementSessionId.WellFormed :=
    fun reached => ⟨reached.positive, reached.valid, reached.validNext⟩
  unfold Process.createSession
  cases request.remote with
  | multicast groupId =>
    apply incremented
    generalize invalidSupervisionId = last
    induction nodesOf (groups groupId) generalizing last proc with
    | nil => exact wellFormed
    | cons nodeId rest ih =>
      exact ih
        (wellFormed.insertSession (newSession_positive proc request nodeId groupId)) _
  | node nodeId =>
    dsimp only
    split
    · unfold updateSinglecastFollowUpSession
      split
      · exact wellFormed
      · exact wellFormed.updateSession _ fun _ _ => Nat.add_pos_right _ (by decide)
    · exact incremented (wellFormed.insertSession (newSession_positive proc request nodeId _))

theorem Attended.push {before after : Process} (attended : before.Attended) (call : Call)
    (sameSessions : after.sessions = before.sessions)
    (sameTimer : after.supervisionTimer = before.supervisionTimer)
    (sameNext : after.nextSupervisionId = before.nextSupervisionId)
    (calls : after.calls = call :: before.calls) : after.Attended where
  wellFormed := by
    refine ⟨?_, ?_, ?_⟩
    · rw [sameSessions]
      exact attended.wellFormed.positive
    · rw [sameSessions]
      exact attended.wellFormed.valid
    · rw [sameNext]
      exact attended.wellFormed.validNext
  attended := by
    unfold AttendedExcept RestartsLater Covers
    rw [sameSessions, sameTimer, calls]
    rcases attended.attended with ⟨other, under, restarts⟩ | each
    · exact .inl ⟨other, List.mem_cons_of_mem call under, restarts⟩
    · refine .inr fun entry mem => ?_
      rcases each entry mem with covered | under | never
      · exact .inl covered
      · exact .inr (.inl (List.mem_cons_of_mem call under))
      · cases never

theorem Attended.callBack (attended : proc.Attended) (supervisionId : SupervisionId)
    (session : SupervisedSession) (function : CallbackFunction) (status : Nat)
    (txInfo : Option TxInfo) (call : Call) :
    (proc.callBack supervisionId session function status txInfo call).Attended :=
  attended.push call rfl rfl rfl rfl

variable {supervisionId : SupervisionId}

theorem WellFormed.attended_closeSession (wellFormed : proc.WellFormed)
    (attended : proc.AttendedExcept (· = supervisionId)) (reason : Reason) :
    (proc.closeSession reason supervisionId).Attended := by
  -- without the session in the table nothing is excepted
  have unlessFound : (∀ entry ∈ proc.sessions, entry.1 ≠ supervisionId) -> proc.Attended := by
    intro absent
    refine ⟨wellFormed, attended.imp_right fun each entry mem => ?_⟩
    rcases each entry mem with covered | under | same
    · exact .inl covered
    · exact .inr (.inl under)
    · exact absurd same (absent entry mem)
  unfold Process.closeSession
  split
  next invalid =>
    apply unlessFound
    intro entry mem
    rw [invalid]
    exact wellFormed.valid entry mem
  next =>
    split
    next notFound =>
      apply unlessFound
      intro entry mem same
      have differs := List.lookup_eq_none_iff.mp notFound entry mem
      rw [same, bne_self_eq_false] at differs
      cases differs
    next => exact (wellFormed.eraseSession reason supervisionId).attended_restartTimer

theorem Attended.except (attended : proc.Attended) (excepted : SupervisionId -> Prop) :
    proc.AttendedExcept excepted :=
  attended.attended.imp_right fun each entry mem =>
    (each entry mem).imp_right fun rest => rest.imp_right False.elim

theorem Attended.closeSession (attended : proc.Attended) (reason : Reason)
    (supervisionId : SupervisionId) : (proc.closeSession reason supervisionId).Attended :=
  attended.wellFormed.attended_closeSession (attended.except _) reason

theorem Attended.deleteSessions (attended : proc.Attended) (ids : List SupervisionId) :
    (proc.deleteSessions ids).Attended := by
  induction ids generalizing proc with
  | nil => exact attended
  | cons supervisionId rest ih =>
    unfold deleteSessions
    split
    · exact ih attended
    · split
      · exact attended.callBack _ _ _ _ _ _
      · exact ih (attended.closeSession .ended supervisionId)

theorem Attended.updateSession_except (attended : proc.Attended) (supervisionId : SupervisionId)
    (change : SupervisedSession -> SupervisedSession) :
    (proc.updateSession supervisionId change).AttendedExcept (· = supervisionId) := by
  refine attended.attended.imp_right fun each entry mem => ?_
  rcases mem_updateKey.mp mem with ⟨earlier, -⟩ | ⟨session, -, changed⟩
  · rcases each entry earlier with covered | under | never
    · exact .inl covered
    · exact .inr (.inl under)
    · cases never
  · rw [changed]
    exact .inr (.inr rfl)

theorem WellFormed.noteReport (wellFormed : proc.WellFormed) (supervisionId : SupervisionId)
    (report : Report) : (proc.noteReport supervisionId report).WellFormed := by
  refine wellFormed.updateSession supervisionId fun session _ => ?_
  unfold reportedExpiry
  split <;> exact Nat.add_pos_right _ (by decide)

theorem Attended.noteReport_except (attended : proc.Attended) (supervisionId : SupervisionId)
    (report : Report) : (proc.noteReport supervisionId report).AttendedExcept (· = supervisionId) :=
  attended.updateSession_except supervisionId _

theorem WellFormed.attended_finalCallback (wellFormed : proc.WellFormed)
    (attended : proc.AttendedExcept (· = supervisionId)) (session : SupervisedSession)
    (function : CallbackFunction) (status : Nat) (txInfo : Option TxInfo) :
    (proc.callBack supervisionId session function status txInfo
      (.finalCallback supervisionId)).Attended := by
  refine ⟨⟨wellFormed.positive, wellFormed.valid, wellFormed.validNext⟩, ?_⟩
  rcases attended with ⟨call, under, restarts⟩ | each
  · exact .inl ⟨call, List.mem_cons_of_mem _ under, restarts⟩
  · refine .inr fun entry mem => ?_
    rcases each entry mem with covered | under | same
    · exact .inl covered
    · exact .inr (.inl (List.mem_cons_of_mem _ under))
    · rw [same]
      exact .inr (.inl List.mem_cons_self)

theorem WellFormed.onSupervisionReportParsed (wellFormed : proc.WellFormed) (report : Report) :
    (proc.onSupervisionReportParsed report).Attended := by
  have restarted := wellFormed.attended_restartTimer
  have noted := fun supervisionId => restarted.wellFormed.noteReport supervisionId report
  have others := fun supervisionId => restarted.noteReport_except supervisionId report
  unfold Process.onSupervisionReportParsed
  dsimp only
  split
  · exact restarted
  · split
    · split
      · exact (noted _).attended_restartTimer.callBack _ _ _ _ _ _
      · exact (noted _).attended_restartTimer
    · split
      · exact (noted _).attended_finalCallback (others _) _ _ _ _
      · exact (noted _).attended_closeSession (others _) .ended

theorem WellFormed.covers_awaitReport (wellFormed : proc.WellFormed) {supervisionId : SupervisionId}
    (inTime : ∀ session, (supervisionId, session) ∈ proc.sessions ->
      session.status ≠ supervisionReportWorking ->
        ∃ entry ∈ proc.sessions, entry.2.expiryTime ≤ proc.clockTime + supervisionReportTimeout) :
    ∀ entry ∈ (proc.restartTimer.awaitReport supervisionId txInfo).sessions,
      proc.restartTimer.Covers entry.2 := by
  have covered : ∀ entry ∈ proc.sessions, proc.restartTimer.Covers entry.2 :=
    fun entry mem => restartTimer_inTime mem (wellFormed.positive entry mem) (Nat.le_refl _)
  intro entry mem
  unfold awaitReport Process.updateSession at mem
  dsimp only at mem
  rcases mem_updateKey.mp mem with ⟨earlier, -⟩ | ⟨session, earlier, changed⟩
  · exact covered entry earlier
  · subst changed
    by_cases working : session.status = supervisionReportWorking
    · obtain ⟨timer, armed, due⟩ := covered _ earlier
      exact ⟨timer, armed, by simpa [working] using due⟩
    · obtain ⟨first, isFirst, early⟩ := inTime session earlier working
      obtain ⟨timer, armed, due⟩ :=
        restartTimer_inTime isFirst (wellFormed.positive first isFirst) early
      refine ⟨timer, armed, ?_⟩
      rw [if_pos working]
      exact due

theorem Attended.onSendDataComplete (attended : proc.Attended) {status : Nat}
    {user : UserPointer} (inTime : proc.AwaitsInTime (.sendDataComplete status txInfo user)) :
    (proc.onSendDataComplete status txInfo user).Attended := by
  have restarted := attended.wellFormed.attended_restartTimer
  unfold Process.onSendDataComplete
  dsimp only
  split
  next => exact restarted
  next session found =>
    split
    next failed =>
      split
      · exact restarted.callBack _ _ _ _ _ _
      · exact restarted.closeSession _ _
    next succeeded =>
      have sent : status = transmitCompleteOk ∨ status = transmitCompleteVerified := by
        rcases Decidable.not_and_iff_not_or_not.mp succeeded with isOk | isVerified
        · exact .inl (Decidable.not_not.mp isOk)
        · exact .inr (Decidable.not_not.mp isVerified)
      refine ⟨restarted.wellFormed.updateSession _ fun session positive => ?_, ?_⟩
      · dsimp only
        split
        · exact Nat.add_pos_right _ (by decide)
        · exact positive
      · by_cases later : proc.RestartsLater
        · exact .inl later
        · refine .inr fun entry mem => .inl ?_
          exact attended.wellFormed.covers_awaitReport (inTime sent later) entry mem

theorem Attended.timerExpires (attended : proc.Attended) : proc.timerExpires.Attended := by
  have wellFormed : { proc with supervisionTimer := none }.WellFormed :=
    ⟨attended.wellFormed.positive, attended.wellFormed.valid, attended.wellFormed.validNext⟩
  unfold Process.timerExpires
  split
  · exact attended
  · split
    · unfold onTimerExpiredEvent
      dsimp only
      split
      · refine ⟨⟨wellFormed.positive, wellFormed.valid, wellFormed.validNext⟩, .inl ?_⟩
        exact ⟨_, List.mem_cons_self, rfl⟩
      · exact wellFormed.eraseExpired _
    · exact attended

theorem WellFormed.sendReturns (wellFormed : proc.WellFormed) (supervisionId : SupervisionId)
    (wantsSession : Bool) (accepted : Option TxSessionId) :
    (proc.sendReturns supervisionId wantsSession accepted).Attended := by
  unfold Process.sendReturns
  split
  · exact (wellFormed.closeSession .closed supervisionId).attended_restartTimer
  · split
    · apply WellFormed.attended_restartTimer
      exact wellFormed.updateSession supervisionId fun _ positive => positive
    · exact wellFormed.attended_restartTimer

theorem AttendedExcept.pop (attended : proc.Attended) {call : Call} {rest : List Call}
    (calls : proc.calls = call :: rest) (restarts : call.restartsTimer = false) :
    { proc with calls := rest }.AttendedExcept fun supervisionId =>
      call = Call.finalCallback supervisionId := by
  rcases attended.attended with ⟨other, under, later⟩ | each
  · rw [calls] at under
    rcases List.mem_cons.mp under with isCall | isLater
    · rw [isCall, restarts] at later
      cases later
    · exact .inl ⟨other, isLater, later⟩
  · refine .inr fun entry mem => ?_
    rcases each entry mem with covered | under | never
    · exact .inl covered
    · rw [calls] at under
      rcases List.mem_cons.mp under with isCall | isLater
      · exact .inr (.inr isCall.symm)
      · exact .inr (.inl isLater)
    · cases never

theorem Attended.callReturns (attended : proc.Attended) (accepted : Option TxSessionId) :
    (proc.callReturns accepted).Attended := by
  unfold Process.callReturns
  split
  next => exact attended
  next call rest calls =>
    have wellFormed : { proc with calls := rest }.WellFormed :=
      ⟨attended.wellFormed.positive, attended.wellFormed.valid, attended.wellFormed.validNext⟩
    -- a call that closes no session after its callback leaves nothing excepted
    have popped : call.restartsTimer = false ->
        (∀ supervisionId, call ≠ .finalCallback supervisionId) ->
          { proc with calls := rest }.Attended := by
      intro restarts notFinal
      refine ⟨wellFormed, (AttendedExcept.pop attended calls restarts).imp_right ?_⟩
      intro each entry mem
      exact (each entry mem).imp_right fun other => other.imp_right (notFinal entry.1)
    cases call with
    | send supervisionId wantsSession =>
      exact wellFormed.sendReturns supervisionId wantsSession accepted
    | workingCallback => exact popped rfl nofun
    | finalCallback supervisionId =>
      apply wellFormed.attended_closeSession
      refine (AttendedExcept.pop attended calls rfl).imp_right fun each entry mem => ?_
      refine (each entry mem).imp_right fun other => other.imp_right fun same => ?_
      exact (Call.finalCallback.inj same).symm
    | expiry expired => exact wellFormed.eraseExpired expired
    | deletion supervisionId later =>
      exact ((popped rfl nofun).closeSession .ended supervisionId).deleteSessions later

/-- A request for a session arms nothing, and the session it names is in the table unless
the table is as it was. -/
structure Creates (proc : Process) (created : SupervisionId × Process) : Prop where
  sameTimer : created.2.supervisionTimer = proc.supervisionTimer
  sameCalls : created.2.calls = proc.calls
  found : created.2.findSessionByUniqueId created.1 = none -> created.2.sessions = proc.sessions

theorem findSessionByUniqueId_insertSession (proc : Process) (session : SupervisedSession) :
    (proc.insertSession session).findSessionByUniqueId proc.nextSupervisionId ≠ none := by
  intro absent
  have noKey : hasKey (insertNew proc.sessions proc.nextSupervisionId session)
      proc.nextSupervisionId = false :=
    Option.isSome_eq_false_iff.mpr (Option.isNone_iff_eq_none.mpr absent)
  have notMember := hasKey_eq_false_iff.mp noKey
  apply notMember
  by_cases isKey : hasKey proc.sessions proc.nextSupervisionId = false
  · exact List.mem_map.mpr ⟨_, mem_insertNew.mpr (.inr ⟨isKey, rfl⟩), rfl⟩
  · have mem : proc.nextSupervisionId ∈ proc.sessions.map (·.1) := by
      by_contra notKey
      exact isKey (hasKey_eq_false_iff.mpr notKey)
    exact List.map_subset _ (subset_insertNew _ _ _) mem

theorem Creates.createGroupSession (proc : Process) (groups : GroupId -> NodeId -> Bool)
    (request : SendRequest) (groupId : GroupId) :
    proc.Creates (proc.createGroupSession groups request groupId) := by
  have walked : ∀ (nodes : List NodeId) (created : SupervisionId × Process),
      proc.Creates created ->
        proc.Creates (nodes.foldl
          (fun created nodeId =>
            (created.2.nextSupervisionId,
              created.2.insertSession (created.2.newSession request nodeId groupId)))
          created) := by
    intro nodes
    induction nodes with
    | nil => exact fun created creates => creates
    | cons nodeId rest ih =>
      intro created creates
      apply ih
      refine ⟨creates.sameTimer, creates.sameCalls, fun absent => ?_⟩
      exact absurd absent (findSessionByUniqueId_insertSession created.2 _)
  have creates := walked (nodesOf (groups groupId)) (invalidSupervisionId, proc)
    ⟨rfl, rfl, fun _ => rfl⟩
  exact ⟨creates.sameTimer, creates.sameCalls, creates.found⟩

theorem Creates.createSession (proc : Process) (groups : GroupId -> NodeId -> Bool)
    (request : SendRequest) : proc.Creates (proc.createSession groups request) := by
  unfold Process.createSession
  cases request.remote with
  | multicast groupId => exact .createGroupSession proc groups request groupId
  | node nodeId =>
    dsimp only
    split
    · unfold updateSinglecastFollowUpSession
      split
      next => exact ⟨rfl, rfl, fun _ => rfl⟩
      next entry isFound =>
        refine ⟨rfl, rfl, fun absent => ?_⟩
        have absentKey := hasKey_eq_false_iff.mp
          (Option.isSome_eq_false_iff.mpr (Option.isNone_iff_eq_none.mpr absent))
        apply absurd _ absentKey
        unfold updateSession
        rw [keys_updateKey]
        exact List.mem_map_of_mem (List.mem_of_find?_eq_some isFound)
    · refine ⟨rfl, rfl, fun absent => ?_⟩
      exact absurd absent (findSessionByUniqueId_insertSession proc _)

theorem Attended.sendData (attended : proc.Attended) (groups : GroupId -> NodeId -> Bool)
    (request : SendRequest) : (proc.sendData groups request).Attended := by
  have wellFormed := attended.wellFormed.createSession groups request
  have creates := Creates.createSession proc groups request
  unfold Process.sendData
  dsimp only
  split
  · exact attended
  · split
    next absent =>
      refine ⟨wellFormed, ?_⟩
      unfold AttendedExcept RestartsLater Covers
      rw [creates.sameTimer, creates.sameCalls, creates.found absent]
      exact attended.attended
    next session found =>
      refine ⟨⟨wellFormed.positive, wellFormed.valid, wellFormed.validNext⟩, .inl ?_⟩
      exact ⟨_, List.mem_cons_self, rfl⟩

/-- Every step that waits in time leaves the next deadline attended. -/
theorem Attended.step (attended : proc.Attended) {action : Action}
    (inTime : proc.AwaitsInTime action) : (proc.step action).Attended := by
  cases action with
  | sendData groups request => exact attended.sendData groups request
  | sendDataComplete status txInfo user => exact attended.onSendDataComplete inTime
  | reportReceived report => exact attended.wellFormed.onSupervisionReportParsed report
  | timerExpires => exact attended.timerExpires
  | abortSendData txSessionId =>
    unfold Process.step closeSessionByTxSession
    dsimp only
    split
    · exact attended
    · exact attended.closeSession .closed _
  | nodeDeleted nodeId => exact attended.deleteSessions _
  | callReturns accepted => exact attended.callReturns accepted
  | clockTick elapsed =>
    exact ⟨⟨attended.wellFormed.positive, attended.wellFormed.valid,
      attended.wellFormed.validNext⟩, attended.attended⟩

/-- As long as the sessions start to wait for their reports in time, the timer is in time
for every live session whenever no call is under way. -/
theorem timer_in_time_throughout (nextSessionId : Nat) {actions : List Action}
    (inTime : StepsMeet Process.step AwaitsInTime (initial nextSessionId) actions) :
    ∀ done, done <+: actions -> (run Process.step (initial nextSessionId) done).TimerInTime := by
  intro done before
  have initially : (initial nextSessionId).Attended := ⟨⟨nofun, nofun, Nat.one_ne_zero⟩, .inr nofun⟩
  have attended := (inTime.of_isPrefix before).invariant Attended
    (fun _ _ attended inTime => attended.step inTime) initially
  exact attended.timerInTime

/-- A frame that is sent just before its session expires. -/
def slowSend : List Action :=
  [.sendData (fun _ _ => false) (sampleRequest 5), .callReturns (some 0), .clockTick 55000,
    .sendDataComplete transmitCompleteOk none 1]

theorem timer_in_time_slowSend :
    StepsMeet Process.step AwaitsInTime (initial 0) slowSend ∧
      ∀ done, done <+: slowSend -> (run Process.step (initial 0) done).TimerInTime := by
  have inTime : StepsMeet step AwaitsInTime (initial 0) slowSend := by
    refine ⟨trivial, trivial, trivial, fun _ _ session _ _ => ?_, trivial⟩
    decide
  exact ⟨inTime, timer_in_time_throughout 0 inTime⟩

/-- A frame is sent at once, and its session has to wait for the report. -/
def promptSend : List Action :=
  [.sendData (fun _ _ => false) (sampleRequest 5), .callReturns (some 0),
    .sendDataComplete transmitCompleteOk none 1]

/-- The timer is due after a minute, and the session expires after eight seconds. -/
theorem not_timerInTime_promptSend : ¬ (run Process.step (initial 0) promptSend).TimerInTime := by
  intro inTime
  have mem : (1, { (initial 0).newSession (sampleRequest 5) 5 zwaveTxInvalidGroup with
      expiryTime := 8000, txInfo := some 0, txSessionId := some 0 }) ∈
        (run step (initial 0) promptSend).sessions := by
    decide
  obtain ⟨timer, armed, due⟩ := inTime rfl _ mem
  have isTimer : timer = ⟨0, 60000⟩ := (Option.some.inj armed).symm
  subst isTimer
  rcases due with early | ⟨-, short⟩
  · exact absurd early (by decide)
  · exact absurd short (by decide)

end Process

end Supervision
