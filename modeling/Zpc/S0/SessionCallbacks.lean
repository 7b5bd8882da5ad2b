import Zpc.S0.Effects

/-!
# Callbacks of sending sessions

A session ends when it enters `TX_DONE`, and its callback is called there.  The completion
of a frame and an abort both find a session by what is in a slot at that moment: the
completion by the slot itself, the abort by the session id, which is the null pointer in a
free slot.  When no completion arrives late at a slot that is taken again, every session
is called back exactly once.
-/

namespace S0

open Foundation

namespace Transport

/-- A session in progress has the number. -/
def InProgress (transport : Transport) (number : Nat) : Prop :=
  ∃ slot, (transport.txSessions slot).number = some number

/-- How often the callback of a session was called. -/
def callsOf (transport : Transport) (number : Nat) : Nat :=
  transport.outcomes.countP fun outcome => outcome.session == some number

/-- The callback of a session that ended was called once, no other callback was called, and
no completion changed a session that did not send the frame. -/
structure CalledBackOnce (transport : Transport) : Prop where
  ended : ∀ number ∈ transport.promised, ¬ transport.InProgress number ->
    transport.callsOf number = 1
  inProgress : ∀ number, transport.InProgress number -> transport.callsOf number = 0
  unpromised : ∀ number, number ∉ transport.promised -> transport.callsOf number = 0
  undisturbed : transport.disturbances = []

/-- An abort that succeeds had a session in progress. -/
def AbortsSession (transport : Transport) : Action -> Prop
  | .abortSendData sessionId =>
      (transport.onAbortSendData sessionId).1 = true ->
        ∃ slot, (transport.txSessions slot).number.isSome = true ∧
          (transport.txSessions slot).sessionId = sessionId
  | _ => True

/-- The slots agree with the record. -/
structure Accounted (transport : Transport) : Prop where
  numbered : ∀ slot number, (transport.txSessions slot).number = some number ->
    number < transport.accepted
  apart : ∀ first second number, (transport.txSessions first).number = some number ->
    (transport.txSessions second).number = some number -> first = second
  promises : ∀ slot number, (transport.txSessions slot).number = some number ->
    ((transport.txSessions slot).callback = true ↔ number ∈ transport.promised)
  taken : ∀ slot number, (transport.txSessions slot).number = some number ->
    (transport.txSessions slot).remoteNodeId ≠ 0
  free : ∀ slot, (transport.txSessions slot).number = none ->
    (transport.txSessions slot).callback = false ∧ (transport.txSessions slot).sessionId = 0 ∧
      (transport.txSessions slot).remoteNodeId = 0
  promised : ∀ number ∈ transport.promised, number < transport.accepted
  once : CalledBackOnce transport

/-- What the account is about is the same. -/
structure SameAccount (before after : Transport) : Prop where
  number : ∀ slot, (after.txSessions slot).number = (before.txSessions slot).number
  callback : ∀ slot, (after.txSessions slot).callback = (before.txSessions slot).callback
  remoteNodeId : ∀ slot,
    (after.txSessions slot).remoteNodeId = (before.txSessions slot).remoteNodeId
  sessionId : ∀ slot, (after.txSessions slot).sessionId = (before.txSessions slot).sessionId
  accepted : after.accepted = before.accepted
  promised : after.promised = before.promised
  outcomes : after.outcomes = before.outcomes
  disturbances : after.disturbances = before.disturbances

theorem SameAccount.trans {first second third : Transport} (earlier : SameAccount first second)
    (later : SameAccount second third) : SameAccount first third where
  number slot := (later.number slot).trans (earlier.number slot)
  callback slot := (later.callback slot).trans (earlier.callback slot)
  remoteNodeId slot := (later.remoteNodeId slot).trans (earlier.remoteNodeId slot)
  sessionId slot := (later.sessionId slot).trans (earlier.sessionId slot)
  accepted := later.accepted.trans earlier.accepted
  promised := later.promised.trans earlier.promised
  outcomes := later.outcomes.trans earlier.outcomes
  disturbances := later.disturbances.trans earlier.disturbances

variable {before after transport : Transport} {id : Nat} {answers : Answers} {action : Action}

theorem inProgress_congr
    (same : ∀ slot, (after.txSessions slot).number = (before.txSessions slot).number)
    (number : Nat) :
    after.InProgress number ↔ before.InProgress number := by
  unfold InProgress
  simp only [same]

theorem SameAccount.calledBackOnce (same : SameAccount before after)
    (once : CalledBackOnce before) :
    CalledBackOnce after := by
  have calls : ∀ number, after.callsOf number = before.callsOf number := by
    intro number
    unfold callsOf
    rw [same.outcomes]
  obtain ⟨ended, inProgress, unpromised, undisturbed⟩ := once
  constructor
  · intro number isPromised isOver
    rw [same.promised] at isPromised
    rw [inProgress_congr same.number] at isOver
    rw [calls]
    exact ended number isPromised isOver
  · intro number isInProgress
    rw [inProgress_congr same.number] at isInProgress
    rw [calls]
    exact inProgress number isInProgress
  · intro number notPromised
    rw [same.promised] at notPromised
    rw [calls]
    exact unpromised number notPromised
  · exact same.disturbances.trans undisturbed

theorem SameAccount.accounted {before after : Transport} (same : SameAccount before after)
    (accounted : Accounted before) : Accounted after := by
  constructor
  · intro slot number isNumber
    rw [same.number] at isNumber
    rw [same.accepted]
    exact accounted.numbered slot number isNumber
  · intro first second number isFirst isSecond
    rw [same.number] at isFirst isSecond
    exact accounted.apart first second number isFirst isSecond
  · intro slot number isNumber
    rw [same.number] at isNumber
    rw [same.callback, same.promised]
    exact accounted.promises slot number isNumber
  · intro slot number isNumber
    rw [same.number] at isNumber
    rw [same.remoteNodeId]
    exact accounted.taken slot number isNumber
  · intro slot noNumber
    rw [same.number] at noNumber
    rw [same.callback, same.sessionId, same.remoteNodeId]
    exact accounted.free slot noNumber
  · intro number isPromised
    rw [same.promised] at isPromised
    rw [same.accepted]
    exact accounted.promised number isPromised
  · exact same.calledBackOnce accounted.once

theorem SameAccount.refl (transport : Transport) : SameAccount transport transport :=
  ⟨fun _ => rfl, fun _ => rfl, fun _ => rfl, fun _ => rfl, rfl, rfl, rfl, rfl⟩

theorem sameAccount_modifySession (transport : Transport) (slot : Slot)
    (change : TxSession -> TxSession)
    (keeps : ∀ session, (change session).number = session.number ∧
      (change session).callback = session.callback ∧
        (change session).remoteNodeId = session.remoteNodeId ∧
          (change session).sessionId = session.sessionId) :
    SameAccount transport (transport.modifySession slot change) := by
  have each : ∀ {α : Type} (field : TxSession -> α),
      (∀ session, field (change session) = field session) -> ∀ other,
        field ((transport.modifySession slot change).txSessions other) =
          field (transport.txSessions other) := by
    intro α field keepsField other
    rw [txSessions_modifySession]
    split
    next same => rw [keepsField, same]
    next => rfl
  refine ⟨?_, ?_, ?_, ?_, rfl, rfl, rfl, rfl⟩
  · exact each TxSession.number fun session => (keeps session).1
  · exact each TxSession.callback fun session => (keeps session).2.1
  · exact each TxSession.remoteNodeId fun session => (keeps session).2.2.1
  · exact each TxSession.sessionId fun session => (keeps session).2.2.2

theorem callsOf_txDone (transport : Transport) (slot : Slot) (number : Nat) :
    (transport.txDone slot).callsOf number =
      transport.callsOf number +
        if (transport.txSessions slot).callback = true ∧
            (transport.txSessions slot).number = some number then 1
        else 0 := by
  unfold callsOf txDone
  dsimp only
  by_cases isCalled : (transport.txSessions slot).callback = true
  · rw [if_pos isCalled, List.countP_cons]
    simp [isCalled]
  · rw [if_neg isCalled, if_neg (fun both => isCalled both.1), Nat.add_zero]

section

variable (accounted : Accounted transport)
include accounted

variable (slot : Slot)

theorem Accounted.inProgress_txDone (number : Nat) :
    (transport.txDone slot).InProgress number ↔
      transport.InProgress number ∧ (transport.txSessions slot).number ≠ some number := by
  constructor
  · rintro ⟨other, isNumber⟩
    rw [txSessions_txDone] at isNumber
    split at isNumber
    · cases isNumber
    next different =>
      refine ⟨⟨other, isNumber⟩, fun sameNumber => different ?_⟩
      exact accounted.apart other slot number isNumber sameNumber
  · rintro ⟨⟨other, isNumber⟩, notHere⟩
    refine ⟨other, ?_⟩
    have different : other ≠ slot := by
      rintro rfl
      exact notHere isNumber
    rw [txSessions_txDone, if_neg different]
    exact isNumber

theorem Accounted.calledBackOnce_txDone : CalledBackOnce (transport.txDone slot) := by
  have promises := accounted.promises slot
  obtain ⟨ended, inProgress, unpromised, undisturbed⟩ := accounted.once
  constructor
  · intro number isPromised isOver
    rw [accounted.inProgress_txDone] at isOver
    rw [callsOf_txDone]
    by_cases isHere : (transport.txSessions slot).number = some number
    · rw [if_pos ⟨(promises number isHere).mpr isPromised, isHere⟩,
        inProgress number ⟨slot, isHere⟩]
    · rw [if_neg fun both => isHere both.2]
      exact ended number isPromised fun isInProgress => isOver ⟨isInProgress, isHere⟩
  · intro number isInProgress
    rw [accounted.inProgress_txDone] at isInProgress
    rw [callsOf_txDone, if_neg fun both => isInProgress.2 both.2]
    exact inProgress number isInProgress.1
  · intro number notPromised
    rw [callsOf_txDone, if_neg fun both => notPromised ((promises number both.2).mp both.1)]
    exact unpromised number notPromised
  · exact undisturbed

theorem Accounted.txDone : Accounted (transport.txDone slot) := by
  have others : ∀ other number, ((transport.txDone slot).txSessions other).number = some number ->
      (transport.txDone slot).txSessions other = transport.txSessions other := by
    intro other number isNumber
    rw [txSessions_txDone] at isNumber ⊢
    split at isNumber
    · cases isNumber
    next different => rw [if_neg different]
  constructor
  · intro other number isNumber
    rw [others other number isNumber] at isNumber
    exact accounted.numbered other number isNumber
  · intro first second number isFirst isSecond
    rw [others first number isFirst] at isFirst
    rw [others second number isSecond] at isSecond
    exact accounted.apart first second number isFirst isSecond
  · intro other number isNumber
    have same := others other number isNumber
    rw [same] at isNumber ⊢
    exact accounted.promises other number isNumber
  · intro other number isNumber
    have same := others other number isNumber
    rw [same] at isNumber ⊢
    exact accounted.taken other number isNumber
  · intro other noNumber
    rw [txSessions_txDone] at noNumber ⊢
    split at noNumber
    next same =>
      rw [if_pos same]
      exact ⟨rfl, rfl, rfl⟩
    next different =>
      rw [if_neg different]
      exact accounted.free other noNumber
  · exact accounted.promised
  · exact accounted.calledBackOnce_txDone slot

theorem Accounted.txFail : Accounted (transport.txFail slot) := by
  apply Accounted.txDone
  apply SameAccount.accounted _ accounted
  exact sameAccount_modifySession transport slot _ fun _ => ⟨rfl, rfl, rfl, rfl⟩

end

theorem callback_cases (transport : Transport) (status : Nat) (txInfo : Option TxInfo)
    (slot : Slot) :
    SameAccount transport (transport.callback status txInfo slot) ∨
      ∃ reached, SameAccount transport reached ∧
        transport.callback status txInfo slot = reached.txDone slot := by
  unfold callback
  dsimp only
  generalize isNoted : (transport.modifySession slot fun session =>
    { session with
      txCode := status
      txExtStatus := txInfo.or session.txExtStatus }) = noted
  have same : SameAccount transport noted := by
    rw [← isNoted]
    exact sameAccount_modifySession transport slot _ fun _ => ⟨rfl, rfl, rfl, rfl⟩
  split
  · split
    · unfold encMsgSent
      split
      · left
        exact same.trans (sameAccount_modifySession noted slot _ fun _ => ⟨rfl, rfl, rfl, rfl⟩)
      · exact .inr ⟨noted, same, rfl⟩
    · unfold encMsg2Sent txFail
      split
      · refine .inr ⟨_, same.trans ?_, rfl⟩
        exact sameAccount_modifySession noted slot _ fun _ => ⟨rfl, rfl, rfl, rfl⟩
      · exact .inr ⟨noted, same, rfl⟩
    · left
      exact same.trans (sameAccount_modifySession noted slot _ fun _ => ⟨rfl, rfl, rfl, rfl⟩)
    · exact .inl same
  · exact .inr ⟨noted, same, rfl⟩

theorem Accounted.callback (accounted : Accounted transport) (status : Nat) (txInfo : Option TxInfo)
    (slot : Slot) : Accounted (transport.callback status txInfo slot) := by
  rcases callback_cases transport status txInfo slot with same | ⟨reached, same, isDone⟩
  · exact same.accounted accounted
  · rw [isDone]
    exact (same.accounted accounted).txDone slot

/-- A session that is in progress later was in progress before. -/
def OnlyEnds (before after : Transport) : Prop :=
  ∀ slot, (after.txSessions slot).number = (before.txSessions slot).number ∨
    (after.txSessions slot).number = none

theorem onlyEnds_callback (transport : Transport) (status : Nat) (txInfo : Option TxInfo)
    (slot : Slot) : OnlyEnds transport (transport.callback status txInfo slot) := by
  intro other
  rcases callback_cases transport status txInfo slot with same | ⟨reached, same, isDone⟩
  · exact .inl (same.number other)
  · rw [isDone, txSessions_txDone]
    split
    · exact .inr rfl
    · exact .inl (same.number other)

/-- The frames with an id were sent by the session that is in their slot, unless the slot is
free. -/
def NotLate (transport : Transport) (id : Nat) : Prop :=
  ∀ frame ∈ transport.queued, frame.id = id ->
    (transport.txSessions frame.slot).number = none ∨
      (transport.txSessions frame.slot).number = frame.session

theorem onlyEnds_frameCompletes (transport : Transport) (id status : Nat) (txInfo : Option TxInfo) :
    OnlyEnds transport (transport.frameCompletes id status txInfo) := by
  rcases frameCompletes_cases transport id status txInfo with
    same | ⟨frame, -, -, completed, isCompleted, isAfter⟩
  · rw [same]
    exact fun _ => .inl rfl
  · rw [isAfter, isCompleted]
    exact onlyEnds_callback (transport.unqueue frame status) status txInfo frame.slot

theorem NotLate.frameCompletes {late : Nat} (notLate : NotLate transport late) (id status : Nat)
    (txInfo : Option TxInfo) : NotLate (transport.frameCompletes id status txInfo) late := by
  intro frame isQueued isLate
  rcases onlyEnds_frameCompletes transport id status txInfo frame.slot with same | ended
  · rw [same]
    exact notLate frame (queued_frameCompletes isQueued) isLate
  · exact .inl ended

theorem Accounted.frameCompletes (accounted : Accounted transport) (notLate : NotLate transport id)
    (status : Nat) (txInfo : Option TxInfo) :
    Accounted (transport.frameCompletes id status txInfo) := by
  rcases frameCompletes_cases transport id status txInfo with
    same | ⟨frame, isQueued, isFrame, completed, isCompleted, isAfter⟩
  · rw [same]
    exact accounted
  · have accountedThen : Accounted completed := by
      rw [isCompleted]
      apply Accounted.callback
      exact { accounted with once := { accounted.once with } }
    have undisturbed : disturbs frame (transport.txSessions frame.slot)
        (completed.txSessions frame.slot) = false := by
      unfold disturbs
      rcases notLate frame isQueued isFrame with isFree | isOwn
      · rw [isFree]
        rfl
      · rw [isOwn]
        simp
    rw [isAfter, undisturbed]
    exact accountedThen

theorem Accounted.evictFrames (accounted : Accounted transport) {evicted : List Nat}
    (notLate : ∀ id ∈ evicted, NotLate transport id) :
    Accounted (transport.evictFrames evicted) := by
  induction evicted generalizing transport with
  | nil => exact accounted
  | cons id rest ih =>
    apply ih
    · exact accounted.frameCompletes (notLate id List.mem_cons_self) transmitCompleteFail none
    · intro later isLater
      exact (notLate later (List.mem_cons_of_mem id isLater)).frameCompletes id
        transmitCompleteFail none

theorem Accounted.sendFrame (accounted : Accounted transport) (slot : Slot) (part : Part)
    (bytes : List UInt8) (notLate : ∀ id ∈ answers.evicted, NotLate transport id) :
    Accounted (transport.sendFrame slot part bytes answers) := by
  have evicted := accounted.evictFrames notLate
  unfold Transport.sendFrame
  split
  · generalize transport.evictFrames answers.evicted = reached at evicted ⊢
    have enqueued : ∀ frame, Accounted
        (reached.enqueue slot (transport.txSessions slot).number part frame) := by
      intro frame
      exact { evicted with once := { evicted.once with } }
    apply SameAccount.accounted (sameAccount_modifySession _ slot _ ?_) (enqueued _)
    exact fun _ => ⟨rfl, rfl, rfl, rfl⟩
  · exact evicted.txFail slot

variable (aes : BlockCipher)

theorem NotLate.congr (notLate : NotLate before id) (queued : after.queued = before.queued)
    (same : ∀ slot, (after.txSessions slot).number = (before.txSessions slot).number) :
    NotLate after id := by
  intro frame isQueued isFrame
  rw [queued] at isQueued
  rw [same]
  exact notLate frame isQueued isFrame

theorem Accounted.sendEncrypted {transport : Transport} (accounted : Accounted transport)
    (slot : Slot) (pass2 : Bool) {answers : Answers}
    (notLate : ∀ id ∈ answers.evicted, NotLate transport id) {after : Transport}
    (isAfter : transport.sendEncrypted aes slot pass2 answers = some after) : Accounted after := by
  unfold Transport.sendEncrypted at isAfter
  dsimp only at isAfter
  generalize isEntered : (transport.modifySession slot fun session =>
    { session with
      state := if pass2 then .encMsg2 else .encMsg
      timer := false }) = entered at isAfter
  have same : SameAccount transport entered := by
    rw [← isEntered]
    exact sameAccount_modifySession transport slot _ fun _ => ⟨rfl, rfl, rfl, rfl⟩
  have queued : entered.queued = transport.queued := by
    rw [← isEntered]
    rfl
  rcases encryptMessage_cases aes entered slot pass2 answers with
    isStuck | isRefused | ⟨table, length, encrypted, isEncrypted, outcome⟩
  · rw [isStuck] at isAfter
    cases isAfter
  · rw [isRefused] at isAfter
    cases isAfter
    exact (same.accounted accounted).txFail slot
  · have sameThen : SameAccount transport encrypted := by
      have sameTable : SameAccount transport { entered with nonceTable := table } := { same with }
      apply sameTable.trans
      rw [isEncrypted]
      exact sameAccount_modifySession _ slot _ fun _ => ⟨rfl, rfl, rfl, rfl⟩
    have queuedThen : encrypted.queued = transport.queued := by
      rw [isEncrypted]
      exact queued
    rcases outcome with isRefused | ⟨frame, isFrame, -⟩
    · rw [isRefused] at isAfter
      cases isAfter
      exact (sameThen.accounted accounted).txFail slot
    · rw [isFrame] at isAfter
      cases isAfter
      apply (sameThen.accounted accounted).sendFrame
      exact fun id isEvicted => (notLate id isEvicted).congr queuedThen sameThen.number

/-- No completion arrives late at a slot that is taken again, a session has a remote node,
and an abort names a session unless there is one without a name or no free slot. -/
def Orderly (transport : Transport) : Action -> Prop
  | .sendData request answers =>
      ∀ slot, transport.takenSlot request = some slot ->
        request.remoteNodeId ≠ 0 ∧
          ∀ id ∈ answers.evicted, NotLate (transport.openSession slot request) id
  | .frameCompletes id _ _ => NotLate transport id
  | .abortSendData sessionId =>
      sessionId = 0 ->
        (∃ slot, (transport.txSessions slot).number.isSome = true ∧
          (transport.txSessions slot).sessionId = 0) ∨
        ∀ slot, (transport.txSessions slot).number.isSome = true
  | .frameReceived _ _ _ _ answers => ∀ id ∈ answers.evicted, NotLate transport id
  | _ => True

variable {slot : Slot}

theorem Accounted.number_eq_none (accounted : Accounted transport)
    (noRemote : (transport.txSessions slot).remoteNodeId = 0) :
    (transport.txSessions slot).number = none := by
  cases isNumber : (transport.txSessions slot).number with
  | none => rfl
  | some number => exact absurd noRemote (accounted.taken slot number isNumber)

theorem mem_promised_openSession (transport : Transport) (slot : Slot) (request : SendRequest)
    (number : Nat) :
    number ∈ (transport.openSession slot request).promised ↔
      (request.callback = true ∧ number = transport.accepted) ∨ number ∈ transport.promised := by
  unfold openSession
  split
  next isCalled => simp [isCalled]
  next notCalled => simp [notCalled]

theorem inProgress_openSession (isFree : (transport.txSessions slot).number = none)
    (request : SendRequest) (number : Nat) :
    (transport.openSession slot request).InProgress number ↔
      number = transport.accepted ∨ transport.InProgress number := by
  constructor
  · rintro ⟨other, isNumber⟩
    by_cases same : other = slot
    · rw [same, number_openSession] at isNumber
      exact .inl (Option.some.inj isNumber).symm
    · rw [txSessions_openSession_of_ne transport same] at isNumber
      exact .inr ⟨other, isNumber⟩
  · rintro (isNew | ⟨other, isNumber⟩)
    · rw [isNew]
      exact ⟨slot, number_openSession transport slot request⟩
    · have different : other ≠ slot := by
        rintro rfl
        rw [isFree] at isNumber
        cases isNumber
      refine ⟨other, ?_⟩
      rw [txSessions_openSession_of_ne transport different]
      exact isNumber

theorem Accounted.calledBackOnce_openSession (accounted : Accounted transport)
    (isFree : (transport.txSessions slot).number = none) (request : SendRequest) :
    CalledBackOnce (transport.openSession slot request) := by
  have fresh : transport.accepted ∉ transport.promised :=
    fun isPromised => Nat.lt_irrefl _ (accounted.promised _ isPromised)
  obtain ⟨ended, inProgress, unpromised, undisturbed⟩ := accounted.once
  constructor
  · intro number isPromised isOver
    rw [inProgress_openSession isFree, not_or] at isOver
    rw [mem_promised_openSession] at isPromised
    rcases isPromised with ⟨-, isNew⟩ | isPromised
    · exact absurd isNew isOver.1
    · exact ended number isPromised isOver.2
  · intro number isInProgress
    rw [inProgress_openSession isFree] at isInProgress
    rcases isInProgress with isNew | isInProgress
    · rw [isNew]
      exact unpromised transport.accepted fresh
    · exact inProgress number isInProgress
  · intro number notPromised
    rw [mem_promised_openSession, not_or] at notPromised
    exact unpromised number notPromised.2
  · exact undisturbed

variable {request : SendRequest}

/-- A session takes a free slot. -/
theorem Accounted.openSession (accounted : Accounted transport)
    (isFree : (transport.txSessions slot).number = none) (isNode : request.remoteNodeId ≠ 0) :
    Accounted (transport.openSession slot request) := by
  have fresh : ∀ {other}, (transport.txSessions other).number ≠ some transport.accepted :=
    fun isNumber => Nat.lt_irrefl _ (accounted.numbered _ _ isNumber)
  obtain ⟨numbered, apart⟩ := openSession_numbers accounted.numbered accounted.apart
  refine ⟨numbered, apart, ?_, ?_, ?_, ?_, ?_⟩
  · intro other number isNumber
    rw [mem_promised_openSession]
    rcases openSession_cases isNumber with ⟨isHere, isNew⟩ | ⟨same, isOld⟩
    · have notPromised : number ∉ transport.promised := by
        rw [isNew]
        exact fun isPromised => Nat.lt_irrefl _ (accounted.promised _ isPromised)
      have isCallback : ((transport.openSession slot request).txSessions other).callback =
          request.callback := by
        unfold Transport.openSession
        rw [txSessions_modifySession, if_pos isHere]
      rw [isCallback]
      constructor
      · exact fun isCalled => .inl ⟨isCalled, isNew⟩
      · rintro (⟨isCalled, -⟩ | isPromised)
        · exact isCalled
        · exact absurd isPromised notPromised
    · rw [same, accounted.promises other number isOld]
      constructor
      · exact .inr
      · rintro (⟨-, isNew⟩ | isPromised)
        · exact absurd (isNew ▸ isOld) fresh
        · exact isPromised
  · intro other number isNumber
    rcases openSession_cases isNumber with ⟨isHere, -⟩ | ⟨same, isOld⟩
    · unfold Transport.openSession
      rw [txSessions_modifySession, if_pos isHere]
      exact isNode
    · rw [same]
      exact accounted.taken other number isOld
  · intro other noNumber
    by_cases same : other = slot
    · rw [same, number_openSession] at noNumber
      cases noNumber
    · rw [txSessions_openSession_of_ne transport same] at noNumber ⊢
      exact accounted.free other noNumber
  · intro number isPromised
    rw [mem_promised_openSession] at isPromised
    rcases isPromised with ⟨-, isNew⟩ | isPromised
    · rw [isNew]
      exact Nat.lt_succ_self _
    · exact Nat.lt_succ_of_lt (accounted.promised number isPromised)
  · exact accounted.calledBackOnce_openSession isFree request

theorem Accounted.sendData (accounted : Accounted transport)
    (orderly : Orderly transport (.sendData request answers)) :
    Accounted (transport.sendData request answers) := by
  rcases sendData_cases transport request answers with same | ⟨slot, isTaken, noRemote, isAfter⟩
  · rw [same]
    exact accounted
  · obtain ⟨isNode, notLate⟩ := orderly slot isTaken
    rw [isAfter]
    apply Accounted.sendFrame _ _ _ _ notLate
    exact accounted.openSession (accounted.number_eq_none noRemote) isNode

theorem Accounted.registerNonce {transport : Transport} (accounted : Accounted transport)
    (src dst : NodeId) (nonce : Nonce) {answers : Answers}
    (notLate : ∀ id ∈ answers.evicted, NotLate transport id) {after : Transport}
    (isAfter : transport.registerNonce aes src dst nonce answers = some after) :
    Accounted after := by
  unfold Transport.registerNonce at isAfter
  split at isAfter
  · cases isAfter
    exact accounted
  · split at isAfter
    next =>
      cases isAfter
      exact accounted
    next slot found =>
      dsimp only at isAfter
      generalize isNoted : { transport with
        nonceTable := transport.nonceTable.registerNonce src dst false nonce }.blockNonce src dst
          nonce = noted at isAfter
      have same : SameAccount transport noted := by
        rw [← isNoted]
        exact { SameAccount.refl _ with }
      have notLateThen : ∀ id ∈ answers.evicted, NotLate noted id := by
        intro id isEvicted
        rw [← isNoted]
        exact notLate id isEvicted
      have accountedThen := same.accounted accounted
      have sent := fun pass2 => @Accounted.sendEncrypted aes noted accountedThen slot pass2 answers
        notLateThen after
      split at isAfter
      · exact sent false isAfter
      · exact sent false isAfter
      · exact sent true isAfter
      · split at isAfter
        · exact sent true isAfter
        · cases isAfter
          exact accountedThen
      · cases isAfter
        exact accountedThen

section

variable (accounted : Accounted transport)
include accounted

theorem Accounted.sendNonce (localNodeId remoteNodeId : NodeId)
    (notLate : ∀ id ∈ answers.evicted, NotLate transport id)
    (isAfter : transport.sendNonce localNodeId remoteNodeId answers = some after) :
    Accounted after := by
  have evicted := accounted.evictFrames notLate
  unfold Transport.sendNonce at isAfter
  split at isAfter
  · cases isAfter
  · split at isAfter
    · cases isAfter
      apply SameAccount.accounted _ evicted
      exact { SameAccount.refl _ with }
    · cases isAfter
      exact evicted

theorem Accounted.applicationCommandHandler
    {localNodeId remoteNodeId : NodeId} {encapsulation : Encapsulation} {frame : List UInt8}
    (notLate : ∀ id ∈ answers.evicted, NotLate transport id)
    (isAfter : transport.applicationCommandHandler aes localNodeId remoteNodeId encapsulation
      frame answers = some after) :
    Accounted after := by
  rcases applicationCommandHandler_cases isAfter with
    same | isSent | isRegistered | ⟨table, sessions, delivered, isState⟩
  · rw [same]
    exact accounted
  · exact accounted.sendNonce _ _ notLate isSent
  · exact accounted.registerNonce aes _ _ _ notLate isRegistered
  · rw [isState]
    exact { accounted with once := { accounted.once with } }

theorem Accounted.onAbortSendData (sessionId : TxSessionId) :
    Accounted (transport.onAbortSendData sessionId).2 := by
  unfold Transport.onAbortSendData
  split
  · exact accounted
  next slot found => exact accounted.callback transmitCompleteFail _ slot

theorem Accounted.abortAllTxSessions : Accounted transport.abortAllTxSessions := by
  unfold Transport.abortAllTxSessions
  generalize slots = remaining
  induction remaining generalizing transport with
  | nil => exact accounted
  | cons slot rest ih =>
    apply ih
    dsimp only
    split
    · exact accounted.txFail slot
    · exact accounted

theorem number_abortAllTxSessions (slot : Slot) :
    (transport.abortAllTxSessions.txSessions slot).number = none := by
  -- the slots that are behind are free, and stay free
  have behind : ∀ remaining : List Slot, ∀ reached : Transport, Accounted reached ->
      slot ∈ remaining ∨ (reached.txSessions slot).number = none ->
        ((remaining.foldl
          (fun transport slot =>
            if (transport.txSessions slot).remoteNodeId ≠ 0 then transport.txFail slot
            else transport)
          reached).txSessions slot).number = none := by
    intro remaining
    induction remaining with
    | nil =>
      intro reached accountedThen isNext
      exact isNext.resolve_left List.not_mem_nil
    | cons next rest ih =>
      intro reached accountedThen isNext
      rw [List.foldl_cons]
      split
      next isTaken =>
        apply ih _ (accountedThen.txFail next)
        rw [txSessions_txFail]
        split
        · exact .inr rfl
        next different => exact isNext.imp_left fun mem =>
            (List.mem_cons.mp mem).resolve_left different
      next notTaken =>
        apply ih _ accountedThen
        rcases isNext with mem | isFree
        · rcases List.mem_cons.mp mem with same | isRest
          · rw [same]
            exact .inr (accountedThen.number_eq_none (not_not.mp notTaken))
          · exact .inl isRest
        · exact .inr isFree
  exact behind slots transport accounted (.inl (mem_slots slot))

theorem Accounted.networkInit (networkKey : Option Block) :
    Accounted (transport.networkInit aes networkKey) := by
  have aborted := accounted.abortAllTxSessions
  have noSession := number_abortAllTxSessions accounted
  unfold Transport.networkInit
  generalize transport.abortAllTxSessions = reached at aborted noSession ⊢
  have cleared : ∀ after : Transport, after.txSessions = (fun _ => .zero) ->
      after.accepted = reached.accepted -> after.promised = reached.promised ->
        after.outcomes = reached.outcomes -> after.disturbances = reached.disturbances ->
          Accounted after := by
    intro after isZero accepted promised outcomes disturbances
    apply SameAccount.accounted _ aborted
    have free := fun slot => aborted.free slot (noSession slot)
    refine ⟨?_, ?_, ?_, ?_, accepted, promised, outcomes, disturbances⟩
    · intro slot
      rw [isZero, noSession]
      rfl
    · intro slot
      rw [isZero, (free slot).1]
      rfl
    · intro slot
      rw [isZero, (free slot).2.2]
      rfl
    · intro slot
      rw [isZero, (free slot).2.1]
      rfl
  split <;> exact cleared _ rfl rfl rfl rfl rfl

/-- Every orderly step keeps the account of the callbacks. -/
theorem Accounted.step (orderly : Orderly transport action) :
    Accounted (transport.step aes action) := by
  cases action with
  | sendData request answers => exact accounted.sendData orderly
  | frameCompletes id status txInfo => exact accounted.frameCompletes orderly status txInfo
  | timerExpires slot =>
    unfold step
    dsimp only
    split
    · apply Accounted.txFail
      apply SameAccount.accounted _ accounted
      exact sameAccount_modifySession transport slot _ fun _ => ⟨rfl, rfl, rfl, rfl⟩
    · exact accounted
  | abortSendData sessionId => exact accounted.onAbortSendData sessionId
  | frameReceived localNodeId remoteNodeId encapsulation frame answers =>
    unfold step
    dsimp only
    cases isAfter : transport.applicationCommandHandler aes localNodeId remoteNodeId encapsulation
        frame answers with
    | none => exact accounted
    | some after => exact accounted.applicationCommandHandler aes orderly isAfter
  | nonceTimerExpires =>
    unfold step
    dsimp only
    split
    · exact { accounted with once := { accounted.once with } }
    · exact accounted
  | networkInit networkKey => exact accounted.networkInit aes networkKey
  | setKey | clockTick =>
    exact { accounted with once := { accounted.once with } }

end

theorem accounted_initial : Accounted initial := by
  refine ⟨?_, ?_, ?_, ?_, ?_, nofun, ⟨nofun, ?_, ?_, rfl⟩⟩
  · exact fun slot number isNumber => nomatch isNumber
  · exact fun first second number isNumber => nomatch isNumber
  · exact fun slot number isNumber => nomatch isNumber
  · exact fun slot number isNumber => nomatch isNumber
  · exact fun slot _ => ⟨rfl, rfl, rfl⟩
  · rintro number ⟨slot, isNumber⟩
    cases isNumber
  · exact fun number _ => rfl

theorem Accounted.abortsSession (accounted : Accounted transport)
    (orderly : Orderly transport action) : AbortsSession transport action := by
  cases action with
  | abortSendData sessionId =>
    intro succeeds
    unfold Transport.onAbortSendData at succeeds
    cases found : findSlot fun slot => (transport.txSessions slot).sessionId == sessionId with
    | none =>
      rw [found] at succeeds
      cases succeeds
    | some slot =>
      have isId : (transport.txSessions slot).sessionId = sessionId := by
        simpa using List.find?_some found
      cases isNumber : (transport.txSessions slot).number with
      | some number => exact ⟨slot, by rw [isNumber]; rfl, isId⟩
      | none =>
        have isNull : sessionId = 0 := by
          rw [← isId]
          exact (accounted.free slot isNumber).2.1
        rcases orderly isNull with ⟨other, isTaken, otherId⟩ | allTaken
        · exact ⟨other, isTaken, otherId.trans isNull.symm⟩
        · have isTaken := allTaken slot
          rw [isNumber] at isTaken
          cases isTaken
  | _ => trivial

/-- In every orderly run a session is called back exactly once when it ends and no completion
changes another session, and every abort that succeeds had a session in progress. -/
theorem called_back_once_orderly {actions : List Action}
    (orderly : StepsMeet (step aes) Orderly initial actions) :
    (∀ done, done <+: actions -> CalledBackOnce (run (step aes) initial done)) ∧
      StepsMeet (step aes) AbortsSession initial actions := by
  constructor
  · intro done before
    apply Accounted.once
    apply (orderly.of_isPrefix before).invariant Accounted _ accounted_initial
    exact fun _ _ accounted orderly => accounted.step aes orderly
  · apply orderly.mono_of_invariant Accounted _ _ accounted_initial
    · exact fun _ _ accounted orderly => accounted.step aes orderly
    · exact fun _ _ accounted orderly => accounted.abortsSession orderly

/-- A session is aborted after its first frame was sent. -/
def abortedSend : List Action :=
  [.sendData ⟨.security0, false, 1, 2, [0x25, 0x01], true, 9⟩ (drawing []),
    .frameCompletes 0 transmitCompleteOk none,
    .abortSendData 9]

theorem called_back_once_abortedSend :
    StepsMeet (step plainCipher) Orderly initial abortedSend ∧
      (∀ done, done <+: abortedSend -> CalledBackOnce (run (step plainCipher) initial done)) ∧
      StepsMeet (step plainCipher) AbortsSession initial abortedSend := by
  have orderly : StepsMeet (step plainCipher) Orderly initial abortedSend := by
    refine ⟨?_, ?_, ?_, trivial⟩
    · exact fun slot _ => ⟨by decide, nofun⟩
    · change NotLate _ 0
      unfold NotLate
      decide +kernel
    · exact fun isNull => absurd isNull (by decide)
  exact ⟨orderly, called_back_once_orderly _ orderly⟩

/-- A session times out, and the completion of its frame arrives when the slot is taken
again. -/
def lateCompletion : List Action :=
  [.sendData ⟨.security0, false, 1, 2, [0x25, 0x01], true, 9⟩ (drawing []),
    .timerExpires firstSlot,
    .sendData ⟨.security0, false, 1, 3, [0x25, 0x01], true, 10⟩ (drawing []),
    .frameCompletes 0 transmitCompleteFail none]

/-- The late completion ends the other session, and an abort of the null pointer succeeds
when there is no session at all. -/
theorem not_calledBackOnce_lateCompletion :
    ¬ CalledBackOnce (run (step plainCipher) initial lateCompletion) ∧
      ¬ AbortsSession initial (.abortSendData 0) := by
  constructor
  · intro once
    have disturbed : (run (step plainCipher) initial lateCompletion).disturbances =
        [⟨0, 0, some 0, .nonceGet⟩] := by
      decide +kernel
    rw [once.undisturbed] at disturbed
    cases disturbed
  · intro aborts
    obtain ⟨slot, isTaken, -⟩ := aborts rfl
    cases isTaken

end Transport

end S0
