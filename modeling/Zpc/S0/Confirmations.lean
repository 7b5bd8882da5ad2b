import Zpc.S0.Effects

/-!
# Confirmations of encrypted frames

When a session reports success, the encrypted frames of its payload should have been sent
with success before.  The completion of a frame moves a session on by the state it finds
it in, whichever frame it is about.  As long as the frame is the one that the state waits
for, success means that the whole payload was sent.
-/

namespace S0

open Foundation

namespace Transport

/-! ## What success means -/

/-- The encrypted frames of a session were sent and carry a payload. -/
def Carried (confirmed : List (Nat × Part)) (number : Nat) (payload : List UInt8) : Prop :=
  (number, .first payload) ∈ confirmed ∨
    ∃ first second, (number, .first first) ∈ confirmed ∧ (number, .second second) ∈ confirmed ∧
      payload = first ++ second

/-- Every session that reported success had sent its payload. -/
def SuccessesCarried (transport : Transport) : Prop :=
  ∀ outcome ∈ transport.outcomes, isTransmissionSuccessful outcome.status = true ->
    ∃ number, outcome.session = some number ∧ Carried transport.confirmed number outcome.payload

/-! ## What is kept -/

/-- All queued frames of a session are of some kind. -/
def FramesAre (transport : Transport) (number : Nat) (allowed : Part -> Prop) : Prop :=
  ∀ frame ∈ transport.queued, frame.session = some number -> allowed frame.part

/-- A frame of a session is queued. -/
def Outstanding (transport : Transport) (number : Nat) (part : Part) : Prop :=
  ∃ frame ∈ transport.queued, frame.session = some number ∧ frame.part = part

/-- The first encrypted frame of a session was sent, or it is queued. -/
def FirstUnderWay (transport : Transport) (number : Nat) (first : List UInt8) : Prop :=
  (number, .first first) ∈ transport.confirmed ∨ Outstanding transport number (.first first)

/-- What is left of the payload of a session and its frames agree with its state. -/
def Agrees (transport : Transport) (session : TxSession) (number : Nat) : Prop :=
  match session.state with
  | .nonceGet => session.data = session.payload ∧ FramesAre transport number (· = .nonceGet)
  | .nonceGetSent => session.data = session.payload ∧ FramesAre transport number (· = .nonceGet)
  | .encMsg =>
      ∃ first, session.payload = first ++ session.data ∧
        FramesAre transport number (fun part => part = .nonceGet ∨ part = .first first) ∧
          Outstanding transport number (.first first)
  | .encMsgSent =>
      ∃ first, session.payload = first ++ session.data ∧
        FramesAre transport number (fun part => part = .nonceGet ∨ part = .first first) ∧
          (number, .first first) ∈ transport.confirmed
  | .encMsg2 =>
      session.data = [] ∧ ∃ first second, session.payload = first ++ second ∧
        FramesAre transport number
          (fun part => part = .nonceGet ∨ part = .first first ∨ part = .second second) ∧
            FirstUnderWay transport number first
  | .encMsg2Sent => False
  | .txDone => False

/-- A session is about to send a part of its payload. -/
def Ready (transport : Transport) (session : TxSession) (number : Nat) : Part -> Prop
  | .nonceGet =>
      session.state = .nonceGet ∧ session.data = session.payload ∧
        FramesAre transport number (· = .nonceGet)
  | .first data =>
      session.state = .encMsg ∧ session.payload = data ++ session.data ∧
        FramesAre transport number (· = .nonceGet)
  | .second data =>
      session.state = .encMsg2 ∧ session.data = [] ∧ ∃ first, session.payload = first ++ data ∧
        FramesAre transport number (fun part => part = .nonceGet ∨ part = .first first) ∧
          FirstUnderWay transport number first

/-- The queue and the slots belong together. -/
structure Ledger (transport : Transport) : Prop where
  ids : ∀ first ∈ transport.queued, ∀ second ∈ transport.queued, first.id = second.id ->
    first = second
  bounded : ∀ frame ∈ transport.queued, frame.id < transport.frames
  numbered : ∀ slot number, (transport.txSessions slot).number = some number ->
    number < transport.accepted
  framesNumbered : ∀ frame ∈ transport.queued, ∀ number, frame.session = some number ->
    number < transport.accepted
  apart : ∀ first second number, (transport.txSessions first).number = some number ->
    (transport.txSessions second).number = some number -> first = second
  ownSlot : ∀ frame ∈ transport.queued, ∀ slot number, frame.session = some number ->
    (transport.txSessions slot).number = some number -> frame.slot = slot
  free : ∀ slot, (transport.txSessions slot).number = none ->
    (transport.txSessions slot).callback = false
  carried : SuccessesCarried transport

/-- The queue and the slots belong together, and every session is in step. -/
structure InStep (transport : Transport) : Prop where
  ledger : Ledger transport
  agrees : ∀ slot number, (transport.txSessions slot).number = some number ->
    Agrees transport (transport.txSessions slot) number

/-! ## Sessions that are left alone -/

/-- A session has the same work to do. -/
structure SameWork (before after : TxSession) : Prop where
  number : after.number = before.number
  callback : after.callback = before.callback
  data : after.data = before.data
  state : after.state = before.state
  payload : after.payload = before.payload

/-- A session with its frames is left alone. -/
structure Keeps (before after : Transport) (slot : Slot) (number : Nat) : Prop where
  work : SameWork (before.txSessions slot) (after.txSessions slot)
  noMore : ∀ frame ∈ after.queued, frame.session = some number -> frame ∈ before.queued
  noLess : ∀ frame ∈ before.queued, frame.session = some number -> frame ∈ after.queued
  confirmed : ∀ entry ∈ before.confirmed, entry ∈ after.confirmed

theorem SameWork.refl (session : TxSession) : SameWork session session := ⟨rfl, rfl, rfl, rfl, rfl⟩

theorem SameWork.trans {first second third : TxSession} (earlier : SameWork first second)
    (later : SameWork second third) : SameWork first third where
  number := later.number.trans earlier.number
  callback := later.callback.trans earlier.callback
  data := later.data.trans earlier.data
  state := later.state.trans earlier.state
  payload := later.payload.trans earlier.payload

section Keeps

variable {before after : Transport} {slot : Slot} {number : Nat}

theorem Keeps.framesAre (keeps : Keeps before after slot number) {allowed : Part -> Prop}
    (frames : FramesAre before number allowed) : FramesAre after number allowed :=
  fun frame isQueued isOwn => frames frame (keeps.noMore frame isQueued isOwn) isOwn

variable {part : Part}

section

variable (keeps : Keeps before after slot number)
include keeps

theorem Keeps.outstanding (outstanding : Outstanding before number part) :
    Outstanding after number part := by
  obtain ⟨frame, isQueued, isOwn, isPart⟩ := outstanding
  exact ⟨frame, keeps.noLess frame isQueued isOwn, isOwn, isPart⟩

theorem Keeps.firstUnderWay {first : List UInt8} (underWay : FirstUnderWay before number first) :
    FirstUnderWay after number first :=
  underWay.imp (keeps.confirmed _) keeps.outstanding

theorem Keeps.agrees (agrees : Agrees before (before.txSessions slot) number) :
    Agrees after (after.txSessions slot) number := by
  obtain ⟨-, -, sameData, sameState, samePayload⟩ := keeps.work
  unfold Agrees at agrees ⊢
  rw [sameState, sameData, samePayload]
  split at agrees
  · exact ⟨agrees.1, keeps.framesAre agrees.2⟩
  · exact ⟨agrees.1, keeps.framesAre agrees.2⟩
  · obtain ⟨first, isPayload, frames, outstanding⟩ := agrees
    exact ⟨first, isPayload, keeps.framesAre frames, keeps.outstanding outstanding⟩
  · obtain ⟨first, isPayload, frames, isConfirmed⟩ := agrees
    exact ⟨first, isPayload, keeps.framesAre frames, keeps.confirmed _ isConfirmed⟩
  · obtain ⟨noData, first, second, isPayload, frames, underWay⟩ := agrees
    exact ⟨noData, first, second, isPayload, keeps.framesAre frames, keeps.firstUnderWay underWay⟩
  all_goals exact agrees

theorem Keeps.ready (ready : Ready before (before.txSessions slot) number part) :
    Ready after (after.txSessions slot) number part := by
  obtain ⟨-, -, sameData, sameState, samePayload⟩ := keeps.work
  cases part with
  | nonceGet | first =>
    unfold Ready at ready ⊢
    rw [sameState, sameData, samePayload]
    exact ⟨ready.1, ready.2.1, keeps.framesAre ready.2.2⟩
  | second data =>
    unfold Ready at ready ⊢
    rw [sameState, sameData, samePayload]
    obtain ⟨isState, noData, first, isPayload, frames, underWay⟩ := ready
    exact ⟨isState, noData, first, isPayload, keeps.framesAre frames, keeps.firstUnderWay underWay⟩

end

end Keeps

/-! ## Sessions that end -/

/-- Nothing happens but that frames fail and sessions end: a session is left alone with its
frames, or it is over, and it reports success only when its payload was sent. -/
structure Ending (before after : Transport) : Prop where
  sessions : ∀ slot,
    ((after.txSessions slot).number = none ∧ (after.txSessions slot).callback = false) ∨
      (SameWork (before.txSessions slot) (after.txSessions slot) ∧
        ∀ frame ∈ before.queued, frame.slot = slot -> frame ∈ after.queued)
  queued : ∀ frame ∈ after.queued, frame ∈ before.queued
  confirmed : after.confirmed = before.confirmed
  accepted : after.accepted = before.accepted
  frames : after.frames = before.frames
  outcomes : ∀ outcome ∈ after.outcomes,
    outcome ∈ before.outcomes ∨
      (isTransmissionSuccessful outcome.status = true ->
        ∃ number, outcome.session = some number ∧ Carried before.confirmed number outcome.payload)

theorem Ending.refl (transport : Transport) : Ending transport transport where
  sessions _ := .inr ⟨.refl _, fun _ isQueued _ => isQueued⟩
  queued _ isQueued := isQueued
  confirmed := rfl
  accepted := rfl
  frames := rfl
  outcomes _ isOutcome := .inl isOutcome

theorem Ending.trans {first second third : Transport} (earlier : Ending first second)
    (later : Ending second third) : Ending first third := by
  refine ⟨?_, ?_, later.confirmed.trans earlier.confirmed, later.accepted.trans earlier.accepted,
    later.frames.trans earlier.frames, ?_⟩
  · intro slot
    rcases later.sessions slot with ended | ⟨sameLater, keptLater⟩
    · exact .inl ended
    · rcases earlier.sessions slot with ended | ⟨sameEarlier, keptEarlier⟩
      · left
        rw [sameLater.number, sameLater.callback]
        exact ended
      · right
        refine ⟨sameEarlier.trans sameLater, fun frame isQueued isHere => ?_⟩
        exact keptLater frame (keptEarlier frame isQueued isHere) isHere
  · exact fun frame isQueued => earlier.queued frame (later.queued frame isQueued)
  · intro outcome isOutcome
    rcases later.outcomes outcome isOutcome with isEarlier | carried
    · exact earlier.outcomes outcome isEarlier
    · rw [earlier.confirmed] at carried
      exact .inr carried

theorem Ending.keeps {before after : Transport} (ending : Ending before after)
    (ledger : Ledger before) {slot : Slot} {number : Nat}
    (isNumber : (after.txSessions slot).number = some number) :
    Keeps before after slot number ∧ (before.txSessions slot).number = some number := by
  rcases ending.sessions slot with ⟨noNumber, -⟩ | ⟨same, kept⟩
  · rw [noNumber] at isNumber
    cases isNumber
  · have wasNumber : (before.txSessions slot).number = some number := by
      rw [← same.number]
      exact isNumber
    refine ⟨⟨same, ?_, ?_, ?_⟩, wasNumber⟩
    · exact fun frame isQueued _ => ending.queued frame isQueued
    · intro frame isQueued isOwn
      exact kept frame isQueued (ledger.ownSlot frame isQueued slot number isOwn wasNumber)
    · intro entry isEntry
      rw [ending.confirmed]
      exact isEntry

variable {before after transport : Transport} {slot : Slot} {number status : Nat}
  {change : TxSession -> TxSession} {frame : QueuedFrame} {part : Part} {answers : Answers}
  {request : SendRequest} {localNodeId remoteNodeId : NodeId}

theorem Ending.ledger (ending : Ending before after) (ledger : Ledger before) : Ledger after := by
  constructor
  · intro first isFirst second isSecond sameId
    exact ledger.ids first (ending.queued first isFirst) second (ending.queued second isSecond)
      sameId
  · intro frame isQueued
    rw [ending.frames]
    exact ledger.bounded frame (ending.queued frame isQueued)
  · intro slot number isNumber
    rw [ending.accepted]
    exact ledger.numbered slot number (ending.keeps ledger isNumber).2
  · intro frame isQueued number isOwn
    rw [ending.accepted]
    exact ledger.framesNumbered frame (ending.queued frame isQueued) number isOwn
  · intro first second number isFirst isSecond
    exact ledger.apart first second number (ending.keeps ledger isFirst).2
      (ending.keeps ledger isSecond).2
  · intro frame isQueued slot number isOwn isNumber
    exact ledger.ownSlot frame (ending.queued frame isQueued) slot number isOwn
      (ending.keeps ledger isNumber).2
  · intro slot noNumber
    rcases ending.sessions slot with ⟨-, noCallback⟩ | ⟨same, -⟩
    · exact noCallback
    · rw [same.number] at noNumber
      rw [same.callback]
      exact ledger.free slot noNumber
  · intro outcome isOutcome isSuccess
    rw [ending.confirmed]
    rcases ending.outcomes outcome isOutcome with isEarlier | carried
    · exact ledger.carried outcome isEarlier isSuccess
    · exact carried isSuccess

theorem Ending.inStep {before after : Transport} (ending : Ending before after)
    (inStep : InStep before) : InStep after where
  ledger := ending.ledger inStep.ledger
  agrees slot number isNumber := by
    obtain ⟨keeps, wasNumber⟩ := ending.keeps inStep.ledger isNumber
    exact keeps.agrees (inStep.agrees slot number wasNumber)

theorem sameWork_modifySession (transport : Transport) (slot other : Slot)
    (same : ∀ session, SameWork session (change session)) :
    SameWork (transport.txSessions other)
      ((transport.modifySession slot change).txSessions other) := by
  rw [txSessions_modifySession]
  split
  next isHere =>
    rw [isHere]
    exact same _
  next => exact .refl _

theorem ending_modifySession (transport : Transport) (slot : Slot)
    (same : ∀ session, SameWork session (change session)) :
    Ending transport (transport.modifySession slot change) :=
  { Ending.refl transport with
    sessions other :=
      .inr ⟨sameWork_modifySession transport slot other same, fun _ isQueued _ => isQueued⟩ }

theorem ending_txDone
    (carried : (transport.txSessions slot).callback = true ->
      isTransmissionSuccessful (transport.txSessions slot).txCode = true ->
        ∃ number, (transport.txSessions slot).number = some number ∧
          Carried transport.confirmed number (transport.txSessions slot).payload) :
    Ending transport (transport.txDone slot) := by
  refine ⟨?_, fun _ isQueued => isQueued, rfl, rfl, rfl, ?_⟩
  · intro other
    rw [txSessions_txDone]
    split
    · exact .inl ⟨rfl, rfl⟩
    · exact .inr ⟨.refl _, fun _ isQueued _ => isQueued⟩
  · intro outcome isOutcome
    unfold txDone at isOutcome
    dsimp only at isOutcome
    split at isOutcome
    next isCalled =>
      rcases List.mem_cons.mp isOutcome with isNew | isEarlier
      · rw [isNew]
        exact .inr (carried isCalled)
      · exact .inl isEarlier
    next => exact .inl isOutcome

theorem ending_txFail (transport : Transport) (slot : Slot) :
    Ending transport (transport.txFail slot) := by
  apply Ending.trans (ending_modifySession transport slot ?_) (ending_txDone ?_)
  · exact fun _ => ⟨rfl, rfl, rfl, rfl, rfl⟩
  · intro _ isSuccess
    rw [txSessions_modifySession, if_pos rfl] at isSuccess
    cases isSuccess

theorem ending_callback (transport : Transport) {status : Nat}
    (failed : isTransmissionSuccessful status = false) (txInfo : Option TxInfo) (slot : Slot) :
    Ending transport (transport.callback status txInfo slot) := by
  unfold callback
  rw [if_neg (by rw [failed]; exact Bool.false_ne_true)]
  apply Ending.trans (ending_modifySession transport slot ?_) (ending_txDone ?_)
  · exact fun _ => ⟨rfl, rfl, rfl, rfl, rfl⟩
  · intro _ isSuccess
    rw [txSessions_modifySession, if_pos rfl] at isSuccess
    rw [failed] at isSuccess
    cases isSuccess

theorem ended_callback (transport : Transport) (failed : isTransmissionSuccessful status = false)
    (txInfo : Option TxInfo) (slot : Slot) :
    ((transport.callback status txInfo slot).txSessions slot).number = none ∧
      ((transport.callback status txInfo slot).txSessions slot).callback = false := by
  unfold callback
  rw [if_neg (by rw [failed]; exact Bool.false_ne_true), txSessions_txDone, if_pos rfl]
  exact ⟨rfl, rfl⟩

theorem Ledger.mem_unqueue (ledger : Ledger transport) (isFrame : frame ∈ transport.queued)
    (status : Nat) {other : QueuedFrame} :
    other ∈ (transport.unqueue frame status).queued ↔ other ∈ transport.queued ∧ other ≠ frame := by
  unfold unqueue
  simp only [List.mem_filter, decide_eq_true_eq]
  constructor
  · rintro ⟨isOther, different⟩
    exact ⟨isOther, fun same => different (same ▸ rfl)⟩
  · rintro ⟨isOther, different⟩
    exact ⟨isOther, fun sameId => different (ledger.ids other isOther frame isFrame sameId)⟩

theorem Ledger.ending_frameCompletes (ledger : Ledger transport) (id : Nat)
    (failed : isTransmissionSuccessful status = false) (txInfo : Option TxInfo) :
    Ending transport (transport.frameCompletes id status txInfo) := by
  rcases frameCompletes_cases transport id status txInfo with
    same | ⟨frame, isFrame, -, completed, isCompleted, isAfter⟩
  · rw [same]
    exact .refl transport
  · have ending := ending_callback (transport.unqueue frame status) failed txInfo frame.slot
    have ended := ended_callback (transport.unqueue frame status) failed txInfo frame.slot
    rw [← isCompleted] at ending ended
    have unconfirmed : (transport.unqueue frame status).confirmed = transport.confirmed := by
      unfold unqueue
      rw [failed]
      split <;> rfl
    rw [isAfter]
    refine ⟨?_, ?_, ending.confirmed.trans unconfirmed, ending.accepted, ending.frames, ?_⟩
    · intro slot
      by_cases isHere : slot = frame.slot
      · rw [isHere]
        exact .inl ended
      · rcases ending.sessions slot with isOver | ⟨same, kept⟩
        · exact .inl isOver
        · refine .inr ⟨same, fun other isOther isThere => ?_⟩
          apply kept other _ isThere
          apply (ledger.mem_unqueue isFrame status).mpr
          refine ⟨isOther, fun sameFrame => isHere ?_⟩
          rw [← isThere, sameFrame]
    · intro other isOther
      exact ((ledger.mem_unqueue isFrame status).mp (ending.queued other isOther)).1
    · rw [← unconfirmed]
      exact ending.outcomes

theorem Ledger.ending_evictFrames (ledger : Ledger transport) (evicted : List Nat) :
    Ending transport (transport.evictFrames evicted) := by
  induction evicted generalizing transport with
  | nil => exact .refl transport
  | cons id rest ih =>
    have ending := ledger.ending_frameCompletes id (show isTransmissionSuccessful
      transmitCompleteFail = false from rfl) none
    exact ending.trans (ih (ending.ledger ledger))

/-! ## Frames that are sent -/

/-- The sessions of all slots but one are in step. -/
structure OthersInStep (transport : Transport) (slot : Slot) : Prop where
  ledger : Ledger transport
  agrees : ∀ other number, other ≠ slot -> (transport.txSessions other).number = some number ->
    Agrees transport (transport.txSessions other) number

theorem InStep.others {transport : Transport} (inStep : InStep transport) (slot : Slot) :
    OthersInStep transport slot :=
  ⟨inStep.ledger, fun other number _ => inStep.agrees other number⟩

theorem Ending.othersInStep (ending : Ending before after) (inStep : OthersInStep before slot) :
    OthersInStep after slot where
  ledger := ending.ledger inStep.ledger
  agrees other number different isNumber := by
    obtain ⟨keeps, wasNumber⟩ := ending.keeps inStep.ledger isNumber
    exact keeps.agrees (inStep.agrees other number different wasNumber)

theorem OthersInStep.txFail {transport : Transport} {slot : Slot}
    (inStep : OthersInStep transport slot) : InStep (transport.txFail slot) := by
  obtain ⟨ledger, agrees⟩ := (ending_txFail transport slot).othersInStep inStep
  refine ⟨ledger, fun other number isNumber => agrees other number ?_ isNumber⟩
  rintro rfl
  rw [txSessions_txFail, if_pos rfl] at isNumber
  cases isNumber

theorem Ready.agrees {transport : Transport} {session : TxSession} {number : Nat} {part : Part}
    (ready : Ready transport session number part) (slot : Slot) (frame : SentFrame) :
    Agrees (transport.enqueue slot (some number) part frame) session number := by
  have frames : ∀ {before after : Part -> Prop}, FramesAre transport number before ->
      (∀ part, before part -> after part) -> after part ->
        FramesAre (transport.enqueue slot (some number) part frame) number after := by
    intro before after earlier weaker isNew queuedFrame isQueued isOwn
    rcases List.mem_cons.mp isQueued with isFrame | isEarlier
    · rw [isFrame]
      exact isNew
    · exact weaker _ (earlier queuedFrame isEarlier isOwn)
  unfold Agrees
  cases part with
  | nonceGet =>
    obtain ⟨isState, isData, earlier⟩ := ready
    rw [isState]
    exact ⟨isData, frames earlier (fun _ same => same) rfl⟩
  | first data =>
    obtain ⟨isState, isPayload, earlier⟩ := ready
    rw [isState]
    refine ⟨data, isPayload, frames earlier (fun _ => .inl) (.inr rfl), ?_⟩
    exact ⟨_, List.mem_cons_self, rfl, rfl⟩
  | second data =>
    obtain ⟨isState, noData, first, isPayload, earlier, underWay⟩ := ready
    rw [isState]
    refine ⟨noData, first, data, isPayload, frames earlier ?_ (.inr (.inr rfl)), ?_⟩
    · exact fun part isEarlier => isEarlier.imp_right .inl
    · apply underWay.imp_right
      rintro ⟨queuedFrame, isQueued, isOwn, isFirst⟩
      exact ⟨queuedFrame, List.mem_cons_of_mem _ isQueued, isOwn, isFirst⟩

variable {session : TxSession} {pass2 : Bool}

theorem Ledger.enqueue (ledger : Ledger transport) (slot : Slot) {session : Option Nat}
    (isNumber : ∀ number, session = some number -> number < transport.accepted)
    (isHere : ∀ other number, session = some number ->
      (transport.txSessions other).number = some number -> other = slot)
    (part : Part)
    (frame : SentFrame) :
    Ledger (transport.enqueue slot session part frame) := by
  constructor
  · intro first isFirst second isSecond sameId
    rcases List.mem_cons.mp isFirst with firstNew | firstOld
    · rcases List.mem_cons.mp isSecond with secondNew | secondOld
      · exact firstNew.trans secondNew.symm
      · have earlier := ledger.bounded second secondOld
        rw [← sameId, firstNew] at earlier
        exact absurd earlier (Nat.lt_irrefl _)
    · rcases List.mem_cons.mp isSecond with secondNew | secondOld
      · have earlier := ledger.bounded first firstOld
        rw [sameId, secondNew] at earlier
        exact absurd earlier (Nat.lt_irrefl _)
      · exact ledger.ids first firstOld second secondOld sameId
  · intro queuedFrame isQueued
    rcases List.mem_cons.mp isQueued with isNew | isOld
    · rw [isNew]
      exact Nat.lt_succ_self _
    · exact Nat.lt_succ_of_lt (ledger.bounded queuedFrame isOld)
  · exact ledger.numbered
  · intro queuedFrame isQueued number isOwn
    rcases List.mem_cons.mp isQueued with isNew | isOld
    · rw [isNew] at isOwn
      exact isNumber number isOwn
    · exact ledger.framesNumbered queuedFrame isOld number isOwn
  · exact ledger.apart
  · intro queuedFrame isQueued other number isOwn isThere
    rcases List.mem_cons.mp isQueued with isNew | isOld
    · rw [isNew] at isOwn ⊢
      exact (isHere other number isOwn isThere).symm
    · exact ledger.ownSlot queuedFrame isOld other number isOwn isThere
  · exact ledger.free
  · exact ledger.carried

theorem OthersInStep.sendFrame (inStep : OthersInStep transport slot)
    (ready : ∀ number, (transport.txSessions slot).number = some number ->
      Ready transport (transport.txSessions slot) number part)
    (bytes : List UInt8)
    (answers : Answers) :
    InStep (transport.sendFrame slot part bytes answers) := by
  have ending := inStep.ledger.ending_evictFrames answers.evicted
  have others := ending.othersInStep inStep
  unfold Transport.sendFrame
  generalize transport.evictFrames answers.evicted = reached at ending others ⊢
  split
  · -- the session that the frame is of is in the slot, if it is not ended
    have isHere : ∀ other number, (transport.txSessions slot).number = some number ->
        (reached.txSessions other).number = some number -> other = slot := by
      intro other number isNumber isThere
      obtain ⟨-, wasThere⟩ := ending.keeps inStep.ledger isThere
      exact inStep.ledger.apart other slot number wasThere isNumber
    have ledger := fun frame => others.ledger.enqueue slot (fun number isNumber => by
      rw [ending.accepted]
      exact inStep.ledger.numbered slot number isNumber) isHere part frame
    have enqueued : ∀ frame,
        InStep (reached.enqueue slot (transport.txSessions slot).number part frame) := by
      refine fun frame => ⟨ledger frame, fun other number isNumber => ?_⟩
      by_cases same : other = slot
      · subst same
        obtain ⟨keeps, wasNumber⟩ := ending.keeps inStep.ledger isNumber
        rw [wasNumber]
        exact (keeps.ready (ready number wasNumber)).agrees other frame
      · apply Keeps.agrees _ (others.agrees other number same isNumber)
        refine ⟨.refl _, ?_, ?_, fun _ isEntry => isEntry⟩
        · intro queuedFrame isQueued isOwn
          rcases List.mem_cons.mp isQueued with isNew | isOld
          · rw [isNew] at isOwn
            exact absurd (isHere other number isOwn isNumber) same
          · exact isOld
        · exact fun queuedFrame isQueued _ => List.mem_cons_of_mem _ isQueued
    apply Ending.inStep (ending_modifySession _ slot ?_) (enqueued _)
    exact fun _ => ⟨rfl, rfl, rfl, rfl, rfl⟩
  · exact others.txFail

theorem OthersInStep.modifySession {transport : Transport} {slot : Slot}
    (inStep : OthersInStep transport slot) {change : TxSession -> TxSession}
    (keeps : ∀ session, (change session).number = session.number ∧
      (change session).callback = session.callback) :
    OthersInStep (transport.modifySession slot change) slot := by
  have numbers : ∀ other, ((transport.modifySession slot change).txSessions other).number =
      (transport.txSessions other).number := by
    intro other
    rw [txSessions_modifySession]
    split
    next same => rw [(keeps _).1, same]
    next => rfl
  have callbacks : ∀ other, ((transport.modifySession slot change).txSessions other).callback =
      (transport.txSessions other).callback := by
    intro other
    rw [txSessions_modifySession]
    split
    next same => rw [(keeps _).2, same]
    next => rfl
  obtain ⟨ledger, agrees⟩ := inStep
  refine ⟨⟨ledger.ids, ledger.bounded, ?_, ledger.framesNumbered, ?_, ?_, ?_, ledger.carried⟩, ?_⟩
  · intro other number isNumber
    rw [numbers] at isNumber
    exact ledger.numbered other number isNumber
  · intro first second number isFirst isSecond
    rw [numbers] at isFirst isSecond
    exact ledger.apart first second number isFirst isSecond
  · intro frame isQueued other number isOwn isNumber
    rw [numbers] at isNumber
    exact ledger.ownSlot frame isQueued other number isOwn isNumber
  · intro other noNumber
    rw [numbers] at noNumber
    rw [callbacks]
    exact ledger.free other noNumber
  · intro other number different isNumber
    rw [numbers] at isNumber
    apply Keeps.agrees _ (agrees other number different isNumber)
    refine ⟨?_, fun _ isQueued _ => isQueued, fun _ isQueued _ => isQueued,
      fun _ isEntry => isEntry⟩
    rw [txSessions_modifySession, if_neg different]
    exact .refl _

/-- A session may send an encrypted frame, the first one or the second one. -/
def MayEncrypt (transport : Transport) (session : TxSession) (number : Nat) : Bool -> Prop
  | false => session.data = session.payload ∧ FramesAre transport number (· = .nonceGet)
  | true =>
      ∃ first, session.payload = first ++ session.data ∧
        FramesAre transport number (fun part => part = .nonceGet ∨ part = .first first) ∧
          FirstUnderWay transport number first

theorem MayEncrypt.ready (may : MayEncrypt before session number pass2)
    (queued : after.queued = before.queued) (confirmed : after.confirmed = before.confirmed)
    {length : Nat} (complete : pass2 = true -> session.data.drop length = []) {left : TxSession}
    (isState : left.state = if pass2 then .encMsg2 else .encMsg)
    (isData : left.data = session.data.drop length) (samePayload : left.payload = session.payload) :
    Ready after left number
      (if pass2 then .second (session.data.take length)
        else .first (session.data.take length)) := by
  have frames : ∀ {allowed : Part -> Prop}, FramesAre before number allowed ->
      FramesAre after number allowed := by
    intro allowed earlier frame isQueued
    rw [queued] at isQueued
    exact earlier frame isQueued
  cases pass2 with
  | false =>
    obtain ⟨whole, earlier⟩ := may
    refine ⟨isState, ?_, frames earlier⟩
    rw [samePayload, isData, ← whole, List.take_append_drop]
  | true =>
    obtain ⟨first, isPayload, earlier, underWay⟩ := may
    have rest : session.data.take length = session.data := by
      have parts := List.take_append_drop length session.data
      rw [complete rfl, List.append_nil] at parts
      exact parts
    refine ⟨isState, isData.trans (complete rfl), first, ?_, frames earlier, ?_⟩
    · rw [samePayload, isPayload, rest]
    · unfold FirstUnderWay Outstanding at underWay ⊢
      rw [queued, confirmed]
      exact underWay

variable (aes : BlockCipher)

theorem InStep.sendEncrypted (inStep : InStep transport)
    (may : ∀ number, (transport.txSessions slot).number = some number ->
      MayEncrypt transport (transport.txSessions slot) number pass2)
    (isAfter : transport.sendEncrypted aes slot pass2 answers = some after) :
    InStep after := by
  unfold Transport.sendEncrypted at isAfter
  dsimp only at isAfter
  generalize isEntered : (transport.modifySession slot fun session =>
    { session with
      state := if pass2 then .encMsg2 else .encMsg
      timer := false }) = entered at isAfter
  have others : OthersInStep entered slot := by
    rw [← isEntered]
    exact (inStep.others slot).modifySession fun _ => ⟨rfl, rfl⟩
  have isSession : entered.txSessions slot = { transport.txSessions slot with
      state := if pass2 then .encMsg2 else .encMsg
      timer := false } := by
    rw [← isEntered, txSessions_modifySession, if_pos rfl]
  have sameQueue : entered.queued = transport.queued ∧ entered.confirmed = transport.confirmed := by
    rw [← isEntered]
    exact ⟨rfl, rfl⟩
  rcases encryptMessage_cases aes entered slot pass2 answers with
    isStuck | isRefused | ⟨table, length, encrypted, isEncrypted, outcome⟩
  · rw [isStuck] at isAfter
    cases isAfter
  · rw [isRefused] at isAfter
    cases isAfter
    exact others.txFail
  · have othersThen : OthersInStep encrypted slot := by
      have sameTable : Ending entered { entered with nonceTable := table } :=
        { Ending.refl _ with }
      rw [isEncrypted]
      exact (sameTable.othersInStep others).modifySession fun _ => ⟨rfl, rfl⟩
    rcases outcome with isRefused | ⟨frame, isFrame, complete⟩
    · rw [isRefused] at isAfter
      cases isAfter
      exact othersThen.txFail
    · rw [isFrame] at isAfter
      cases isAfter
      apply othersThen.sendFrame
      intro number isNumber
      have isLeft : encrypted.txSessions slot = { entered.txSessions slot with
          data := (entered.txSessions slot).data.drop length } := by
        rw [isEncrypted, txSessions_modifySession, if_pos rfl]
      rw [isLeft, isSession] at isNumber ⊢
      rw [isSession] at complete
      refine (may number isNumber).ready ?_ ?_ complete ?_ ?_ ?_
      · rw [isEncrypted]
        exact sameQueue.1
      · rw [isEncrypted]
        exact sameQueue.2
      all_goals rfl

/-! ## Successful completions -/

/-- A frame is the one that the state of the session in its slot waits for: the first
encrypted frame in `ENC_MSG`, and in `ENC_MSG2` the second one, when the first one is not
queued any more. -/
def Awaited (transport : Transport) (frame : QueuedFrame) (session : TxSession)
    (number : Nat) : Prop :=
  match session.state with
  | .encMsg => frame.session = some number ∧ ∃ data, frame.part = .first data
  | .encMsg2 =>
      frame.session = some number ∧ (∃ data, frame.part = .second data) ∧
        ∀ data, ¬ Outstanding transport number (.first data)
  | _ => True

theorem mem_confirmed_unqueue {transport : Transport} {frame : QueuedFrame} {status : Nat}
    (isSuccess : isTransmissionSuccessful status = true) {number : Nat}
    (isOwn : frame.session = some number) :
    (number, frame.part) ∈ (transport.unqueue frame status).confirmed := by
  unfold unqueue
  rw [isOwn, isSuccess]
  exact List.mem_cons_self

theorem confirmed_unqueue (transport : Transport) (frame : QueuedFrame) (status : Nat)
    {entry : Nat × Part} (isEntry : entry ∈ transport.confirmed) :
    entry ∈ (transport.unqueue frame status).confirmed := by
  unfold unqueue
  split
  · split
    · exact List.mem_cons_of_mem _ isEntry
    · exact isEntry
  · exact isEntry

theorem Carried.mono {before after : List (Nat × Part)} (more : ∀ entry ∈ before, entry ∈ after)
    {payload : List UInt8} (carried : Carried before number payload) :
    Carried after number payload := by
  rcases carried with whole | ⟨first, second, isFirst, isSecond, isPayload⟩
  · exact .inl (more _ whole)
  · exact .inr ⟨first, second, more _ isFirst, more _ isSecond, isPayload⟩

theorem InStep.unqueue {transport : Transport} (inStep : InStep transport) {frame : QueuedFrame}
    (isFrame : frame ∈ transport.queued) (status : Nat) :
    OthersInStep (transport.unqueue frame status) frame.slot := by
  obtain ⟨ledger, agrees⟩ := inStep
  have earlier : ∀ {other}, other ∈ (transport.unqueue frame status).queued ->
      other ∈ transport.queued := fun isOther => ((ledger.mem_unqueue isFrame status).mp isOther).1
  have more := fun entry => @confirmed_unqueue transport frame status entry
  refine ⟨⟨?_, ?_, ledger.numbered, ?_, ledger.apart, ?_, ledger.free, ?_⟩, ?_⟩
  · exact fun first isFirst second isSecond =>
      ledger.ids first (earlier isFirst) second (earlier isSecond)
  · exact fun other isOther => ledger.bounded other (earlier isOther)
  · exact fun other isOther => ledger.framesNumbered other (earlier isOther)
  · exact fun other isOther => ledger.ownSlot other (earlier isOther)
  · intro outcome isOutcome isSuccess
    obtain ⟨number, isSession, carried⟩ := ledger.carried outcome isOutcome isSuccess
    exact ⟨number, isSession, carried.mono more⟩
  · intro slot number different isNumber
    apply Keeps.agrees _ (agrees slot number isNumber)
    refine ⟨.refl _, fun _ isOther _ => earlier isOther, ?_, more⟩
    intro other isOther isOwn
    apply (ledger.mem_unqueue isFrame status).mpr
    refine ⟨isOther, fun same => different ?_⟩
    rw [← ledger.ownSlot other isOther slot number isOwn isNumber, same]

theorem InStep.framesAre_unqueue {transport : Transport} (inStep : InStep transport)
    {frame : QueuedFrame} (isFrame : frame ∈ transport.queued) (status : Nat) {number : Nat}
    {allowed : Part -> Prop} (frames : FramesAre transport number allowed) :
    FramesAre (transport.unqueue frame status) number allowed :=
  fun other isOther => frames other ((inStep.ledger.mem_unqueue isFrame status).mp isOther).1

theorem OthersInStep.inStep {transport : Transport} {slot : Slot}
    (inStep : OthersInStep transport slot)
    (agrees : ∀ number, (transport.txSessions slot).number = some number ->
      Agrees transport (transport.txSessions slot) number) :
    InStep transport := by
  refine ⟨inStep.ledger, fun other number isNumber => ?_⟩
  by_cases same : other = slot
  · rw [same] at isNumber ⊢
    exact agrees number isNumber
  · exact inStep.agrees other number same isNumber

theorem OthersInStep.txDone {transport : Transport} {slot : Slot}
    (inStep : OthersInStep transport slot)
    (carried : ∀ number, (transport.txSessions slot).number = some number ->
      Carried transport.confirmed number (transport.txSessions slot).payload) :
    InStep (transport.txDone slot) := by
  have ending : Ending transport (transport.txDone slot) := by
    apply ending_txDone
    intro isCalled _
    cases isNumber : (transport.txSessions slot).number with
    | none =>
      rw [inStep.ledger.free slot isNumber] at isCalled
      cases isCalled
    | some number => exact ⟨number, rfl, carried number isNumber⟩
  apply (ending.othersInStep inStep).inStep
  intro number isNumber
  rw [txSessions_txDone, if_pos rfl] at isNumber
  cases isNumber

section Completion

variable
  {transport : Transport}
  {frame : QueuedFrame}
  {status : Nat}
  {number : Nat}

theorem InStep.first_confirmed (inStep : InStep transport) (isFrame : frame ∈ transport.queued)
    (isSuccess : isTransmissionSuccessful status = true)
    (isNumber : (transport.txSessions frame.slot).number = some number)
    (isState : (transport.txSessions frame.slot).state = .encMsg)
    (awaited : Awaited transport frame (transport.txSessions frame.slot) number) :
    ∃ first,
      (transport.txSessions frame.slot).payload = first ++ (transport.txSessions frame.slot).data ∧
      FramesAre transport number (fun part => part = .nonceGet ∨ part = .first first) ∧
      (number, .first first) ∈ (transport.unqueue frame status).confirmed := by
  have agrees := inStep.agrees frame.slot number isNumber
  unfold Agrees at agrees
  unfold Awaited at awaited
  rw [isState] at agrees awaited
  obtain ⟨first, isPayload, frames, -⟩ := agrees
  obtain ⟨isOwn, data, isFirst⟩ := awaited
  refine ⟨first, isPayload, frames, ?_⟩
  have isConfirmed := @mem_confirmed_unqueue transport frame status isSuccess number isOwn
  rcases frames frame isFrame isOwn with isNonceGet | isExpected
  · rw [isFirst] at isNonceGet
    cases isNonceGet
  · rw [isExpected] at isConfirmed
    exact isConfirmed

theorem InStep.both_confirmed (inStep : InStep transport) (isFrame : frame ∈ transport.queued)
    (isSuccess : isTransmissionSuccessful status = true)
    (isNumber : (transport.txSessions frame.slot).number = some number)
    (isState : (transport.txSessions frame.slot).state = .encMsg2)
    (awaited : Awaited transport frame (transport.txSessions frame.slot) number) :
    Carried (transport.unqueue frame status).confirmed number
      (transport.txSessions frame.slot).payload := by
  have agrees := inStep.agrees frame.slot number isNumber
  unfold Agrees at agrees
  unfold Awaited at awaited
  rw [isState] at agrees awaited
  obtain ⟨-, first, second, isPayload, frames, underWay⟩ := agrees
  obtain ⟨isOwn, ⟨data, isSecond⟩, notOutstanding⟩ := awaited
  have firstConfirmed := underWay.resolve_right (notOutstanding first)
  have isConfirmed := @mem_confirmed_unqueue transport frame status isSuccess number isOwn
  refine .inr ⟨first, second, confirmed_unqueue transport frame status firstConfirmed, ?_,
    isPayload⟩
  rcases frames frame isFrame isOwn with isNonceGet | isFirst | isExpected
  · rw [isSecond] at isNonceGet
    cases isNonceGet
  · rw [isSecond] at isFirst
    cases isFirst
  · rw [isExpected] at isConfirmed
    exact isConfirmed

end Completion

/-- The frame that was waited for was sent. -/
theorem InStep.callback {transport : Transport} (inStep : InStep transport) {frame : QueuedFrame}
    (isFrame : frame ∈ transport.queued) {status : Nat}
    (isSuccess : isTransmissionSuccessful status = true)
    (awaited : ∀ number, (transport.txSessions frame.slot).number = some number ->
      Awaited transport frame (transport.txSessions frame.slot) number)
    (txInfo : Option TxInfo) :
    InStep ((transport.unqueue frame status).callback status txInfo frame.slot) := by
  have others := inStep.unqueue isFrame status
  have agrees := inStep.agrees frame.slot
  have frames := fun number =>
    @InStep.framesAre_unqueue transport inStep frame isFrame status number
  have firstConfirmed := fun number => @InStep.first_confirmed transport frame status number inStep
    isFrame isSuccess
  have bothConfirmed := fun number => @InStep.both_confirmed transport frame status number inStep
    isFrame isSuccess
  have more := fun entry => @confirmed_unqueue transport frame status entry
  have isSession : (transport.unqueue frame status).txSessions frame.slot =
      transport.txSessions frame.slot := rfl
  unfold Transport.callback
  rw [if_pos isSuccess, txSessions_modifySession, if_pos rfl, isSession]
  generalize transport.unqueue frame status = reached
    at others frames firstConfirmed bothConfirmed more isSession ⊢
  generalize isNoted : (reached.modifySession frame.slot fun session =>
    { session with
      txCode := status
      txExtStatus := txInfo.or session.txExtStatus }) = noted
  have othersNoted : OthersInStep noted frame.slot := by
    rw [← isNoted]
    exact others.modifySession fun _ => ⟨rfl, rfl⟩
  have sessionNoted : noted.txSessions frame.slot = { transport.txSessions frame.slot with
      txCode := status
      txExtStatus := txInfo.or (transport.txSessions frame.slot).txExtStatus } := by
    rw [← isNoted, txSessions_modifySession, if_pos rfl, isSession]
  have recordNoted : noted.queued = reached.queued ∧ noted.confirmed = reached.confirmed := by
    rw [← isNoted]
    exact ⟨rfl, rfl⟩
  have framesNoted : ∀ {number : Nat} {allowed : Part -> Prop},
      FramesAre transport number allowed -> FramesAre noted number allowed := by
    intro number allowed earlier
    unfold FramesAre
    rw [recordNoted.1]
    exact frames number earlier
  split
  next isState =>
    unfold encMsgSent
    rw [sessionNoted]
    split
    next moreData =>
      refine OthersInStep.inStep (othersNoted.modifySession ?_) fun number isNumber => ?_
      · exact fun _ => ⟨rfl, rfl⟩
      rw [txSessions_modifySession, if_pos rfl, sessionNoted] at isNumber ⊢
      obtain ⟨first, isPayload, earlier, isConfirmed⟩ :=
        firstConfirmed number isNumber isState (awaited number isNumber)
      exact ⟨first, isPayload, framesNoted earlier, recordNoted.2 ▸ isConfirmed⟩
    next noData =>
      apply othersNoted.txDone
      intro number isNumber
      rw [sessionNoted] at isNumber ⊢
      obtain ⟨first, isPayload, -, isConfirmed⟩ :=
        firstConfirmed number isNumber isState (awaited number isNumber)
      rw [not_not.mp noData, List.append_nil] at isPayload
      left
      rw [recordNoted.2]
      rw [isPayload]
      exact isConfirmed
  next isState =>
    unfold encMsg2Sent
    split
    · exact othersNoted.txFail
    · apply othersNoted.txDone
      intro number isNumber
      rw [sessionNoted] at isNumber ⊢
      rw [recordNoted.2]
      exact bothConfirmed number isNumber isState (awaited number isNumber)
  next isState =>
    refine OthersInStep.inStep (othersNoted.modifySession ?_) fun number isNumber => ?_
    · exact fun _ => ⟨rfl, rfl⟩
    rw [txSessions_modifySession, if_pos rfl, sessionNoted] at isNumber ⊢
    have agreesThen := agrees number isNumber
    unfold Agrees at agreesThen
    rw [isState] at agreesThen
    exact ⟨agreesThen.1, framesNoted agreesThen.2⟩
  next notEncMsg notEncMsg2 notNonceGet =>
    apply othersNoted.inStep
    intro number isNumber
    rw [sessionNoted] at isNumber ⊢
    have agreesThen := agrees number isNumber
    unfold Agrees at agreesThen ⊢
    dsimp only at notEncMsg notEncMsg2 notNonceGet ⊢
    cases isState : (transport.txSessions frame.slot).state with
    | nonceGet => exact absurd isState notNonceGet
    | nonceGetSent =>
      rw [isState] at agreesThen
      exact ⟨agreesThen.1, framesNoted agreesThen.2⟩
    | encMsg => exact absurd isState notEncMsg
    | encMsgSent =>
      rw [isState] at agreesThen
      obtain ⟨first, isPayload, earlier, isConfirmed⟩ := agreesThen
      exact ⟨first, isPayload, framesNoted earlier, recordNoted.2 ▸ more _ isConfirmed⟩
    | encMsg2 => exact absurd isState notEncMsg2
    | encMsg2Sent | txDone =>
      rw [isState] at agreesThen
      exact agreesThen

/-! ## Actions -/

theorem InStep.registerNonce (inStep : InStep transport) (src dst : NodeId) (nonce : Nonce)
    (isAfter : transport.registerNonce aes src dst nonce answers = some after) : InStep after := by
  unfold Transport.registerNonce at isAfter
  split at isAfter
  · cases isAfter
    exact inStep
  · split at isAfter
    next =>
      cases isAfter
      exact inStep
    next slot found =>
      dsimp only at isAfter
      generalize isNoted : { transport with
        nonceTable := transport.nonceTable.registerNonce src dst false nonce }.blockNonce src dst
          nonce = noted at isAfter
      have inStepThen : InStep noted := by
        have same : Ending transport noted := by
          rw [← isNoted]
          exact { Ending.refl _ with }
        exact same.inStep inStep
      have agrees := inStepThen.agrees slot
      unfold Agrees at agrees
      split at isAfter
      next isState =>
        rw [isState] at agrees
        exact inStepThen.sendEncrypted aes agrees isAfter
      next isState =>
        rw [isState] at agrees
        exact inStepThen.sendEncrypted aes agrees isAfter
      next isState =>
        rw [isState] at agrees
        apply inStepThen.sendEncrypted aes _ isAfter
        intro number isNumber
        obtain ⟨first, isPayload, frames, isConfirmed⟩ := agrees number isNumber
        exact ⟨first, isPayload, frames, .inl isConfirmed⟩
      next isState =>
        rw [isState] at agrees
        split at isAfter
        · apply inStepThen.sendEncrypted aes _ isAfter
          intro number isNumber
          obtain ⟨first, isPayload, frames, outstanding⟩ := agrees number isNumber
          exact ⟨first, isPayload, frames, .inr outstanding⟩
        · cases isAfter
          exact inStepThen
      next =>
        cases isAfter
        exact inStepThen

/-- A frame that is sent is the one that its session waits for, and the length of a payload
fits in eight bits. -/
def InOrder (transport : Transport) : Action -> Prop
  | .sendData request _ =>
      ∀ slot, transport.takenSlot request = some slot -> request.data.length < 2 ^ 8
  | .frameCompletes id status _ =>
      isTransmissionSuccessful status = true -> ∀ frame ∈ transport.queued, frame.id = id ->
        ∀ number, (transport.txSessions frame.slot).number = some number ->
          Awaited transport frame (transport.txSessions frame.slot) number
  | _ => True

theorem InStep.frameCompletes (inStep : InStep transport) {id : Nat} {txInfo : Option TxInfo}
    (inOrder : InOrder transport (.frameCompletes id status txInfo)) :
    InStep (transport.frameCompletes id status txInfo) := by
  cases isSuccess : isTransmissionSuccessful status with
  | false => exact (inStep.ledger.ending_frameCompletes id isSuccess txInfo).inStep inStep
  | true =>
    rcases frameCompletes_cases transport id status txInfo with
      same | ⟨frame, isFrame, isId, completed, isCompleted, isAfter⟩
    · rw [same]
      exact inStep
    · have inStepThen : InStep completed := by
        rw [isCompleted]
        exact inStep.callback isFrame isSuccess (inOrder isSuccess frame isFrame isId) txInfo
      rw [isAfter]
      apply Ending.inStep _ inStepThen
      exact { Ending.refl _ with }

/-- A session in a slot has nothing to do with the frames that are queued. -/
theorem InStep.openSession (inStep : InStep transport) (slot : Slot)
    (short : request.data.length < 2 ^ 8) :
    OthersInStep (transport.openSession slot request) slot ∧
      ∀ number, ((transport.openSession slot request).txSessions slot).number = some number ->
        Ready (transport.openSession slot request)
          ((transport.openSession slot request).txSessions slot) number .nonceGet := by
  obtain ⟨ledger, agrees⟩ := inStep
  have others := fun {other} different =>
    @txSessions_openSession_of_ne transport slot other different
  have isNew := number_openSession transport slot request
  obtain ⟨numbered, apart⟩ := openSession_numbers ledger.numbered ledger.apart
  have freshFrame : ∀ frame ∈ transport.queued, frame.session ≠ some transport.accepted :=
    fun frame isQueued isOwn => Nat.lt_irrefl _ (ledger.framesNumbered frame isQueued _ isOwn)
  refine ⟨⟨⟨ledger.ids, ledger.bounded, numbered, ?_, apart, ?_, ?_, ledger.carried⟩, ?_⟩, ?_⟩
  · intro frame isQueued number isOwn
    exact Nat.lt_succ_of_lt (ledger.framesNumbered frame isQueued number isOwn)
  · intro frame isQueued other number isOwn isNumber
    rcases openSession_cases isNumber with ⟨-, isAccepted⟩ | ⟨-, isOld⟩
    · exact absurd (isAccepted ▸ isOwn) (freshFrame frame isQueued)
    · exact ledger.ownSlot frame isQueued other number isOwn isOld
  · intro other noNumber
    by_cases same : other = slot
    · rw [same, isNew] at noNumber
      cases noNumber
    · rw [others same] at noNumber ⊢
      exact ledger.free other noNumber
  · intro other number different isNumber
    rw [others different] at isNumber
    apply Keeps.agrees _ (agrees other number isNumber)
    refine ⟨?_, fun _ isQueued _ => isQueued, fun _ isQueued _ => isQueued,
      fun _ isEntry => isEntry⟩
    rw [others different]
    exact .refl _
  · intro number isNumber
    rw [isNew] at isNumber
    have isSession : ((transport.openSession slot request).txSessions slot).state = .nonceGet ∧
        ((transport.openSession slot request).txSessions slot).data = keptData request.data ∧
          ((transport.openSession slot request).txSessions slot).payload = request.data := by
      unfold Transport.openSession
      rw [txSessions_modifySession, if_pos rfl]
      exact ⟨rfl, rfl, rfl⟩
    have whole : keptData request.data = request.data := by
      unfold keptData
      rw [Nat.mod_eq_of_lt short, List.take_length]
    refine ⟨isSession.1, ?_, ?_⟩
    · rw [isSession.2.1, isSession.2.2, whole]
    · intro frame isQueued isOwn
      rw [← Option.some.inj isNumber] at isOwn
      exact absurd isOwn (freshFrame frame isQueued)

theorem InStep.sendData (inStep : InStep transport)
    (inOrder : InOrder transport (.sendData request answers)) :
    InStep (transport.sendData request answers) := by
  rcases sendData_cases transport request answers with same | ⟨slot, isTaken, -, isAfter⟩
  · rw [same]
    exact inStep
  · obtain ⟨others, ready⟩ := inStep.openSession slot (inOrder slot isTaken)
    rw [isAfter]
    exact others.sendFrame ready _ answers

theorem Ledger.ending_sendNonce (ledger : Ledger transport)
    (isAfter : transport.sendNonce localNodeId remoteNodeId answers = some after) :
    Ending transport after := by
  have ending := ledger.ending_evictFrames answers.evicted
  unfold sendNonce at isAfter
  split at isAfter
  · cases isAfter
  · split at isAfter
    · cases isAfter
      apply ending.trans
      exact { Ending.refl _ with }
    · cases isAfter
      exact ending

theorem InStep.applicationCommandHandler (inStep : InStep transport) {encapsulation : Encapsulation}
    {frame : List UInt8}
    (isAfter : transport.applicationCommandHandler aes localNodeId remoteNodeId encapsulation
      frame answers = some after) :
    InStep after := by
  rcases applicationCommandHandler_cases isAfter with
    same | isSent | isRegistered | ⟨table, sessions, delivered, isState⟩
  · rw [same]
    exact inStep
  · exact (inStep.ledger.ending_sendNonce isSent).inStep inStep
  · exact inStep.registerNonce aes _ _ _ isRegistered
  · rw [isState]
    apply Ending.inStep _ inStep
    exact { Ending.refl _ with }

theorem ending_onAbortSendData (transport : Transport) (sessionId : TxSessionId) :
    Ending transport (transport.onAbortSendData sessionId).2 := by
  unfold onAbortSendData
  split
  · exact .refl transport
  next slot found => exact @ending_callback transport transmitCompleteFail rfl _ slot

theorem ending_abortAllTxSessions (transport : Transport) :
    Ending transport transport.abortAllTxSessions := by
  unfold abortAllTxSessions
  generalize slots = remaining
  induction remaining generalizing transport with
  | nil => exact .refl transport
  | cons slot rest ih =>
    rw [List.foldl_cons]
    split
    · exact (ending_txFail transport slot).trans (ih _)
    · exact ih transport

theorem ending_networkInit (transport : Transport) (networkKey : Option Block) :
    Ending transport (transport.networkInit aes networkKey) := by
  have aborted := ending_abortAllTxSessions transport
  unfold networkInit
  generalize transport.abortAllTxSessions = reached at aborted ⊢
  have cleared : ∀ after : Transport, after.txSessions = (fun _ => .zero) ->
      after.queued = reached.queued -> after.confirmed = reached.confirmed ->
        after.accepted = reached.accepted -> after.frames = reached.frames ->
          after.outcomes = reached.outcomes -> Ending reached after := by
    intro after isZero queued confirmed accepted frames outcomes
    refine ⟨fun slot => .inl ?_, ?_, confirmed, accepted, frames, ?_⟩
    · rw [isZero]
      exact ⟨rfl, rfl⟩
    · exact fun frame isQueued => queued ▸ isQueued
    · exact fun outcome isOutcome => .inl (outcomes ▸ isOutcome)
  split <;> exact aborted.trans (cleared _ rfl rfl rfl rfl rfl rfl)

/-- Every step in order keeps the confirmations with their frames. -/
theorem InStep.step (inStep : InStep transport) {action : Action}
    (inOrder : InOrder transport action) : InStep (transport.step aes action) := by
  cases action with
  | sendData request answers => exact inStep.sendData inOrder
  | frameCompletes id status txInfo => exact inStep.frameCompletes inOrder
  | timerExpires slot =>
    unfold Transport.step
    dsimp only
    split
    · apply Ending.inStep (ending_txFail _ slot)
      apply Ending.inStep (ending_modifySession _ slot ?_) inStep
      exact fun _ => ⟨rfl, rfl, rfl, rfl, rfl⟩
    · exact inStep
  | abortSendData sessionId => exact (ending_onAbortSendData transport sessionId).inStep inStep
  | frameReceived localNodeId remoteNodeId encapsulation frame answers =>
    unfold Transport.step
    dsimp only
    cases isAfter : transport.applicationCommandHandler aes localNodeId remoteNodeId encapsulation
        frame answers with
    | none => exact inStep
    | some after => exact inStep.applicationCommandHandler aes isAfter
  | nonceTimerExpires =>
    unfold Transport.step
    dsimp only
    split
    · apply Ending.inStep _ inStep
      exact { Ending.refl _ with }
    · exact inStep
  | networkInit networkKey => exact (ending_networkInit aes transport networkKey).inStep inStep
  | setKey | clockTick =>
    apply Ending.inStep _ inStep
    exact { Ending.refl _ with }

theorem inStep_initial : InStep initial := by
  refine ⟨⟨nofun, nofun, ?_, nofun, ?_, nofun, fun _ _ => rfl, nofun⟩, ?_⟩
  · exact fun slot number isNumber => nomatch isNumber
  · exact fun first second number isNumber => nomatch isNumber
  · exact fun slot number isNumber => nomatch isNumber

/-- In every run whose completions are in order a session reports success only when its
encrypted frames were sent and carry the whole payload. -/
theorem successes_carried_in_order {actions : List Action}
    (inOrder : StepsMeet (step aes) InOrder initial actions) :
    ∀ done, done <+: actions -> SuccessesCarried (run (step aes) initial done) := by
  intro done before
  have inStep := (inOrder.of_isPrefix before).invariant InStep
    (fun _ _ inStep inOrder => inStep.step aes inOrder) inStep_initial
  exact inStep.ledger.carried

/-- A request with a callback from node 1 to node 2. -/
def sendToNode2 : Action := .sendData ⟨.security0, false, 1, 2, [0x25, 0x01], true, 9⟩ (drawing [])

/-- A Nonce Report from node 2 to node 1. -/
def nonceReport : Action :=
  .frameReceived 1 2 .none (commandClassSecurity :: securityNonceReport :: .replicate 8 5)
    (drawing [6])

/-- The frames of a session complete before they are answered. -/
def answeredInOrder : List Action :=
  [sendToNode2, .frameCompletes 0 transmitCompleteOk none, nonceReport,
    .frameCompletes 1 transmitCompleteOk none]

theorem successes_carried_answeredInOrder :
    (run (step plainCipher) initial answeredInOrder).outcomes.map (·.status) =
        [transmitCompleteOk] ∧
      ∀ done, done <+: answeredInOrder ->
        SuccessesCarried (run (step plainCipher) initial done) := by
  have inOrder : StepsMeet (step plainCipher) InOrder initial answeredInOrder := by
    refine ⟨?_, ?_, trivial, ?_, trivial⟩
    · exact fun slot _ => by decide
    · have isQueue : (step plainCipher initial sendToNode2).queued =
          [⟨0, 0, some 0, .nonceGet⟩] := by
        decide +kernel
      intro _ frame isFrame _ number _
      cases List.mem_singleton.mp isFrame
      trivial
    · generalize isReached : step plainCipher (step plainCipher (step plainCipher initial
        sendToNode2) (.frameCompletes 0 transmitCompleteOk none)) nonceReport = reached
      have isQueue : reached.queued = [⟨1, 0, some 0, .first [0x25, 0x01]⟩] := by
        rw [← isReached]
        decide +kernel
      have isSession : (reached.txSessions 0).state = .encMsg ∧
          (reached.txSessions 0).number = some 0 := by
        rw [← isReached]
        decide +kernel
      intro _ frame isFrame _ number isNumber
      rw [isQueue] at isFrame
      cases List.mem_singleton.mp isFrame
      rw [isSession.2] at isNumber
      unfold Awaited
      rw [isSession.1]
      exact ⟨isNumber, _, rfl⟩
  exact ⟨by decide +kernel, successes_carried_in_order plainCipher inOrder⟩

/-- The Nonce Report overtakes the completion of the Nonce Get that it answers. -/
def overtaken : List Action := [sendToNode2, nonceReport, .frameCompletes 0 transmitCompleteOk none]

/-- The session reports success when only its Nonce Get was sent. -/
theorem not_successesCarried_overtaken :
    ¬ SuccessesCarried (run (step plainCipher) initial overtaken) := by
  intro carried
  have confirmed : (run (step plainCipher) initial overtaken).confirmed = [(0, .nonceGet)] := by
    decide +kernel
  unfold SuccessesCarried at carried
  rw [confirmed] at carried
  obtain ⟨number, -, isCarried⟩ := carried _ List.mem_cons_self rfl
  unfold Carried at isCarried
  simp at isCarried

end Transport

end S0
