import Zpc.S0.Bootstrapping

/-!
# Waiting in the bootstrapping machine

A bootstrapping that waits for the other node is ended by its timer, and the timer is armed
by the completion of the frame that was sent.  A state other than idle therefore needs the
timer or an outstanding completion.  Two things take both away: a completion that is
neither a success nor a failure, and a Network Key Verify, which stops the timer in every
state.
-/

namespace S0
namespace Bootstrapping

open Foundation

namespace Machine

/-- A bootstrapping under way has its timer armed or a completion outstanding. -/
def Watched (machine : Machine) : Prop :=
  machine.bootstrapState ≠ .incIdle -> machine.bootstrapTimer = true ∨ 0 < machine.outstanding

/-- No Network Key Verify of the node stops the timer where it is not awaited, and no
completion is ignored, unless something else is left to wait for. -/
def KeepsWatch (machine : Machine) : Action -> Prop
  | .networkKeyVerify nodeId _ _ =>
      nodeId = machine.remoteNodeId -> machine.bootstrapState ≠ .incIdle ->
        machine.bootstrapState ≠ .awaitingKeyVerify -> 0 < machine.outstanding
  | .sendCompletes status _ =>
      status ≠ transmitCompleteOk -> status ≠ transmitCompleteFail ->
        machine.bootstrapState ≠ .incIdle -> machine.bootstrapTimer = true ∨ machine.outstanding ≠ 1
  | _ => True

/-- Between two events the machine is idle or awaits a frame. -/
def Rests (machine : Machine) : Prop :=
  machine.bootstrapState = .incIdle ∨ machine.bootstrapState.awaits = true

/-- A machine that was not aborted has a completion outstanding. -/
def HasSent (machine : Machine) : Prop :=
  machine.bootstrapState = .incIdle ∨ 0 < machine.outstanding

variable {machine : Machine}

theorem HasSent.watched (hasSent : machine.HasSent) : machine.Watched :=
  fun notIdle => .inr (hasSent.resolve_left notIdle)

theorem GoesOn.rests {before after : Machine} (goesOn : before.GoesOn after)
    (rests : before.Rests) :
    after.Rests := by
  rcases goesOn with ⟨sameState, -⟩ | idle
  · unfold Rests
    rw [sameState]
    exact rests
  · exact .inl idle

section Sending

variable {raise : Event -> Machine -> Machine} (aborts : Aborts raise) {answers : Answers}
include aborts

variable {machine : Machine}

theorem HasSent.abortUnless (hasSent : machine.HasSent) (sent : Bool) :
    (abortUnless raise sent machine).HasSent := by
  unfold Machine.abortUnless
  split
  · exact hasSent
  · rw [aborts machine]
    split
    · exact .inl rfl
    · exact hasSent

theorem hasSent_abortUnless_genericSend (awaits : machine.bootstrapState.awaits = true)
    (frame : SentFrame) :
    (abortUnless raise answers.accepted (genericSend raise answers machine frame)).HasSent := by
  cases accepted : answers.accepted with
  | true =>
    unfold genericSend
    rw [if_pos accepted]
    exact .inr (Nat.succ_pos _)
  | false => exact .inl (abortUnless_idle aborts (.genericSend aborts machine frame) awaits)

theorem hasSent_performSendKeySet (awaits : machine.bootstrapState.awaits = true) :
    (perform raise answers machine .sendKeySet).HasSent := by
  apply HasSent.abortUnless aborts
  unfold sendKeySet
  cases answers.firstRead with
  | true => exact hasSent_abortUnless_genericSend aborts awaits .keySet
  | false => exact .inl (abortUnless_idle aborts (.refl machine) awaits)

theorem GoesOn.performSendKeySet (machine : Machine) :
    machine.GoesOn (perform raise answers machine .sendKeySet) := by
  have sent : machine.GoesOn (sendKeySet raise answers machine) := by
    unfold sendKeySet
    split
    · exact .genericSend aborts machine .keySet
    · exact .refl machine
  exact (sent.trans (.abortUnless aborts _ _)).trans (.abortUnless aborts _ _)

theorem GoesOn.performSend (machine : Machine) (frame : SentFrame) :
    machine.GoesOn
      (Machine.abortUnless raise answers.accepted
        (Machine.genericSend raise answers machine frame)) :=
  (GoesOn.genericSend aborts machine frame).trans (.abortUnless aborts _ _)

end Sending

theorem watched_sendSchemeGet (idle : machine.bootstrapState = .incIdle) (answers : Answers) :
    let after := processEvent answers .bootstrappingStart machine
    after.Rests ∧ after.HasSent := by
  have aborts := aborts_processEventTo answers 1
  have event : processEvent answers .bootstrappingStart machine = _ :=
    processEventTo_bootstrappingStart answers 2 idle
  dsimp only
  rw [event]
  have awaits : { machine with bootstrapState := .awaitingSchemeReport }.Rests := .inr rfl
  refine ⟨(GoesOn.performSend aborts _ .schemeGet).rests awaits, ?_⟩
  exact hasSent_abortUnless_genericSend aborts rfl .schemeGet

theorem watched_bootstrappingStart (rests : machine.Rests) (watched : machine.Watched)
    (nodeId : NodeId) (isController : Bool) (answers : Answers) :
    (machine.bootstrappingStart nodeId isController answers).Rests ∧
      (machine.bootstrappingStart nodeId isController answers).Watched := by
  unfold bootstrappingStart
  split
  next idle =>
    have sent := @watched_sendSchemeGet
      ({ machine.reset with remoteNodeId := nodeId }.note (.started nodeId isController)) rfl
      answers
    dsimp only at sent ⊢
    generalize processEvent answers .bootstrappingStart
      ({ machine.reset with remoteNodeId := nodeId }.note (.started nodeId isController)) =
        after at sent ⊢
    exact ⟨sent.1, sent.2.watched⟩
  next => exact ⟨rests, watched⟩

theorem watched_sendKeySet (handles : machine.bootstrapState = .handleSchemeReport)
    (answers : Answers) : let after := processEventTo answers 2 .sendKeySet machine
    (after.bootstrapState = .awaitingKeyVerify ∨ after.bootstrapState = .incIdle) ∧
      after.HasSent := by
  have aborts := aborts_processEventTo answers 0
  rw [processEventTo_sendKeySet answers 1 handles]
  refine ⟨?_, hasSent_performSendKeySet aborts rfl⟩
  rcases GoesOn.performSendKeySet aborts
    { machine with bootstrapState := .awaitingKeyVerify } with ⟨sameState, -⟩ | idle
  · exact .inl sameState
  · exact .inr idle

theorem processEvent_firstSchemeReport (awaits : machine.bootstrapState = .awaitingSchemeReport)
    (answers : Answers) :
    processEvent answers .schemeReportReceived machine =
      processEventTo answers 2 .sendKeySet
        { machine with bootstrapState := .handleSchemeReport } := by
  apply processEventTo_firstSchemeReport answers 2 awaits
  rcases (@watched_sendKeySet { machine with bootstrapState := .handleSchemeReport } rfl
    answers).1 with isVerify | isIdle
  · rw [isVerify]
    nofun
  · rw [isIdle]
    nofun

theorem watched_schemeReportReceived (rests : machine.Rests) (watched : machine.Watched)
    (fromNode : NodeId) (answers : Answers) :
    (machine.schemeReportReceived fromNode answers).Rests ∧
      (machine.schemeReportReceived fromNode answers).Watched := by
  unfold schemeReportReceived
  split
  next expected =>
    rcases expected.2 with isFirst | isSecond
    · rw [@processEvent_firstSchemeReport { machine with bootstrapTimer := false } isFirst]
      obtain ⟨state, hasSent⟩ := @watched_sendKeySet
        { machine with bootstrapTimer := false, bootstrapState := .handleSchemeReport } rfl answers
      refine ⟨?_, hasSent.watched⟩
      rcases state with isVerify | isIdle
      · exact .inr (by rw [isVerify]; rfl)
      · exact .inl isIdle
    · have ended : (processEvent answers .schemeReportReceived
          { machine with bootstrapTimer := false }).bootstrapState = .incIdle := by
        unfold processEvent
        rw [@processEventTo_secondSchemeReport answers 2 { machine with bootstrapTimer := false }
          isSecond]
        unfold perform complete
        dsimp only
        split
        · split <;> rfl
        · rfl
      exact ⟨.inl ended, fun notIdle => absurd ended notIdle⟩
  next => exact ⟨rests, watched⟩

theorem watched_handleNetKeyVerify (handles : machine.bootstrapState = .handleNetKeyVerify)
    (answers : Answers) : let after := handleNetKeyVerify (processEventTo answers 2) machine
    after.Rests ∧ after.Watched := by
  have aborts := aborts_processEventTo answers 0
  unfold handleNetKeyVerify
  split
  · rw [processEventTo_sendSchemeInherit answers 1 handles]
    refine ⟨(GoesOn.performSend aborts _ .schemeInherit).rests (.inr rfl), ?_⟩
    exact (hasSent_abortUnless_genericSend aborts rfl .schemeInherit).watched
  · have stillHandles : (machine.complete true).bootstrapState = .handleNetKeyVerify := by
      unfold complete
      split <;> exact handles
    rw [processEventTo_wasNotController answers 1 stillHandles]
    exact ⟨.inl rfl, fun notIdle => absurd rfl notIdle⟩

theorem watched_networkKeyVerifyReceived_iff (rests : machine.Rests) (watched : machine.Watched)
    (nodeId : NodeId) (encapsulation : Encapsulation) (answers : Answers) :
    (machine.step (.networkKeyVerify nodeId encapsulation answers)).Rests ∧
      ((machine.step (.networkKeyVerify nodeId encapsulation answers)).Watched ↔
        machine.KeepsWatch (.networkKeyVerify nodeId encapsulation answers)) := by
  unfold step networkKeyVerifyReceived processEvent
  dsimp only
  split
  next isRemote =>
    rw [processEventTo_netKeyVerifyReceived]
    split
    next awaited =>
      have after := @watched_handleNetKeyVerify
        { machine.note (.received nodeId .networkKeyVerify encapsulation) with
          bootstrapTimer := false
          bootstrapState := .handleNetKeyVerify } rfl answers
      exact ⟨after.1, iff_of_true after.2 fun _ _ notAwaited => absurd awaited notAwaited⟩
    next notAwaited =>
      refine ⟨rests, fun watchedAfter _ notIdle _ => ?_, fun keeps notIdle => ?_⟩
      · exact (watchedAfter notIdle).resolve_left Bool.false_ne_true
      · exact .inr (keeps isRemote notIdle notAwaited)
  next notRemote => exact ⟨rests, iff_of_true watched fun isRemote => absurd isRemote notRemote⟩

theorem watched_sendCompletes_iff (rests : machine.Rests) (watched : machine.Watched) (status : Nat)
    (answers : Answers) :
    (machine.step (.sendCompletes status answers)).Rests ∧
      ((machine.step (.sendCompletes status answers)).Watched ↔
        machine.KeepsWatch (.sendCompletes status answers)) := by
  unfold step sendDataCallback processEvent
  dsimp only
  split
  next nothing =>
    refine ⟨rests, iff_of_true watched fun _ _ _ => .inr ?_⟩
    rw [nothing]
    exact Nat.zero_ne_one
  next outstanding =>
    split
    next isOk => exact ⟨rests, iff_of_true (fun _ => .inl rfl) fun notOk => absurd isOk notOk⟩
    next notOk =>
      split
      next isFail =>
        rw [processEventTo_bootstrapAbort]
        have keeps : machine.KeepsWatch (.sendCompletes status answers) :=
          fun _ notFail => absurd isFail notFail
        split
        next => exact ⟨.inl rfl, iff_of_true (fun notIdle => absurd rfl notIdle) keeps⟩
        next notAwaits =>
          have idle : machine.bootstrapState = .incIdle := rests.resolve_right notAwaits
          exact ⟨.inl idle, iff_of_true (fun notIdle => absurd idle notIdle) keeps⟩
      next notFail =>
        refine ⟨rests, fun watchedAfter _ _ notIdle => ?_, fun keeps notIdle => ?_⟩
        · refine (watchedAfter notIdle).imp_right fun positive => ?_
          dsimp only at positive
          omega
        · refine (keeps notOk notFail notIdle).imp_right fun notLast => ?_
          dsimp only
          omega

/-- The bootstrapping stays watched exactly if the step keeps the timer. -/
theorem watched_step_iff (rests : machine.Rests) (watched : machine.Watched) (action : Action) :
    (machine.step action).Rests ∧ ((machine.step action).Watched ↔ machine.KeepsWatch action) := by
  cases action with
  | bootstrappingStart nodeId isController answers =>
    have after := watched_bootstrappingStart rests watched nodeId isController answers
    exact ⟨after.1, iff_of_true after.2 trivial⟩
  | bootstrappingStop => exact ⟨.inl rfl, iff_of_true (fun notIdle => absurd rfl notIdle) trivial⟩
  | schemeReport nodeId encapsulation frameLength answers =>
    unfold step
    dsimp only
    split
    · have after := @watched_schemeReportReceived
        (machine.note (.received nodeId .schemeReport encapsulation)) rests watched nodeId answers
      exact ⟨after.1, iff_of_true after.2 trivial⟩
    · exact ⟨rests, iff_of_true watched trivial⟩
  | networkKeyVerify nodeId encapsulation answers =>
    exact watched_networkKeyVerifyReceived_iff rests watched nodeId encapsulation answers
  | sendCompletes status answers => exact watched_sendCompletes_iff rests watched status answers
  | timerExpires answers =>
    unfold step processEvent
    dsimp only
    split
    · rw [processEventTo_timeout]
      split
      next => exact ⟨.inl rfl, iff_of_true (fun notIdle => absurd rfl notIdle) trivial⟩
      next notAwaits =>
        have idle : machine.bootstrapState = .incIdle := rests.resolve_right notAwaits
        exact ⟨.inl idle, iff_of_true (fun notIdle => absurd idle notIdle) trivial⟩
    · exact ⟨rests, iff_of_true watched trivial⟩
  | setCallback isSet => exact ⟨rests, iff_of_true watched trivial⟩

/-- A bootstrapping under way has its timer armed or a completion outstanding in every state
of a run exactly when every step of the run keeps the watch. -/
theorem watched_throughout_iff (actions : List Action) :
    (∀ done, done <+: actions -> (run step initial done).Watched) ↔
      StepsMeet step KeepsWatch initial actions := by
  apply throughout_iff_of_invariant (fun machine => machine.Rests ∧ machine.Watched) Watched
  · exact fun _ invariant => invariant.2
  · intro machine action invariant keeps
    have after := watched_step_iff invariant.1 invariant.2 action
    exact ⟨after.1, after.2.mpr keeps⟩
  · intro machine action invariant watchedAfter
    exact (watched_step_iff invariant.1 invariant.2 action).2.mp watchedAfter
  · exact ⟨.inl rfl, fun notIdle => absurd rfl notIdle⟩

/-- Every frame is taken, nothing is evicted, and the key is there. -/
def willing : Answers := ⟨0, true, true, true⟩

/-- The Scheme Get of a bootstrapping is not acknowledged. -/
def unacknowledged : List Action :=
  [.bootstrappingStart 5 false willing, .sendCompletes 0x01 willing]

/-- The machine waits for a Scheme Report, and neither a timer nor a completion ends it. -/
theorem not_watched_unacknowledged : ¬ (run step initial unacknowledged).Watched := by
  intro watched
  rcases watched (by decide) with armed | outstanding
  · exact absurd armed (by decide)
  · exact absurd outstanding (by decide)

end Machine

end Bootstrapping

end S0
