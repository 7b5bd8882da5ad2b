import Zpc.S0.BootstrapTimer

/-!
# The outcome of a bootstrapping

A success may be reported only for a node that has shown the network key: its Network Key
Verify came in S0 encapsulation after the key was sent, and for a controller a further
Scheme Report did after the Scheme Inherit.  The transport hands both frames over without
a look at their encapsulation, so this rests on the frames that are accepted.  That an
outcome is reported at most once does not.
-/

namespace S0
namespace Bootstrapping

open Foundation

namespace Occurrence

/-- The start of a bootstrapping. -/
def isStart : Occurrence -> Bool
  | .started _ _ => true
  | _ => false

/-- The outcome of a bootstrapping. -/
def isOutcome : Occurrence -> Bool
  | .outcome _ _ => true
  | _ => false

end Occurrence

/-- What happened since the last start, the newest first. -/
def sinceStart (record : List Occurrence) : List Occurrence :=
  record.takeWhile fun occurrence => !occurrence.isStart

/-- The node of the last start, and whether it is a controller. -/
def lastStart : List Occurrence -> Option (NodeId × Bool)
  | [] => none
  | .started nodeId isController :: _ => some (nodeId, isController)
  | _ :: earlier => lastStart earlier

/-- A frame of the node came in S0 encapsulation after another one was sent. -/
def AnsweredSecurely (nodeId : NodeId) (frame : ReceivedFrame) (after : SentFrame)
    (record : List Occurrence) : Prop :=
  ∃ later earlier, record = later ++ .received nodeId frame .security0 :: earlier ∧
    .sent after ∈ earlier

/-- What has to precede an outcome: a bootstrapping of the node that has no outcome yet and,
for a success, the frames that show the key. -/
def OutcomeSupported (nodeId : NodeId) (success : Bool) (earlier : List Occurrence) : Prop :=
  ∃ isController, lastStart earlier = some (nodeId, isController) ∧
    (∀ occurrence ∈ sinceStart earlier, occurrence.isOutcome = false) ∧
    (success = true ->
      AnsweredSecurely nodeId .networkKeyVerify .keySet (sinceStart earlier) ∧
      (isController = true ->
        AnsweredSecurely nodeId .schemeReport .schemeInherit (sinceStart earlier)))

/-- Every outcome of the record is supported by what was recorded before. -/
def SupportedOutcomes : List Occurrence -> Prop
  | [] => True
  | .outcome nodeId success :: earlier =>
      OutcomeSupported nodeId success earlier ∧ SupportedOutcomes earlier
  | _ :: earlier => SupportedOutcomes earlier

variable {occurrence : Occurrence}

theorem sinceStart_cons (notStart : occurrence.isStart = false) (earlier : List Occurrence) :
    sinceStart (occurrence :: earlier) = occurrence :: sinceStart earlier := by
  unfold sinceStart
  simp [notStart]

theorem lastStart_cons (notStart : occurrence.isStart = false) (earlier : List Occurrence) :
    lastStart (occurrence :: earlier) = lastStart earlier := by
  cases occurrence with
  | started nodeId isController => cases notStart
  | _ => rfl

theorem supportedOutcomes_cons (notOutcome : occurrence.isOutcome = false)
    (earlier : List Occurrence) :
    SupportedOutcomes (occurrence :: earlier) ↔ SupportedOutcomes earlier := by
  cases occurrence with
  | outcome nodeId success => cases notOutcome
  | _ => exact Iff.rfl

theorem AnsweredSecurely.cons {nodeId : NodeId} {frame : ReceivedFrame} {after : SentFrame}
    {record : List Occurrence} (answered : AnsweredSecurely nodeId frame after record)
    (occurrence : Occurrence) : AnsweredSecurely nodeId frame after (occurrence :: record) := by
  obtain ⟨later, earlier, split, sent⟩ := answered
  exact ⟨occurrence :: later, earlier, by rw [split, List.cons_append], sent⟩

namespace Machine

/-- A Network Key Verify or a second Scheme Report that is acted on came in S0
encapsulation. -/
def ActsOnSecureFrames (machine : Machine) : Action -> Prop
  | .networkKeyVerify nodeId encapsulation _ =>
      nodeId = machine.remoteNodeId -> machine.bootstrapState = .awaitingKeyVerify ->
        encapsulation = .security0
  | .schemeReport nodeId encapsulation frameLength _ =>
      schemeReportFrameSize ≤ frameLength -> nodeId = machine.remoteNodeId ->
        machine.bootstrapState = .awaiting2SchemeReport -> encapsulation = .security0
  | _ => True

/-- A bootstrapping under way has been started and has no outcome yet. -/
structure Running (machine : Machine) : Prop where
  supported : SupportedOutcomes machine.record
  started : machine.bootstrapState ≠ .incIdle ->
    ∃ isController, lastStart machine.record = some (machine.remoteNodeId, isController)
  unsettled : machine.bootstrapState ≠ .incIdle ->
    ∀ occurrence ∈ sinceStart machine.record, occurrence.isOutcome = false

/-- What is known of a bootstrapping in the states in which it awaits a frame. -/
structure Documented (machine : Machine) : Prop where
  running : machine.Running
  rests : machine.Rests
  controller : machine.bootstrapState ≠ .incIdle ->
    lastStart machine.record = some (machine.remoteNodeId, machine.isController)
  keySent : machine.bootstrapState = .awaitingKeyVerify -> .sent .keySet ∈ sinceStart machine.record
  verified : machine.bootstrapState = .awaiting2SchemeReport ->
    AnsweredSecurely machine.remoteNodeId .networkKeyVerify .keySet (sinceStart machine.record) ∧
      .sent .schemeInherit ∈ sinceStart machine.record ∧ machine.isController = true

theorem Documented.of_idle {machine : Machine} (running : machine.Running)
    (idle : machine.bootstrapState = .incIdle) : machine.Documented where
  running := running
  rests := .inl idle
  controller notIdle := absurd idle notIdle
  keySent awaits := by
    rw [idle] at awaits
    cases awaits
  verified awaits := by
    rw [idle] at awaits
    cases awaits

theorem Running.note {machine : Machine} (running : machine.Running) {occurrence : Occurrence}
    (notStart : occurrence.isStart = false) (notOutcome : occurrence.isOutcome = false) :
    (machine.note occurrence).Running where
  supported := (supportedOutcomes_cons notOutcome machine.record).mpr running.supported
  started notIdle := by
    unfold Machine.note
    rw [lastStart_cons notStart]
    exact running.started notIdle
  unsettled notIdle := by
    unfold Machine.note
    rw [sinceStart_cons notStart]
    intro other mem
    rcases List.mem_cons.mp mem with isNew | isEarlier
    · rw [isNew]
      exact notOutcome
    · exact running.unsettled notIdle other isEarlier

theorem Documented.note {machine : Machine} (documented : machine.Documented)
    {occurrence : Occurrence} (notStart : occurrence.isStart = false)
    (notOutcome : occurrence.isOutcome = false) : (machine.note occurrence).Documented where
  running := documented.running.note notStart notOutcome
  rests := documented.rests
  controller notIdle := (lastStart_cons notStart machine.record).trans
    (documented.controller notIdle)
  keySent awaits := by
    unfold Machine.note
    rw [sinceStart_cons notStart]
    exact List.mem_cons_of_mem occurrence (documented.keySent awaits)
  verified awaits := by
    obtain ⟨verified, inherited, isController⟩ := documented.verified awaits
    unfold Machine.note
    rw [sinceStart_cons notStart]
    exact ⟨verified.cons occurrence, List.mem_cons_of_mem occurrence inherited, isController⟩

theorem supportedOutcomes_complete {machine : Machine}
    (supported : SupportedOutcomes machine.record) {success : Bool}
    (outcome : OutcomeSupported machine.remoteNodeId success machine.record) :
    SupportedOutcomes (machine.complete success).record := by
  unfold complete
  split
  · exact ⟨outcome, supported⟩
  · exact supported

variable {machine before after : Machine} {fresh : List Occurrence}

theorem Running.supported_failure (running : machine.Running)
    (notIdle : machine.bootstrapState ≠ .incIdle) :
    OutcomeSupported machine.remoteNodeId false machine.record := by
  obtain ⟨isController, isStart⟩ := running.started notIdle
  exact ⟨isController, isStart, running.unsettled notIdle, nofun⟩

theorem documented_of_supportedOutcomes {machine : Machine}
    (supported : SupportedOutcomes machine.record) (idle : machine.bootstrapState = .incIdle) :
    machine.Documented :=
  .of_idle ⟨supported, fun notIdle => absurd idle notIdle, fun notIdle => absurd idle notIdle⟩ idle

theorem bootstrapState_complete (machine : Machine) (success : Bool) :
    (machine.complete success).bootstrapState = machine.bootstrapState := by
  unfold complete
  split <;> rfl

theorem Running.abortBootstrap (running : machine.Running)
    (notIdle : machine.bootstrapState ≠ .incIdle) : machine.abortBootstrap.Running where
  supported := supportedOutcomes_complete running.supported (running.supported_failure notIdle)
  started notIdle := absurd rfl notIdle
  unsettled notIdle := absurd rfl notIdle

/-- A bootstrapping goes on or is aborted, and nothing is started. -/
structure Carries (before after : Machine) : Prop where
  goesOn : before.GoesOn after
  running : before.Running -> after.Running
  record : ∃ fresh, after.record = fresh ++ before.record ∧
    ∀ occurrence ∈ fresh, occurrence.isStart = false

theorem Carries.refl (machine : Machine) : machine.Carries machine :=
  ⟨.refl machine, fun running => running, [], rfl, nofun⟩

theorem Carries.trans {first second third : Machine} (earlier : first.Carries second)
    (later : second.Carries third) : first.Carries third where
  goesOn := earlier.goesOn.trans later.goesOn
  running running := later.running (earlier.running running)
  record := by
    obtain ⟨fresh, isRecord, noStart⟩ := earlier.record
    obtain ⟨fresher, isLater, noLaterStart⟩ := later.record
    refine ⟨fresher ++ fresh, by rw [isLater, isRecord, List.append_assoc], ?_⟩
    intro occurrence mem
    rcases List.mem_append.mp mem with isFresher | isFresh
    · exact noLaterStart occurrence isFresher
    · exact noStart occurrence isFresh

theorem lastStart_append (noStart : ∀ occurrence ∈ fresh, occurrence.isStart = false)
    (earlier : List Occurrence) : lastStart (fresh ++ earlier) = lastStart earlier := by
  induction fresh with
  | nil => rfl
  | cons occurrence rest ih =>
    rw [List.cons_append, lastStart_cons (noStart occurrence List.mem_cons_self)]
    exact ih fun other mem => noStart other (List.mem_cons_of_mem occurrence mem)

theorem sinceStart_append (noStart : ∀ occurrence ∈ fresh, occurrence.isStart = false)
    (earlier : List Occurrence) : sinceStart (fresh ++ earlier) = fresh ++ sinceStart earlier := by
  induction fresh with
  | nil => rfl
  | cons occurrence rest ih =>
    rw [List.cons_append, sinceStart_cons (noStart occurrence List.mem_cons_self)]
    rw [ih fun other mem => noStart other (List.mem_cons_of_mem occurrence mem), List.cons_append]

theorem Carries.lastStart_eq (carries : before.Carries after) :
    lastStart after.record = lastStart before.record := by
  obtain ⟨fresh, isRecord, noStart⟩ := carries.record
  rw [isRecord, lastStart_append noStart]

theorem Carries.sinceStart_subset (carries : before.Carries after) :
    sinceStart before.record ⊆ sinceStart after.record := by
  obtain ⟨fresh, isRecord, noStart⟩ := carries.record
  rw [isRecord, sinceStart_append noStart]
  exact List.subset_append_right fresh _

theorem Carries.answered {before after : Machine} (carries : before.Carries after) {nodeId : NodeId}
    {frame : ReceivedFrame} {sent : SentFrame}
    (answered : AnsweredSecurely nodeId frame sent (sinceStart before.record)) :
    AnsweredSecurely nodeId frame sent (sinceStart after.record) := by
  obtain ⟨fresh, isRecord, noStart⟩ := carries.record
  rw [isRecord, sinceStart_append noStart]
  obtain ⟨later, earlier, split, isSent⟩ := answered
  exact ⟨fresh ++ later, earlier, by rw [split, List.append_assoc], isSent⟩

theorem Carries.abortBootstrap (notIdle : machine.bootstrapState ≠ .incIdle) :
    machine.Carries machine.abortBootstrap where
  goesOn := .inr rfl
  running running := running.abortBootstrap notIdle
  record := by
    unfold Machine.abortBootstrap complete
    split
    · exact ⟨[_], rfl, fun occurrence mem => by rw [List.mem_singleton.mp mem]; rfl⟩
    · exact ⟨[], rfl, nofun⟩

theorem notIdle_of_awaits {state : State} (awaits : state.awaits = true) : state ≠ .incIdle := by
  intro idle
  rw [idle] at awaits
  cases awaits

section Sending

variable {raise : Event -> Machine -> Machine} (aborts : Aborts raise) {answers : Answers}
include aborts

variable (machine : Machine) (frame : SentFrame)

theorem Carries.raiseAbort : machine.Carries (raise .bootstrapAbort machine) := by
  rw [aborts machine]
  split
  next awaits => exact .abortBootstrap (notIdle_of_awaits awaits)
  next => exact .refl machine

theorem Carries.evictFrames (evicted : Nat) (machine : Machine) :
    machine.Carries (evictFrames raise evicted machine) := by
  induction evicted generalizing machine with
  | zero => exact .refl machine
  | succ evicted ih =>
    rw [Machine.evictFrames]
    split
    · exact .refl machine
    · have completed : machine.Carries { machine with outstanding := machine.outstanding - 1 } :=
        ⟨.inl ⟨rfl, rfl, rfl⟩,
          fun running => ⟨running.supported, running.started, running.unsettled⟩, [], rfl,
          List.forall_mem_nil _⟩
      exact (completed.trans (.raiseAbort aborts _)).trans (ih _)

theorem Carries.genericSend : machine.Carries (genericSend raise answers machine frame) := by
  have evicted := Carries.evictFrames aborts answers.evicted machine
  unfold Machine.genericSend
  generalize Machine.evictFrames raise answers.evicted machine = reached at evicted ⊢
  split
  · have counted : reached.Carries { reached with outstanding := reached.outstanding + 1 } :=
      ⟨.inl ⟨rfl, rfl, rfl⟩,
        fun running => ⟨running.supported, running.started, running.unsettled⟩, [], rfl, nofun⟩
    refine (evicted.trans counted).trans ⟨.inl ⟨rfl, rfl, rfl⟩, fun running => ?_, [_], rfl, ?_⟩
    · exact running.note rfl rfl
    · intro occurrence mem
      rw [List.mem_singleton.mp mem]
      rfl
  · exact evicted

theorem Carries.abortUnless (sent : Bool) (machine : Machine) :
    machine.Carries (abortUnless raise sent machine) := by
  unfold Machine.abortUnless
  split
  · exact .refl machine
  · exact .raiseAbort aborts machine

omit aborts in
theorem sent_mem_genericSend (accepted : answers.accepted = true) (machine : Machine)
    (frame : SentFrame) :
    .sent frame ∈ sinceStart (genericSend raise answers machine frame).record := by
  unfold genericSend note
  rw [if_pos accepted]
  exact List.mem_cons_self

theorem sent_mem_abortUnless {machine : Machine} (awaits : machine.bootstrapState.awaits = true)
    (frame : SentFrame)
    (goesOn : (abortUnless raise answers.accepted
      (genericSend raise answers machine frame)).bootstrapState ≠ .incIdle) :
    .sent frame ∈ sinceStart (abortUnless raise answers.accepted
      (genericSend raise answers machine frame)).record := by
  cases accepted : answers.accepted with
  | true => exact sent_mem_genericSend accepted machine frame
  | false =>
    rw [accepted] at goesOn
    exact absurd (abortUnless_idle aborts (.genericSend aborts machine frame) awaits) goesOn

theorem Carries.performSend (machine : Machine) (frame : SentFrame) :
    machine.Carries (Machine.abortUnless raise answers.accepted
      (Machine.genericSend raise answers machine frame)) :=
  (Carries.genericSend aborts machine frame).trans (.abortUnless aborts _ _)

theorem Carries.performSendKeySet :
    machine.Carries (perform raise answers machine .sendKeySet) := by
  have sent : machine.Carries (sendKeySet raise answers machine) := by
    unfold sendKeySet
    split
    · exact .genericSend aborts machine .keySet
    · exact .refl machine
  exact (sent.trans (.abortUnless aborts _ _)).trans (.abortUnless aborts _ _)

theorem keySent_performSendKeySet {machine : Machine}
    (awaits : machine.bootstrapState.awaits = true)
    (goesOn : (perform raise answers machine .sendKeySet).bootstrapState ≠ .incIdle) :
    .sent .keySet ∈ sinceStart (perform raise answers machine .sendKeySet).record := by
  have last := Carries.abortUnless aborts answers.secondRead
    (abortUnless raise (answers.firstRead && answers.accepted)
      (sendKeySet raise answers machine))
  apply last.sinceStart_subset
  -- the second read does not bring back what the first one aborted
  have before : (abortUnless raise (answers.firstRead && answers.accepted)
      (sendKeySet raise answers machine)).bootstrapState ≠ .incIdle := by
    intro idle
    rcases last.goesOn with ⟨sameState, -⟩ | isIdle
    · exact goesOn (sameState.trans idle)
    · exact goesOn isIdle
  unfold sendKeySet at before ⊢
  cases read : answers.firstRead with
  | true =>
    rw [read] at before
    exact sent_mem_abortUnless aborts awaits .keySet before
  | false =>
    rw [read] at before
    exact absurd (abortUnless_idle aborts (.refl machine) awaits) before

end Sending

theorem Carries.controller {before after : Machine} (carries : before.Carries after)
    (controller : lastStart before.record = some (before.remoteNodeId, before.isController))
    (goesOn : after.bootstrapState ≠ .incIdle) :
    lastStart after.record = some (after.remoteNodeId, after.isController) := by
  rcases carries.goesOn with ⟨-, sameRemote, sameController⟩ | idle
  · rw [carries.lastStart_eq, sameRemote, sameController]
    exact controller
  · exact absurd idle goesOn

theorem Carries.state_of_goesOn {before after : Machine} (carries : before.Carries after)
    (goesOn : after.bootstrapState ≠ .incIdle) :
    after.bootstrapState = before.bootstrapState ∧ after.remoteNodeId = before.remoteNodeId ∧
      after.isController = before.isController :=
  carries.goesOn.resolve_right goesOn

theorem Documented.abort (documented : machine.Documented) :
    (if machine.bootstrapState.awaits then machine.abortBootstrap else machine).Documented := by
  split
  next awaits => exact .of_idle (documented.running.abortBootstrap (notIdle_of_awaits awaits)) rfl
  next => exact documented

theorem documented_bootstrappingStart (documented : machine.Documented) (nodeId : NodeId)
    (isController : Bool) (answers : Answers) :
    (machine.bootstrappingStart nodeId isController answers).Documented := by
  unfold bootstrappingStart
  split
  next idle =>
    have aborts := aborts_processEventTo answers 1
    let begun : Machine :=
      { { machine.reset with remoteNodeId := nodeId }.note (.started nodeId isController) with
        bootstrapState := .awaitingSchemeReport }
    have running : begun.Running :=
      ⟨documented.running.supported, fun _ => ⟨isController, rfl⟩, fun _ => nofun⟩
    have event : processEvent answers .bootstrappingStart
        ({ machine.reset with remoteNodeId := nodeId }.note (.started nodeId isController)) =
          perform (processEventTo answers 2) answers begun .sendSchemeGet :=
      processEventTo_bootstrappingStart answers 2 rfl
    have carries : begun.Carries
        (perform (processEventTo answers 2) answers begun .sendSchemeGet) :=
      .performSend aborts begun .schemeGet
    dsimp only
    rw [event]
    generalize perform (processEventTo answers 2) answers begun .sendSchemeGet = after at carries ⊢
    have runningAfter := carries.running running
    by_cases goesOn : after.bootstrapState = .incIdle
    · exact .of_idle ⟨runningAfter.supported, runningAfter.started, runningAfter.unsettled⟩ goesOn
    · obtain ⟨sameState, sameRemote, -⟩ := carries.state_of_goesOn goesOn
      refine ⟨⟨runningAfter.supported, runningAfter.started, runningAfter.unsettled⟩,
        .inr (congrArg State.awaits sameState), fun _ => ?_, fun awaits => ?_, fun awaits => ?_⟩
      · change lastStart after.record = some (after.remoteNodeId, isController)
        rw [carries.lastStart_eq, sameRemote]
        rfl
      all_goals exact absurd (sameState.symm.trans awaits) nofun
  next => exact documented

theorem documented_firstSchemeReport {machine : Machine} (documented : machine.Documented)
    (awaits : machine.bootstrapState = .awaitingSchemeReport) (answers : Answers) :
    (processEvent answers .schemeReportReceived
      { machine with bootstrapTimer := false }).Documented := by
  have aborts := aborts_processEventTo answers 0
  have notIdle : machine.bootstrapState ≠ .incIdle := notIdle_of_awaits (by rw [awaits]; rfl)
  let begun : Machine :=
    { machine with bootstrapTimer := false, bootstrapState := .awaitingKeyVerify }
  have running : begun.Running :=
    ⟨documented.running.supported, fun _ => documented.running.started notIdle,
      fun _ => documented.running.unsettled notIdle⟩
  have event : processEvent answers .schemeReportReceived
      { machine with bootstrapTimer := false } =
        perform (processEventTo answers 1) answers begun .sendKeySet :=
    (@processEvent_firstSchemeReport { machine with bootstrapTimer := false } awaits answers).trans
      (@processEventTo_sendKeySet answers 1 { machine with
        bootstrapTimer := false
        bootstrapState := .handleSchemeReport } rfl)
  have carries : begun.Carries (perform (processEventTo answers 1) answers begun .sendKeySet) :=
    .performSendKeySet aborts begun
  have keySent := @keySent_performSendKeySet _ aborts answers begun rfl
  rw [event]
  generalize perform (processEventTo answers 1) answers begun .sendKeySet = after
    at carries keySent ⊢
  have runningAfter := carries.running running
  by_cases goesOn : after.bootstrapState = .incIdle
  · exact .of_idle runningAfter goesOn
  · obtain ⟨sameState, -⟩ := carries.state_of_goesOn goesOn
    refine ⟨runningAfter, .inr (congrArg State.awaits sameState), ?_, fun _ => keySent goesOn,
      fun isSecond => ?_⟩
    · exact carries.controller (documented.controller notIdle)
    · exact absurd (sameState.symm.trans isSecond) nofun

theorem answeredSecurely_received {nodeId : NodeId} {frame : ReceivedFrame} {sent : SentFrame}
    {record : List Occurrence} (isSent : .sent sent ∈ sinceStart record) :
    AnsweredSecurely nodeId frame sent
      (sinceStart (.received nodeId frame .security0 :: record)) := by
  exact ⟨[], sinceStart record, rfl, isSent⟩

theorem documented_secondSchemeReport {machine : Machine} (documented : machine.Documented)
    (awaits : machine.bootstrapState = .awaiting2SchemeReport) (answers : Answers) :
    (processEvent answers .schemeReportReceived
      { machine.note (.received machine.remoteNodeId .schemeReport .security0) with
        bootstrapTimer := false }).Documented := by
  have notIdle : machine.bootstrapState ≠ .incIdle := notIdle_of_awaits (by rw [awaits]; rfl)
  obtain ⟨verified, inherited, isController⟩ := documented.verified awaits
  have noted := @Documented.note _ documented
    (.received machine.remoteNodeId .schemeReport .security0) rfl rfl
  have event := @processEventTo_secondSchemeReport answers 2
    { machine.note (.received machine.remoteNodeId .schemeReport .security0) with
      bootstrapTimer := false } awaits
  unfold processEvent
  rw [event]
  unfold perform
  dsimp only
  split
  · refine documented_of_supportedOutcomes ?_ (bootstrapState_complete _ true)
    apply supportedOutcomes_complete
    · exact noted.running.supported
    · exact ⟨machine.isController, noted.controller notIdle, noted.running.unsettled notIdle,
        fun _ => ⟨(noted.verified awaits).1, fun _ => answeredSecurely_received inherited⟩⟩
  · exact documented_of_supportedOutcomes noted.running.supported rfl

theorem documented_schemeReport {machine : Machine} (documented : machine.Documented)
    {nodeId : NodeId} {encapsulation : Encapsulation}
    (secure : nodeId = machine.remoteNodeId ->
      machine.bootstrapState = .awaiting2SchemeReport -> encapsulation = .security0)
    (answers : Answers) :
    ((machine.note (.received nodeId .schemeReport encapsulation)).schemeReportReceived nodeId
      answers).Documented := by
  have noted := @Documented.note _ documented (.received nodeId .schemeReport encapsulation) rfl rfl
  unfold schemeReportReceived
  split
  next expected =>
    rcases expected.2 with isFirst | isSecond
    · exact documented_firstSchemeReport noted isFirst answers
    · have isRemote : nodeId = machine.remoteNodeId := expected.1
      rw [secure isRemote isSecond, isRemote]
      exact documented_secondSchemeReport documented isSecond answers
  next => exact noted

/-- A Network Key Verify that is awaited ends the bootstrapping of a node that is no
controller. -/
theorem documented_verified {machine : Machine} (documented : machine.Documented)
    (awaits : machine.bootstrapState = .awaitingKeyVerify) (answers : Answers) :
    (handleNetKeyVerify (processEventTo answers 2)
      { machine.note (.received machine.remoteNodeId .networkKeyVerify .security0) with
        bootstrapTimer := false
        bootstrapState := .handleNetKeyVerify }).Documented := by
  have aborts := aborts_processEventTo answers 0
  have notIdle : machine.bootstrapState ≠ .incIdle := notIdle_of_awaits (by rw [awaits]; rfl)
  have noted := @Documented.note _ documented
    (.received machine.remoteNodeId .networkKeyVerify .security0) rfl rfl
  have answered : AnsweredSecurely machine.remoteNodeId .networkKeyVerify .keySet
      (sinceStart (machine.note (.received machine.remoteNodeId .networkKeyVerify
        .security0)).record) :=
    answeredSecurely_received (documented.keySent awaits)
  unfold handleNetKeyVerify
  split
  next isController =>
    let begun : Machine :=
      { machine.note (.received machine.remoteNodeId .networkKeyVerify .security0) with
        bootstrapTimer := false
        bootstrapState := .awaiting2SchemeReport }
    have running : begun.Running :=
      ⟨noted.running.supported, fun _ => noted.running.started notIdle,
        fun _ => noted.running.unsettled notIdle⟩
    have event := @processEventTo_sendSchemeInherit answers 1
      { machine.note (.received machine.remoteNodeId .networkKeyVerify .security0) with
        bootstrapTimer := false
        bootstrapState := .handleNetKeyVerify } rfl
    have carries : begun.Carries
        (perform (processEventTo answers 1) answers begun .sendSchemeInherit) :=
      .performSend aborts begun .schemeInherit
    have inherited := @sent_mem_abortUnless _ aborts answers begun rfl .schemeInherit
    rw [event]
    change (perform (processEventTo answers 1) answers begun
      .sendSchemeInherit).bootstrapState ≠ _ ->
      _ ∈ sinceStart (perform (processEventTo answers 1) answers begun .sendSchemeInherit).record
      at inherited
    generalize perform (processEventTo answers 1) answers begun .sendSchemeInherit = after
      at carries inherited ⊢
    have runningAfter := carries.running running
    by_cases goesOn : after.bootstrapState = .incIdle
    · exact .of_idle runningAfter goesOn
    · obtain ⟨sameState, sameRemote, sameController⟩ := carries.state_of_goesOn goesOn
      refine ⟨runningAfter, .inr (congrArg State.awaits sameState), ?_, fun isFirst => ?_,
        fun _ => ⟨?_, inherited goesOn, sameController.trans isController⟩⟩
      · exact carries.controller (noted.controller notIdle)
      · exact absurd (sameState.symm.trans isFirst) nofun
      · rw [sameRemote]
        exact carries.answered answered
  next notController =>
    have isEnd : machine.isController = false := eq_false_of_ne_true notController
    have event := @processEventTo_wasNotController answers 1
      ({ machine.note (.received machine.remoteNodeId .networkKeyVerify .security0) with
        bootstrapTimer := false
        bootstrapState := .handleNetKeyVerify }.complete true) (bootstrapState_complete _ true)
    rw [event]
    refine documented_of_supportedOutcomes ?_ rfl
    apply supportedOutcomes_complete
    · exact noted.running.supported
    · refine ⟨false, ?_, noted.running.unsettled notIdle, fun _ => ⟨answered, nofun⟩⟩
      rw [← isEnd]
      exact noted.controller notIdle

theorem documented_networkKeyVerify {machine : Machine} (documented : machine.Documented)
    {nodeId : NodeId} {encapsulation : Encapsulation}
    (secure : nodeId = machine.remoteNodeId ->
      machine.bootstrapState = .awaitingKeyVerify -> encapsulation = .security0)
    (answers : Answers) :
    ((machine.note (.received nodeId .networkKeyVerify encapsulation)).networkKeyVerifyReceived
      nodeId answers).Documented := by
  have noted := @Documented.note _ documented (.received nodeId .networkKeyVerify encapsulation)
    rfl rfl
  unfold networkKeyVerifyReceived processEvent
  split
  next isRemote =>
    rw [processEventTo_netKeyVerifyReceived]
    split
    next awaits =>
      have same : nodeId = machine.remoteNodeId := isRemote
      rw [secure same awaits, same]
      exact documented_verified documented awaits answers
    next =>
      exact ⟨⟨noted.running.supported, noted.running.started, noted.running.unsettled⟩,
        noted.rests, noted.controller, noted.keySent, noted.verified⟩
  next => exact noted

/-- Steps on securely received frames have the documented outcomes. -/
theorem Documented.step (documented : machine.Documented) {action : Action}
    (secure : machine.ActsOnSecureFrames action) : (machine.step action).Documented := by
  -- neither the timer nor the count of completions is part of what is known
  have quiet : ∀ timer outstanding callback,
      { machine with
        bootstrapTimer := timer
        outstanding := outstanding
        completeCallback := callback }.Documented := fun _ _ _ =>
    ⟨⟨documented.running.supported, documented.running.started, documented.running.unsettled⟩,
      documented.rests, documented.controller, documented.keySent, documented.verified⟩
  cases action with
  | bootstrappingStart nodeId isController answers =>
    exact documented_bootstrappingStart documented nodeId isController answers
  | bootstrappingStop => exact documented_of_supportedOutcomes documented.running.supported rfl
  | schemeReport nodeId encapsulation frameLength answers =>
    unfold Machine.step
    dsimp only
    split
    next isLong => exact documented_schemeReport documented (secure isLong) answers
    next => exact documented
  | networkKeyVerify nodeId encapsulation answers =>
    exact documented_networkKeyVerify documented secure answers
  | sendCompletes status answers =>
    unfold Machine.step sendDataCallback processEvent
    dsimp only
    split
    · exact documented
    · split
      · exact quiet true _ machine.completeCallback
      · split
        · rw [processEventTo_bootstrapAbort]
          exact (quiet machine.bootstrapTimer _ machine.completeCallback).abort
        · exact quiet machine.bootstrapTimer _ machine.completeCallback
  | timerExpires answers =>
    unfold Machine.step processEvent
    dsimp only
    split
    · rw [processEventTo_timeout]
      exact (quiet false machine.outstanding machine.completeCallback).abort
    · exact documented
  | setCallback isSet => exact quiet machine.bootstrapTimer machine.outstanding isSet

/-- As long as the machine acts on secure frames only, every outcome it reports is the first
one since the start of a bootstrapping of the node, and every success is supported by the
frames that show the key. -/
theorem supported_outcomes_throughout {actions : List Action}
    (secure : StepsMeet Machine.step ActsOnSecureFrames initial actions) :
    ∀ done, done <+: actions -> SupportedOutcomes (run Machine.step initial done).record := by
  intro done before
  have initially : initial.Documented :=
    documented_of_supportedOutcomes (show SupportedOutcomes [] from trivial) rfl
  have documented := (secure.of_isPrefix before).invariant Documented
    (fun _ _ documented secure => documented.step secure) initially
  exact documented.running.supported

/-- The bootstrapping of a controller, with all its frames. -/
def inclusion (encapsulation : Encapsulation) : List Action :=
  [.setCallback true, .bootstrappingStart 5 true willing, .sendCompletes 0x00 willing,
    .schemeReport 5 .none 3 willing, .sendCompletes 0x00 willing,
    .networkKeyVerify 5 encapsulation willing, .sendCompletes 0x00 willing,
    .schemeReport 5 encapsulation 3 willing]

theorem supported_outcomes_inclusion :
    .outcome 5 true ∈ (run Machine.step initial (inclusion .security0)).record ∧
      ∀ done, done <+: inclusion .security0 ->
        SupportedOutcomes (run Machine.step initial done).record := by
  refine ⟨by decide, supported_outcomes_throughout ?_⟩
  refine ⟨trivial, trivial, trivial, ?_, trivial, ?_, trivial, ?_, trivial⟩
  · exact fun _ _ isSecond => absurd isSecond (by decide)
  · exact fun _ _ => rfl
  · exact fun _ _ _ => rfl

/-- A controller is reported as included although no frame of it was encapsulated. -/
theorem not_supportedOutcomes_inclusion :
    ¬ SupportedOutcomes (run Machine.step initial (inclusion .none)).record := by
  rintro ⟨⟨isController, -, -, success⟩, -⟩
  obtain ⟨⟨later, earlier, split, -⟩, -⟩ := success rfl
  have received : .received 5 .networkKeyVerify .security0 ∈
      sinceStart (run step initial (inclusion .none)).record.tail := by
    refine split.symm ▸ ?_
    exact List.mem_append_right later List.mem_cons_self
  exact absurd received (by decide)

end Machine

end Bootstrapping

end S0
