import Zpc.S2.InclusionKeys

/-!
# The exchanged keys of an S2 inclusion

Which keys the completion of an inclusion says were exchanged, and when the keys of all
inclusions are as they should be.
-/

namespace S2Inclusion

open Foundation (StepsMeet throughout_iff_of_invariant)

/-- In an inclusion (its newest entry first) a Network Key Report for a class was sent, and a
Network Key Verify that counts for the class was received after it. -/
def Verified (counts : UInt8 -> UInt8 -> Prop) (history : List Entry) (keyClass : UInt8) : Prop :=
  ∃ after before decrypting,
    history = after ++ .verifyReceived decrypting :: before ∧
      counts keyClass decrypting ∧ .reportSent keyClass ∈ before

/-- A completion says only of verified classes that their keys were exchanged. -/
def CompletionConforms (counts : UInt8 -> UInt8 -> Prop) (event : S2Event × List Entry) : Prop :=
  ∀ exchangedKeys, event.1 = .inclusionComplete exchangedKeys ->
    ∀ keyClass, IsKeyClass keyClass -> Contains exchangedKeys keyClass ->
      Verified counts event.2 keyClass

variable {keyClass first second : UInt8}

theorem Verified.of_suffix {counts : UInt8 -> UInt8 -> Prop} {earlier later : List Entry}
    (verified : Verified counts earlier keyClass) (grows : earlier <:+ later) :
    Verified counts later keyClass := by
  obtain ⟨after, before, decrypting, whole, rest⟩ := verified
  obtain ⟨added, grown⟩ := grows
  refine ⟨added ++ after, before, decrypting, ?_, rest⟩
  rw [← grown, whole, List.append_assoc]

theorem IsKeyClass.mem (isKeyClass : IsKeyClass keyClass) :
    keyClass ∈ ([0x01, 0x02, 0x04, 0x08, 0x10, 0x20, 0x40, 0x80] : List UInt8) := by
  have all : ∀ bits : BitVec 8, bits ≠ 0 -> bits &&& (bits - 1) = 0 ->
      UInt8.ofBitVec bits ∈ ([0x01, 0x02, 0x04, 0x08, 0x10, 0x20, 0x40, 0x80] : List UInt8) := by
    decide +kernel
  refine all keyClass.toBitVec ?_ ?_
  · exact fun isZero => isKeyClass.1 (UInt8.toBitVec_inj.mp isZero)
  · exact congrArg UInt8.toBitVec isKeyClass.2

theorem IsKeyClass.eq_of_contains (isFirst : IsKeyClass first) (isSecond : IsKeyClass second)
    (shared : Contains first second) : first = second := by
  have all : ∀ one ∈ ([0x01, 0x02, 0x04, 0x08, 0x10, 0x20, 0x40, 0x80] : List UInt8),
      ∀ other ∈ ([0x01, 0x02, 0x04, 0x08, 0x10, 0x20, 0x40, 0x80] : List UInt8),
      one &&& other ≠ 0 -> one = other := by
    decide +kernel
  exact all first isFirst.mem second isSecond.mem shared

theorem contains_or (contained : Contains (first ||| second) keyClass) :
    Contains first keyClass ∨ Contains second keyClass := by
  by_contra neither
  rw [not_or] at neither
  obtain ⟨notFirst, notSecond⟩ := neither
  unfold Contains at *
  rw [not_not, ← UInt8.toBitVec_inj] at notFirst notSecond
  refine contained ?_
  rw [← UInt8.toBitVec_inj]
  simp only [UInt8.toBitVec_and, UInt8.toBitVec_or] at *
  grind

namespace Context

variable {ctx : Context} {counts : UInt8 -> UInt8 -> Prop}

/-- Every completion conforms. -/
def CompletionsConform (counts : UInt8 -> UInt8 -> Prop) (ctx : Context) : Prop :=
  ∀ event ∈ ctx.events, CompletionConforms counts event

/-- Every exchanged class is verified. -/
def ExchangeVerified (counts : UInt8 -> UInt8 -> Prop) (ctx : Context) : Prop :=
  ∀ keyClass, IsKeyClass keyClass -> Contains ctx.keyExchange keyClass ->
    Verified counts ctx.history keyClass

/-- Every exchanged class is that of the last request or is verified. -/
structure ExchangeRequested (counts : UInt8 -> UInt8 -> Prop) (ctx : Context) : Prop where
  isKeyClass : IsKeyClass ctx.keyRequested
  exchanged : ∀ keyClass, IsKeyClass keyClass -> Contains ctx.keyExchange keyClass ->
    keyClass = ctx.keyRequested ∨ Verified counts ctx.history keyClass

/-- The states in which network keys are exchanged. -/
def exchangeStates : List InclusionState :=
  [.awaitingNetKeyGet, .awaitingNetKeyVerify, .awaitingTransferEnd]

/-- The completions conform, and while network keys are exchanged every class is verified apart
from one whose verification is awaited. -/
structure CompletionInvariant (counts : UInt8 -> UInt8 -> Prop) (ctx : Context) : Prop where
  /-- The completions so far conform. -/
  conforms : CompletionsConform counts ctx
  /-- Between two exchanges every class is verified. -/
  verified : ctx.inclusionState = .awaitingNetKeyGet ∨
    ctx.inclusionState = .awaitingTransferEnd -> ExchangeVerified counts ctx
  /-- During one, all but that of the request. -/
  requested : ctx.inclusionState = .awaitingNetKeyVerify -> ExchangeRequested counts ctx

theorem CompletionInvariant.of_outside (conforms : CompletionsConform counts ctx)
    (outside : ctx.inclusionState ∉ exchangeStates) : CompletionInvariant counts ctx := by
  refine ⟨conforms, fun isState => absurd ?_ outside, fun isState => absurd ?_ outside⟩
  · rcases isState with isState | isState <;> rw [isState] <;> decide
  · rw [isState]
    decide

variable {before after : Context} {state : InclusionState} {action : TransitionAction}
  {event : InclusionEvent}

theorem CompletionsConform.of_quiet (conforms : CompletionsConform counts before)
    (quiet : Quiet before after) : CompletionsConform counts after := by
  intro event isEvent
  rcases quiet.events event isEvent with isEarlier | isOther
  · exact conforms event isEarlier
  · exact fun keys isCompletion => absurd isCompletion (isOther keys)

theorem ExchangeVerified.of_sent (verified : ExchangeVerified counts before)
    (sent : Sent before after) : ExchangeVerified counts after := by
  intro keyClass isKeyClass contained
  rw [sent.keyExchange] at contained
  exact (verified keyClass isKeyClass contained).of_suffix sent.history

theorem ExchangeRequested.of_sent (requested : ExchangeRequested counts before)
    (sent : Sent before after) : ExchangeRequested counts after := by
  refine ⟨?_, fun keyClass isKeyClass contained => ?_⟩
  · rw [sent.keyRequested]
    exact requested.isKeyClass
  · rw [sent.keyExchange] at contained
    rw [sent.keyRequested]
    exact (requested.exchanged keyClass isKeyClass contained).imp_right
      fun verified => verified.of_suffix sent.history

theorem CompletionInvariant.of_sent (invariant : CompletionInvariant counts before)
    (sent : Sent before after) : CompletionInvariant counts after := by
  refine ⟨invariant.conforms.of_quiet sent.quiet, fun isState => ?_, fun isState => ?_⟩
  · rw [sent.inclusionState] at isState
    exact (invariant.verified isState).of_sent sent
  · rw [sent.inclusionState] at isState
    exact (invariant.requested isState).of_sent sent

theorem outside_outcome (conforms : CompletionsConform counts ctx) (answers : Answers)
    (outside : state ∉ exchangeStates)
    (isQuiet : action ∉ [TransitionAction.sendNetKeyReportAction, .inclusionCompleteAction,
      .checkNoKeys]) :
    Outcome (CompletionInvariant counts) (CompletionsConform counts)
      ({ ctx with inclusionState := state }.executeAction answers action) := by
  obtain ⟨quiet, raised⟩ := quiet_executeAction { ctx with inclusionState := state } answers isQuiet
  have after : CompletionsConform counts _ := CompletionsConform.of_quiet (by exact conforms) quiet
  refine outcome_of_raised raised (.of_outside after ?_) after
  rw [quiet.inclusionState]
  exact outside

theorem completionInvariant_over (after : Context) (state : InclusionState)
    (isOver : state = .idle ∨ state = .errorSent) (conforms : CompletionsConform counts after) :
    CompletionInvariant counts { after with inclusionState := state } := by
  have outside : state ∉ exchangeStates := by
    rcases isOver with rfl | rfl <;> decide
  exact .of_outside conforms outside

theorem CompletionInvariant.of_unmoved (conforms : CompletionsConform counts after)
    (unmoved : Unmoved { before with inclusionState := .idle } after) :
    CompletionInvariant counts after := by
  refine .of_outside conforms ?_
  rw [unmoved.inclusionState]
  exact show InclusionState.idle ∉ exchangeStates by decide

theorem completionOutcome_s2SendEchoKexReport (conforms : CompletionsConform counts ctx)
    (isState : ctx.inclusionState = .awaitingNetKeyGet) (taken : Bool) :
    Outcome (CompletionInvariant counts) (CompletionsConform counts)
      (ctx.s2SendEchoKexReport taken) := by
  unfold s2SendEchoKexReport validateEchoKexSet
  dsimp only
  split
  · split
    · exact Or.inr ⟨rfl, conforms⟩
    · refine Or.inl ⟨rfl, CompletionInvariant.of_sent ?_ (sendFirst_sent _ _ taken)⟩
      refine ⟨conforms, fun _ keyClass _ contained => ?_, fun verify => ?_⟩
      · exact absurd (UInt8.zero_and) contained
      · exact absurd (isState.symm.trans verify) (by decide)
  · rw [if_pos rfl]
    refine Or.inr ⟨rfl, ?_⟩
    exact conforms.of_quiet (quiet_failed (.refl ctx) kexFailAuth taken)

theorem completionOutcome_s2SendNetKeyReport (conforms : CompletionsConform counts ctx)
    (isState : ctx.inclusionState = .awaitingNetKeyVerify)
    (verified : ExchangeVerified counts ctx) (answers : Answers) :
    Outcome (CompletionInvariant counts) (CompletionsConform counts)
      (ctx.s2SendNetKeyReport answers) := by
  cases requestable : ctx.isRequestable (ctx.byte 2) with
  | true =>
    rw [s2SendNetKeyReport_granted answers requestable]
    refine Or.inl ⟨rfl, CompletionInvariant.of_sent ?_ (sendFirst_sent _ _ answers.taken)⟩
    have isKeyClass : IsKeyClass (ctx.byte 2) := by
      simp only [isRequestable, Bool.and_eq_true, beq_iff_eq, bne_iff_ne] at requestable
      refine ⟨fun isZero => requestable.2 ?_, requestable.1⟩
      rw [isZero, UInt8.zero_and]
    refine ⟨conforms, fun isOther => ?_, fun _ => ⟨isKeyClass, ?_⟩⟩
    · exact absurd isOther (by
        rw [isState]
        decide)
    · intro keyClass isOther contained
      rcases contains_or contained with isEarlier | isNew
      · exact Or.inr (verified keyClass isOther isEarlier)
      · exact Or.inl (IsKeyClass.eq_of_contains isKeyClass isOther isNew).symm
  | false =>
    rw [s2SendNetKeyReport_refused answers requestable]
    refine Or.inr ⟨rfl, ?_⟩
    exact CompletionsConform.of_quiet (by exact conforms)
      (inclusionFailedFrameSend_sent _ kexFailKeyGet answers.taken).quiet

theorem ExchangeRequested.verified (requested : ExchangeRequested counts ctx)
    (isVerified : Verified counts ctx.history ctx.keyRequested) : ExchangeVerified counts ctx := by
  intro keyClass isKeyClass contained
  rcases requested.exchanged keyClass isKeyClass contained with rfl | isEarlier
  · exact isVerified
  · exact isEarlier

theorem completionInvariant_s2SendTransferEnd (conforms : CompletionsConform counts ctx)
    (verified : ExchangeVerified counts ctx) (isOther : state ≠ .awaitingNetKeyVerify)
    (taken : Bool) :
    CompletionInvariant counts ({ ctx with inclusionState := state }.s2SendTransferEnd taken) := by
  refine CompletionInvariant.of_sent ?_ (sendFirst_sent _ _ taken)
  exact ⟨conforms, fun _ => verified, fun isState => absurd isState isOther⟩

theorem completionsConform_s2InclusionComplete (conforms : CompletionsConform counts ctx)
    (verified : ExchangeVerified counts ctx) (taken : Bool) :
    CompletionsConform counts (ctx.s2InclusionComplete taken) := by
  unfold s2InclusionComplete
  split
  · intro event isEvent
    rcases List.mem_append.mp isEvent with isEarlier | isNew
    · exact conforms event isEarlier
    · obtain rfl := List.mem_singleton.mp isNew
      rintro exchangedKeys ⟨⟩
      exact verified
  · refine conforms.of_quiet (Quiet.trans ?_ (quiet_notify _ fun _ => S2Event.noConfusion))
    exact quiet_failed (.refl ctx) kexFailKeyVerify taken

theorem completionsConform_s2CheckNoKeys (conforms : CompletionsConform counts ctx)
    (verified : ExchangeVerified counts ctx) (taken : Bool) :
    CompletionsConform counts (ctx.s2CheckNoKeys taken) := by
  unfold s2CheckNoKeys
  split
  · exact conforms.of_quiet (quiet_notify ctx fun _ => S2Event.noConfusion)
  · exact completionsConform_s2InclusionComplete conforms verified taken

theorem CompletionInvariant.proceeds (invariant : CompletionInvariant counts ctx)
    (answers : Answers) {newState : InclusionState}
    (known : (ctx.inclusionState, event, action, newState) ∈ progressRows)
    (isVerified : ctx.inclusionState = .awaitingNetKeyVerify ->
      event = .netKeyVerifyRecv ∨ event = .netKeyVerifyFinalRecv ->
        Verified counts ctx.history ctx.keyRequested) :
    Outcome (CompletionInvariant counts) (CompletionsConform counts)
      ({ ctx with inclusionState := newState }.executeAction answers action) := by
  simp only [progressRows, List.mem_cons, List.not_mem_nil, or_false, Prod.mk.injEq] at known
  rcases known with ⟨-, -, rfl, rfl⟩ | ⟨-, -, rfl, rfl⟩ | ⟨-, -, rfl, rfl⟩ |
    ⟨-, -, rfl, rfl⟩ | ⟨-, -, rfl, rfl⟩ | ⟨-, -, rfl, rfl⟩ | ⟨isState, -, rfl, rfl⟩ |
    ⟨isState, isEvent, rfl, rfl⟩ | ⟨isState, isEvent, rfl, rfl⟩
  · exact outside_outcome invariant.conforms answers (by decide) (by decide)
  · exact outside_outcome invariant.conforms answers (by decide) (by decide)
  · exact outside_outcome invariant.conforms answers (by decide) (by decide)
  · exact outside_outcome invariant.conforms answers (by decide) (by decide)
  · exact outside_outcome invariant.conforms answers (by decide) (by decide)
  · exact completionOutcome_s2SendEchoKexReport (by exact invariant.conforms) rfl answers.taken
  · exact completionOutcome_s2SendNetKeyReport (by exact invariant.conforms) rfl
      (by exact invariant.verified (Or.inl isState)) answers
  · have verified := (invariant.requested isState).verified (isVerified isState (Or.inr isEvent))
    exact Or.inl ⟨rfl, completionInvariant_s2SendTransferEnd invariant.conforms verified
      (by decide) answers.taken⟩
  · have verified := (invariant.requested isState).verified (isVerified isState (Or.inl isEvent))
    exact Or.inl ⟨rfl, completionInvariant_s2SendTransferEnd invariant.conforms verified
      (by decide) answers.taken⟩

/-- Every transition keeps the invariant if its verification counts. -/
theorem CompletionInvariant.processEvent (invariant : CompletionInvariant counts ctx)
    (answers : Answers) (event : InclusionEvent)
    (isVerified : ctx.inclusionState = .awaitingNetKeyVerify ->
      event = .netKeyVerifyRecv ∨ event = .netKeyVerifyFinalRecv ->
        Verified counts ctx.history ctx.keyRequested) :
    CompletionInvariant counts (ctx.processEvent answers event) := by
  refine processEvent_rule completionInvariant_over invariant
    (invariant.of_sent (s2InclusionSend_sent ctx answers.taken))
    (fun state action isOver isError =>
      outside_outcome invariant.conforms answers ?_ (errorActions_quiet isError))
    (fun isState => .of_unmoved (completionsConform_s2InclusionComplete ?_ ?_ _)
      (s2InclusionComplete_unmoved _ answers.taken))
    (fun isState => .of_unmoved (completionsConform_s2CheckNoKeys ?_ ?_ _)
      (s2CheckNoKeys_unmoved _ answers.taken))
    (fun _ _ known => invariant.proceeds answers known isVerified)
  · rcases isOver with rfl | rfl <;> decide
  · exact invariant.conforms
  · exact invariant.verified (Or.inr isState)
  · exact invariant.conforms
  · exact invariant.verified (Or.inl isState)

/-- A frame of the peer is a Network Key Verify that is accepted. -/
structure Verifies (ctx : Context) (frame : ReceivedFrame) (answers : Answers) : Prop where
  singlecast : frame.isMulticast = false
  fromPeer : ctx.peerNode = frame.rNode
  awaited : ctx.inclusionState = .awaitingNetKeyVerify
  accepted : (ctx.withFrame frame).reception answers = .event .netKeyVerifyRecv ∨
    (ctx.withFrame frame).reception answers = .event .netKeyVerifyFinalRecv

instance (ctx : Context) (frame : ReceivedFrame) (answers : Answers) :
    Decidable (ctx.Verifies frame answers) :=
  decidable_of_iff
    (frame.isMulticast = false ∧ ctx.peerNode = frame.rNode ∧
      ctx.inclusionState = .awaitingNetKeyVerify ∧
      ((ctx.withFrame frame).reception answers = .event .netKeyVerifyRecv ∨
        (ctx.withFrame frame).reception answers = .event .netKeyVerifyFinalRecv))
    ⟨fun ⟨singlecast, fromPeer, awaited, accepted⟩ => ⟨singlecast, fromPeer, awaited, accepted⟩,
      fun verifies => ⟨verifies.1, verifies.2, verifies.3, verifies.4⟩⟩

/-- A Network Key Verify is accepted only after libS2 took the Network Key Report for the class
that was requested last, and counts for that class. -/
def VerifyOrderly (counts : UInt8 -> UInt8 -> Prop) (ctx : Context) : Action -> Prop
  | .frame frame answers => ctx.Verifies frame answers ->
      Entry.reportSent ctx.keyRequested ∈ ctx.history ∧
        counts ctx.keyRequested (ctx.withFrame frame).decryptingClass
  | _ => True

instance [∀ keyClass decrypting, Decidable (counts keyClass decrypting)] (ctx : Context) :
    (action : Action) -> Decidable (VerifyOrderly counts ctx action)
  | .frame _ _ => inferInstanceAs (Decidable (_ -> _ ∧ _))
  | .includingStart _ _ => isTrue trivial
  | .keyGrant _ _ _ _ => isTrue trivial
  | .challengeResponse _ _ => isTrue trivial
  | .abort _ => isTrue trivial
  | .decryptionFailure _ _ => isTrue trivial
  | .timeout _ => isTrue trivial
  | .sendDone _ _ => isTrue trivial

theorem recordVerify_sent (ctx : Context) (event : InclusionEvent) :
    Sent ctx (ctx.recordVerify event) := by
  unfold recordVerify
  split
  · exact ⟨⟨rfl, rfl, rfl, rfl, rfl⟩, rfl, rfl, List.suffix_cons _ _⟩
  · exact ⟨⟨rfl, rfl, rfl, rfl, rfl⟩, rfl, rfl, List.suffix_refl _⟩

theorem recordVerify_verified
    (isVerify : event = .netKeyVerifyRecv ∨ event = .netKeyVerifyFinalRecv)
    (reported : Entry.reportSent keyClass ∈ ctx.history)
    (isCounted : counts keyClass ctx.decryptingClass) :
    Verified counts (ctx.recordVerify event).history keyClass := by
  unfold recordVerify
  rw [if_pos isVerify]
  exact ⟨[], ctx.history, ctx.decryptingClass, rfl, isCounted, reported⟩

theorem CompletionInvariant.frame (invariant : CompletionInvariant counts ctx)
    (frame : ReceivedFrame) (answers : Answers)
    (orderly : VerifyOrderly counts ctx (.frame frame answers)) :
    CompletionInvariant counts (ctx.s2InclusionPostEvent frame answers) := by
  have framed : CompletionInvariant counts (ctx.withFrame frame) :=
    invariant.of_sent ⟨⟨rfl, rfl, rfl, rfl, rfl⟩, rfl, rfl, List.suffix_refl _⟩
  unfold s2InclusionPostEvent s2InclusionPostEventInternal
  split
  · rename_i isFrame
    cases received : (ctx.withFrame frame).reception answers with
    | ignored => exact framed
    | tooShort => exact framed.processEvent answers _ fun _ isVerify => by simp at isVerify
    | notAuthenticated =>
      refine CompletionInvariant.processEvent ?_ answers _
        fun _ isVerify => by simp at isVerify
      exact framed.of_sent (inclusionFailedFrameSend_sent _ kexFailAuth answers.taken)
    | event event =>
      have recorded := recordVerify_sent (ctx.withFrame frame) event
      refine (framed.of_sent recorded).processEvent answers event fun isState isVerify => ?_
      rw [recorded.inclusionState] at isState
      have accepted : (ctx.withFrame frame).reception answers = .event .netKeyVerifyRecv ∨
          (ctx.withFrame frame).reception answers = .event .netKeyVerifyFinalRecv := by
        rw [received]
        exact isVerify.imp (congrArg Reception.event) (congrArg Reception.event)
      obtain ⟨reported, isCounted⟩ := orderly ⟨isFrame.1, isFrame.2, isState, accepted⟩
      rw [recorded.keyRequested]
      exact recordVerify_verified isVerify reported isCounted
  · exact invariant

/-- Every step whose verification is orderly keeps the invariant. -/
theorem CompletionInvariant.step (invariant : CompletionInvariant counts ctx) (action : Action)
    (orderly : VerifyOrderly counts ctx action) : CompletionInvariant counts (ctx.step action) := by
  rcases step_prepared ctx action with
    ⟨frame, answers, rfl⟩ | same | ⟨prepared, event, answers, isPrepared, isStep⟩
  · exact invariant.frame frame answers orderly
  · rw [same]
    exact invariant
  · rw [isStep]
    cases isPrepared with
    | started isIdle =>
      refine CompletionInvariant.processEvent (.of_outside ?_ ?_) answers _
        fun _ isVerify => by simp at isVerify
      · exact invariant.conforms
      · dsimp only
        rw [isIdle]
        decide
    | granted =>
      refine CompletionInvariant.processEvent ?_ answers _ fun _ isVerify => by simp at isVerify
      exact invariant.of_sent ⟨⟨rfl, rfl, rfl, rfl, rfl⟩, rfl, rfl, List.suffix_refl _⟩
    | counted _ _ noKey =>
      refine CompletionInvariant.processEvent ?_ answers _
        fun _ isVerify => absurd (List.mem_cons_of_mem _ ?_) noKey
      · exact invariant.of_sent ⟨⟨rfl, rfl, rfl, rfl, rfl⟩, rfl, rfl, List.suffix_refl _⟩
      · simpa using isVerify

theorem reportInvariant_initial : ReportInvariant initial :=
  .of_early (fun _ isReport => by cases isReport) (by decide)

theorem completionInvariant_initial (counts : UInt8 -> UInt8 -> Prop) :
    CompletionInvariant counts initial :=
  .of_outside (fun _ isEvent => by cases isEvent) (by decide)

/-- In every run the network keys of all reports are allowed exactly when every request that is
answered was granted, and the completions conform when every accepted Network Key Verify comes
after the report of its class. -/
theorem keys_conform_orderly (counts : UInt8 -> UInt8 -> Prop) (actions : List Action) :
    ((∀ done, done <+: actions -> ReportsConform (Foundation.run step initial done)) ↔
        StepsMeet step RequestOrderly initial actions) ∧
      (StepsMeet step (VerifyOrderly counts) initial actions -> ∀ done, done <+: actions ->
        CompletionsConform counts (Foundation.run step initial done)) := by
  constructor
  · exact throughout_iff_of_invariant ReportInvariant ReportsConform
      (fun _ invariant => invariant.conforms)
      (fun _ action invariant orderly =>
        (invariant.step action).2 ((invariant.step action).1.mpr orderly))
      (fun _ action invariant => (invariant.step action).1.mp)
      reportInvariant_initial actions
  · intro meets done isDone
    have invariant := StepsMeet.invariant (CompletionInvariant counts)
      (fun _ action invariant orderly => invariant.step action orderly)
      (completionInvariant_initial counts) (meets.of_isPrefix isDone)
    exact invariant.conforms

/-- All keys are assigned, and libS2 takes frames or is busy. -/
def answersOf (taken : Bool) : Answers where
  taken := taken
  assignedKeys := 0x9F
  ruleBeyond := ⟨2, 0, nonSecure, nonSecure⟩

/-- A frame of a node to which libS2 takes the answer. -/
def received (node : Nat) (classId : UInt8) (bytes : List UInt8) : Action :=
  .frame ⟨node, classId, false, bytes⟩ (answersOf true)

/-- A node is included up to the answer to its public key. -/
def includedUpTo (node : Nat) (keys : UInt8) : List Action :=
  [.includingStart node (answersOf true),
    received node nonSecure [0x9F, 0x05, 0x00, 0x02, 0x01, 0x87],
    .keyGrant true keys false (answersOf true),
    received node nonSecure ([0x9F, 0x08, 0x00] ++ List.replicate 32 0)]

/-- The keys of the KEX Set are echoed. -/
def echoed (node : Nat) (keys : UInt8) : Action :=
  received node tempKeySecure [0x9F, 0x06, 0x00 ||| security2EchoOn, 0x02, 0x01, keys]

/-- Both keys of an inclusion are reported and verified. -/
def wholeInclusion : List Action :=
  includedUpTo 2 0x05 ++
    [.challengeResponse true (answersOf true), echoed 2 0x05,
      received 2 tempKeySecure [0x9F, 0x09, 0x01], received 2 0 [0x9F, 0x0B],
      received 2 tempKeySecure [0x9F, 0x09, 0x04], received 2 2 [0x9F, 0x0B],
      received 2 tempKeySecure [0x9F, 0x0C, 0x01]]

theorem completionsConform_wholeInclusion :
    StepsMeet step (VerifyOrderly fun keyClass decrypting => keyClass = decrypting) initial
        wholeInclusion ∧
      ∀ done, done <+: wholeInclusion ->
        CompletionsConform (fun keyClass decrypting => keyClass = decrypting)
          (Foundation.run step initial done) :=
  ⟨by decide +kernel, (keys_conform_orderly _ wholeInclusion).2 (by decide +kernel)⟩

/-- Keys are granted a second time instead of the answer to the public key. -/
def grantedAgain : List Action :=
  includedUpTo 2 0x01 ++
    [.keyGrant true 0x87 false (answersOf true), echoed 2 0x87,
      received 2 tempKeySecure [0x9F, 0x09, 0x04]]

/-- A Long Range node is granted a class without a Long Range key. -/
def grantedToLongRange : List Action :=
  includedUpTo 256 0x01 ++
    [.challengeResponse true (answersOf true), echoed 256 0x01,
      received 256 tempKeySecure [0x9F, 0x09, 0x01]]

/-- libS2 is busy when the second key is requested, and the Network Key Verify of the first
comes again. -/
def verifiedAgain : List Action :=
  includedUpTo 2 0x05 ++
    [.challengeResponse true (answersOf true), echoed 2 0x05,
      received 2 tempKeySecure [0x9F, 0x09, 0x01], received 2 0 [0x9F, 0x0B],
      .frame ⟨2, tempKeySecure, false, [0x9F, 0x09, 0x04]⟩ (answersOf false),
      received 2 0 [0x9F, 0x0B], received 2 tempKeySecure [0x9F, 0x0C, 0x01]]

theorem keys_not_conform :
    ¬ReportsConform (Foundation.run step initial grantedAgain) ∧
      ¬ReportsConform (Foundation.run step initial grantedToLongRange) ∧
      ¬CompletionsConform (fun _ _ => True) (Foundation.run step initial verifiedAgain) := by
  refine ⟨fun conforms => ?_, fun conforms => ?_, fun conforms => ?_⟩
  · have allowed := conforms ⟨0x04, some 0x04, false, some 0x01⟩ (by decide +kernel) 0x04 rfl
    obtain ⟨keys, keyClass, isSet, -, contained, isKeyOf⟩ := allowed.belongs
    cases isSet
    cases isKeyOf
    exact contained (by decide)
  · have allowed := conforms ⟨0x01, some 0x01, true, some 0x01⟩ (by decide +kernel) 0x01 rfl
    exact absurd (allowed.longRange rfl) (by decide)
  · have verified := conforms
      (.inclusionComplete 0x05, [.verifyReceived 0x01, .verifyReceived 0x01, .reportSent 0x01])
      (by decide +kernel) 0x05 rfl 0x04 ⟨by decide, by decide⟩ (by unfold Contains; decide)
    obtain ⟨after, before, decrypting, whole, -, isReported⟩ := verified
    have inHistory : Entry.reportSent 0x04 ∈
        [Entry.verifyReceived 0x01, .verifyReceived 0x01, .reportSent 0x01] := by
      change [_, _, _] = _ at whole
      rw [whole]
      exact List.mem_append_right _ (List.mem_cons_of_mem _ isReported)
    exact absurd inHistory (by decide)

end Context

end S2Inclusion
