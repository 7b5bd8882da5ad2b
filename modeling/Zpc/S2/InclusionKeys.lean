import Zpc.Foundation.Run
import Zpc.S2.InclusionController

/-!
# The network keys of an S2 inclusion

Which rows the tables have for an event, what their actions leave alone, and which network
keys the reports of an inclusion give away.
-/

namespace S2Inclusion

open Foundation (StepsMeet throughout_iff_of_invariant)

/-! ## Classes and keys -/

/-- A mask of one class. -/
def IsKeyClass (keyClass : UInt8) : Prop := keyClass ≠ 0 ∧ keyClass &&& (keyClass - 1) = 0

/-- A field of keys contains a class. -/
def Contains (keys keyClass : UInt8) : Prop := keys &&& keyClass ≠ 0

/-- A network key is that of a class.  The classes of a Long Range peer name its Long Range
keys. -/
inductive KeyOf : Bool -> UInt8 -> UInt8 -> Prop where
  | same (peerIsLr : Bool) (keyClass : UInt8) : KeyOf peerIsLr keyClass keyClass
  | authenticated : KeyOf true keyClassS2Authenticated keyClassS2AuthenticatedLr
  | access : KeyOf true keyClassS2Access keyClassS2AccessLr

/-- A network key belongs to a class of the KEX Set, and is a Long Range key for a Long Range
peer. -/
structure KeyAllowed (peerIsLr : Bool) (kexSetKeys : Option UInt8) (key : UInt8) : Prop where
  belongs : ∃ keys keyClass, kexSetKeys = some keys ∧ IsKeyClass keyClass ∧
    Contains keys keyClass ∧ KeyOf peerIsLr keyClass key
  longRange : peerIsLr = true -> key = keyClassS2AuthenticatedLr ∨ key = keyClassS2AccessLr

/-- The network key in a report, if there is one, is allowed. -/
def Report.Conforms (report : Report) : Prop :=
  ∀ key, report.key = some key -> KeyAllowed report.peerIsLr report.kexSetKeys key

/-- A request of a node is for a key slot that a class of the KEX Set is read from, and for a
Long Range node for one of its two classes. -/
structure RequestGranted (peerNode : Nat) (kexSetKeys : Option UInt8) (requested : UInt8) : Prop
  where
  granted : ∃ keys keyClass, kexSetKeys = some keys ∧ IsKeyClass keyClass ∧
    Contains keys keyClass ∧
    Context.translateKeyslotToReadForLr keyClass peerNode =
      Context.translateKeyslotToReadForLr requested peerNode
  longRange : isLrNode peerNode = true ->
    requested ∈ [keyClassS2Authenticated, keyClassS2Access, keyClassS2AuthenticatedLr,
      keyClassS2AccessLr]

/-! ## The rows of the tables -/

/-- The actions of the rows that end an inclusion with an error. -/
def errorActions : List TransitionAction :=
  [.noAction, .abortAction, .remoteErrorAction, .sendErrorCancelAction, .sendErrorDecryptAction]

/-- The rows that lead from the start of an inclusion to its last frame. -/
def progressRows : List (InclusionState × InclusionEvent × TransitionAction × InclusionState) :=
  [(.idle, .includingStart, .sendKexGetAction, .awaitingKexReport),
    (.awaitingKexReport, .kexReportRecv, .kexRepRecvAction, .awaitingKeyUserAccept),
    (.awaitingKeyUserAccept, .includingAccept, .sendKexSetAction, .awaitingPubKeyB),
    (.awaitingPubKeyB, .pubKeyRecvB, .sendPubKeyAAction, .awaitingUserAccept),
    (.awaitingUserAccept, .includingAccept, .doEcdhCalcAAction, .awaitingEchoKexSet),
    (.awaitingEchoKexSet, .echoKexSetRecv, .sendEchoKexReportAction, .awaitingNetKeyGet),
    (.awaitingNetKeyGet, .netKeyGetRecv, .sendNetKeyReportAction, .awaitingNetKeyVerify),
    (.awaitingNetKeyVerify, .netKeyVerifyFinalRecv, .sendTransferEndAction, .awaitingTransferEnd),
    (.awaitingNetKeyVerify, .netKeyVerifyRecv, .sendTransferEndAction, .awaitingNetKeyGet)]

/-- What the row of an event does: it keeps the state and may send again, it ends the inclusion
with an error or at its last frame, or it proceeds. -/
inductive RowKind (state : InclusionState) (event : InclusionEvent) (row : Transition) : Prop
  where
  | stays
      (newState : row.newState = none)
      (action : row.action ∈ [TransitionAction.noAction, .resendFrameAction, .resendDataAction])
  | fails
      (newState : row.newState = some .idle ∨ row.newState = some .errorSent)
      (action : row.action ∈ errorActions)
  | completes
      (newState : row.newState = some .idle)
      (action : (state, row.action) ∈
        [(InclusionState.awaitingTransferEnd, TransitionAction.inclusionCompleteAction),
          (.awaitingNetKeyGet, .checkNoKeys)])
  | proceeds
      (newState : InclusionState)
      (isNew : row.newState = some newState)
      (known : (state, event, row.action, newState) ∈ progressRows)

theorem findTransition_kind (state : InclusionState) (event : InclusionEvent) :
    ∃ row, findTransition state event = some row ∧ RowKind state event row := by
  cases state <;> cases event <;>
    first
    | exact ⟨_, rfl, .stays rfl (by decide)⟩
    | exact ⟨_, rfl, .fails (by decide) (by decide)⟩
    | exact ⟨_, rfl, .completes rfl (by decide)⟩
    | exact ⟨_, rfl, .proceeds _ rfl (by decide)⟩

namespace Context

/-! ## Sending -/

/-- What sending and telling the event handler leave alone. -/
structure Unmoved (before after : Context) : Prop where
  inclusionState : after.inclusionState = before.inclusionState
  peerNode : after.peerNode = before.peerNode
  keyExchange : after.keyExchange = before.keyExchange
  bufferKey : after.bufferKey = before.bufferKey
  reports : after.reports = before.reports

/-- What sending leaves alone in addition. -/
structure Sent (before after : Context) : Prop extends Unmoved before after where
  keyRequested : after.keyRequested = before.keyRequested
  events : after.events = before.events
  history : before.history <:+ after.history

variable {ctx : Context}

theorem frameTaken_sent (ctx : Context) : Sent ctx ctx.frameTaken := by
  unfold frameTaken
  split
  · exact ⟨⟨rfl, rfl, rfl, rfl, rfl⟩, rfl, rfl, List.suffix_refl _⟩
  · exact ⟨⟨rfl, rfl, rfl, rfl, rfl⟩, rfl, rfl, List.suffix_cons _ _⟩
  · exact ⟨⟨rfl, rfl, rfl, rfl, rfl⟩, rfl, rfl, List.suffix_refl _⟩

theorem s2InclusionSend_sent (ctx : Context) (taken : Bool) :
    Sent ctx (ctx.s2InclusionSend taken) := by
  unfold s2InclusionSend
  split
  · exact { frameTaken_sent ctx with }
  · exact ⟨⟨rfl, rfl, rfl, rfl, rfl⟩, rfl, rfl, List.suffix_refl _⟩

theorem sendFirst_sent (ctx : Context) (frame : OutFrame) (taken : Bool) :
    Sent ctx (ctx.sendFirst frame taken) :=
  { s2InclusionSend_sent
      { ctx with inclusionBuf := frame, retryCounter := maxRetryCount } taken with }

theorem inclusionFailedFrameSend_sent (ctx : Context) (error : UInt8) (taken : Bool) :
    Sent ctx (ctx.inclusionFailedFrameSend error taken) :=
  { sendFirst_sent { ctx with kexFailCode := error } (.kexFail error) taken with }

/-- The buffer holds no KEX Set. -/
def NoKexSet (frame : OutFrame) : Prop := ∀ flags scheme curve keys,
  frame ≠ .kexSet flags scheme curve keys

theorem s2InclusionSend_kexSetKeys (notKexSet : NoKexSet ctx.inclusionBuf) (taken : Bool) :
    (ctx.s2InclusionSend taken).kexSetKeys = ctx.kexSetKeys ∧
      (ctx.s2InclusionSend taken).inclusionBuf = ctx.inclusionBuf := by
  unfold s2InclusionSend
  split
  · unfold frameTaken
    split
    · rename_i isKexSet
      exact absurd isKexSet (notKexSet _ _ _ _)
    all_goals exact ⟨rfl, rfl⟩
  · exact ⟨rfl, rfl⟩

theorem sendFirst_kexSetKeys {frame : OutFrame} (notKexSet : NoKexSet frame) (ctx : Context)
    (taken : Bool) :
    (ctx.sendFirst frame taken).kexSetKeys = ctx.kexSetKeys ∧
      (ctx.sendFirst frame taken).inclusionBuf = frame :=
  @s2InclusionSend_kexSetKeys
    { ctx with inclusionBuf := frame, retryCounter := maxRetryCount } notKexSet taken

/-! ## The outcome of an action -/

/-- An action ends with one property of the context, or raises that an error was sent and ends
with another. -/
def Outcome (holds afterError : Context -> Prop)
    (result : Context × Option InclusionEvent) : Prop :=
  (result.2 = none ∧ holds result.1) ∨ (result.2 = some .inclusionErrorSent ∧ afterError result.1)

theorem processEventOnce_errorSent (ctx : Context) (answers : Answers) :
    ctx.processEventOnce answers .inclusionErrorSent =
      ({ ctx with
          inclusionState := if ctx.inclusionState = .idle then .idle else .errorSent },
        none) := by
  unfold processEventOnce
  cases found : ctx.inclusionState <;> rfl

variable (answers : Answers) {holds afterError : Context -> Prop} {event : InclusionEvent}
  {before after : Context} {action : TransitionAction} {row : Transition} {state : InclusionState}
  {peerNode : Nat}

theorem processEvent_of_outcome {answers : Answers}
    (outcome : Outcome holds afterError (ctx.processEventOnce answers event))
    (ends : ∀ (after : Context) (state : InclusionState),
      state = .idle ∨ state = .errorSent -> afterError after ->
        holds { after with inclusionState := state }) :
    holds (ctx.processEvent answers event) := by
  unfold processEvent
  dsimp only
  rcases outcome with ⟨nothing, isHeld⟩ | ⟨raised, isAfter⟩
  · rw [nothing]
    exact isHeld
  · rw [raised]
    dsimp only
    rw [processEventOnce_errorSent]
    refine ends _ _ ?_ isAfter
    split
    · exact Or.inl rfl
    · exact Or.inr rfl

/-! ## Actions that give no key away and complete nothing -/

/-- Nothing was reported and no completion was told of, in the same state. -/
structure Quiet (before after : Context) : Prop where
  inclusionState : after.inclusionState = before.inclusionState
  reports : after.reports = before.reports
  events : ∀ event ∈ after.events, event ∈ before.events ∨ ∀ keys, event.1 ≠ .inclusionComplete keys

theorem Quiet.refl (ctx : Context) : Quiet ctx ctx := ⟨rfl, rfl, fun _ isEvent => Or.inl isEvent⟩

theorem Quiet.trans {between : Context} (first : Quiet before between)
    (second : Quiet between after) : Quiet before after := by
  refine ⟨second.inclusionState.trans first.inclusionState,
    second.reports.trans first.reports, fun event isEvent => ?_⟩
  rcases second.events event isEvent with isEarlier | isOther
  · exact first.events event isEarlier
  · exact Or.inr isOther

theorem Sent.quiet (sent : Sent before after) : Quiet before after :=
  ⟨sent.inclusionState, sent.reports, fun _ isEvent => Or.inl (sent.events ▸ isEvent)⟩

theorem quiet_notify (ctx : Context) {event : S2Event}
    (isOther : ∀ keys, event ≠ .inclusionComplete keys) : Quiet ctx (ctx.notify event) := by
  refine ⟨rfl, rfl, fun other isOther' => ?_⟩
  rcases List.mem_append.mp isOther' with isEarlier | isNew
  · exact Or.inl isEarlier
  · obtain rfl := List.mem_singleton.mp isNew
    exact Or.inr isOther

theorem quiet_failed (quiet : Quiet before after) (error : UInt8) (taken : Bool) :
    Quiet before (after.inclusionFailedFrameSend error taken) :=
  quiet.trans (inclusionFailedFrameSend_sent after error taken).quiet

theorem quiet_validateReportedSchemes (ctx : Context) (taken : Bool) :
    Quiet ctx (ctx.validateReportedSchemes taken).2 := by
  unfold validateReportedSchemes
  split
  · exact quiet_failed (.refl ctx) _ taken
  · dsimp only
    split
    · exact { Quiet.refl _ with }
    · refine quiet_failed ?_ _ taken
      exact { Quiet.refl _ with }

theorem quiet_validateReportedCurves (ctx : Context) (taken : Bool) :
    Quiet ctx (ctx.validateReportedCurves taken).2 := by
  unfold validateReportedCurves
  split
  · exact quiet_failed (.refl ctx) _ taken
  · dsimp only
    split
    · exact { Quiet.refl _ with }
    · refine quiet_failed ?_ _ taken
      exact { Quiet.refl _ with }

theorem quiet_validateReportedKeys (ctx : Context) (taken : Bool) :
    Quiet ctx (ctx.validateReportedKeys taken).2 := by
  unfold validateReportedKeys
  generalize (if isLrNode ctx.peerNode then _ else _ : UInt8) = keyExchange
  dsimp only
  split
  · exact { Quiet.refl _ with }
  · refine quiet_failed ?_ _ taken
    exact { Quiet.refl _ with }

theorem quiet_s2KexRepRecv (ctx : Context) (taken : Bool) :
    Quiet ctx (ctx.s2KexRepRecv taken).1 ∧
      ((ctx.s2KexRepRecv taken).2 = none ∨
        (ctx.s2KexRepRecv taken).2 = some .inclusionErrorSent) := by
  have schemes := quiet_validateReportedSchemes ctx taken
  have curves := schemes.trans (quiet_validateReportedCurves _ taken)
  have keys := curves.trans (quiet_validateReportedKeys _ taken)
  unfold s2KexRepRecv
  dsimp only
  split
  · exact ⟨schemes, Or.inr rfl⟩
  · split
    · exact ⟨curves, Or.inr rfl⟩
    · split
      · exact ⟨keys, Or.inr rfl⟩
      · refine ⟨keys.trans (Quiet.trans ?_ (quiet_notify _ fun _ => S2Event.noConfusion)),
          Or.inl rfl⟩
        exact { Quiet.refl _ with }

theorem quiet_s2SendEchoKexReport (ctx : Context) (taken : Bool) :
    Quiet ctx (ctx.s2SendEchoKexReport taken).1 ∧
      ((ctx.s2SendEchoKexReport taken).2 = none ∨
        (ctx.s2SendEchoKexReport taken).2 = some .inclusionErrorSent) := by
  unfold s2SendEchoKexReport validateEchoKexSet
  dsimp only
  split
  · split
    · exact ⟨.refl ctx, Or.inr rfl⟩
    · refine ⟨Quiet.trans ?_ (sendFirst_sent _ _ taken).quiet, Or.inl rfl⟩
      exact { Quiet.refl _ with }
  · rw [if_pos rfl]
    exact ⟨quiet_failed (.refl ctx) _ taken, Or.inr rfl⟩

theorem quiet_executeAction (ctx : Context) (answers : Answers)
    (isQuiet : action ∉ [TransitionAction.sendNetKeyReportAction, .inclusionCompleteAction,
      .checkNoKeys]) :
    Quiet ctx (ctx.executeAction answers action).1 ∧
      ((ctx.executeAction answers action).2 = none ∨
        (ctx.executeAction answers action).2 = some .inclusionErrorSent) := by
  cases action with
  | noAction | doEcdhCalcAAction => exact ⟨.refl ctx, Or.inl rfl⟩
  | abortAction | remoteErrorAction =>
    exact ⟨quiet_notify ctx fun _ => S2Event.noConfusion, Or.inl rfl⟩
  | resendFrameAction | resendDataAction => exact ⟨(s2InclusionSend_sent ctx _).quiet, Or.inl rfl⟩
  | sendKexGetAction => exact ⟨(sendFirst_sent ctx _ _).quiet, Or.inl rfl⟩
  | kexRepRecvAction => exact quiet_s2KexRepRecv ctx answers.taken
  | sendKexSetAction | sendTransferEndAction =>
    refine ⟨Quiet.trans ?_ (sendFirst_sent _ _ _).quiet, Or.inl rfl⟩
    exact { Quiet.refl _ with }
  | sendPubKeyAAction =>
    refine ⟨Quiet.trans ?_ (sendFirst_sent _ _ _).quiet, Or.inl rfl⟩
    exact ⟨rfl, rfl, (quiet_notify ctx (by exact fun _ => S2Event.noConfusion)).events⟩
  | sendEchoKexReportAction => exact quiet_s2SendEchoKexReport ctx answers.taken
  | sendErrorCancelAction | sendErrorDecryptAction =>
    exact ⟨quiet_failed (.refl ctx) _ _, Or.inl rfl⟩
  | sendNetKeyReportAction | inclusionCompleteAction | checkNoKeys =>
    exact absurd (by decide) isQuiet

theorem processEventOnce_stays {answers : Answers}
    (found : findTransition ctx.inclusionState event = some row) (newState : row.newState = none) :
    ctx.processEventOnce answers event = ctx.executeAction answers row.action := by
  unfold processEventOnce
  rw [found]
  dsimp only
  rw [newState, Option.getD_none]

theorem processEventOnce_moves {answers : Answers}
    (found : findTransition ctx.inclusionState event = some row)
    (newState : row.newState = some state) :
    ctx.processEventOnce answers event =
      { ctx with inclusionState := state }.executeAction answers row.action := by
  unfold processEventOnce
  rw [found]
  dsimp only
  rw [newState, Option.getD_some]

theorem outcome_of_raised {result : Context × Option InclusionEvent}
    (raised : result.2 = none ∨ result.2 = some .inclusionErrorSent) (isHeld : holds result.1)
    (isAfter : afterError result.1) : Outcome holds afterError result := by
  rcases raised with nothing | error
  · exact Or.inl ⟨nothing, isHeld⟩
  · exact Or.inr ⟨error, isAfter⟩

/-- What an event does to a property, by the kinds of the rows. -/
theorem processEvent_rule {answers : Answers}
    (ends : ∀ (after : Context) (state : InclusionState),
      state = .idle ∨ state = .errorSent -> afterError after ->
        holds { after with inclusionState := state })
    (stays : holds ctx) (resends : holds (ctx.s2InclusionSend answers.taken))
    (fails : ∀ state action, state = .idle ∨ state = .errorSent -> action ∈ errorActions ->
      Outcome holds afterError
        ({ ctx with inclusionState := state }.executeAction answers action))
    (completes : ctx.inclusionState = .awaitingTransferEnd ->
      holds ({ ctx with inclusionState := .idle }.s2InclusionComplete answers.taken))
    (checks : ctx.inclusionState = .awaitingNetKeyGet ->
      holds ({ ctx with inclusionState := .idle }.s2CheckNoKeys answers.taken))
    (proceeds : ∀ action newState,
      (ctx.inclusionState, event, action, newState) ∈ progressRows ->
        Outcome holds afterError
          ({ ctx with inclusionState := newState }.executeAction answers action)) :
    holds (ctx.processEvent answers event) := by
  refine processEvent_of_outcome ?_ ends
  obtain ⟨row, found, kind⟩ := findTransition_kind ctx.inclusionState event
  cases kind with
  | stays newState action =>
    rw [processEventOnce_stays found newState]
    simp only [List.mem_cons, List.not_mem_nil, or_false] at action
    rcases action with isAction | isAction | isAction
    · rw [isAction]
      exact Or.inl ⟨rfl, stays⟩
    all_goals
      rw [isAction]
      exact Or.inl ⟨rfl, resends⟩
  | fails newState action =>
    rcases newState with isNew | isNew
    · rw [processEventOnce_moves found isNew]
      exact fails _ _ (Or.inl rfl) action
    · rw [processEventOnce_moves found isNew]
      exact fails _ _ (Or.inr rfl) action
  | completes newState action =>
    rw [processEventOnce_moves found newState]
    simp only [List.mem_cons, List.not_mem_nil, or_false, Prod.mk.injEq] at action
    rcases action with ⟨isState, isAction⟩ | ⟨isState, isAction⟩
    · rw [isAction]
      exact Or.inl ⟨rfl, completes isState⟩
    · rw [isAction]
      exact Or.inl ⟨rfl, checks isState⟩
  | proceeds newState isNew known =>
    rw [processEventOnce_moves found isNew]
    exact proceeds _ _ known

/-! ## The network keys of the reports -/

/-- The states after the public key of the controller was sent. -/
def afterPublicKey : List InclusionState :=
  [.awaitingUserAccept, .awaitingEchoKexSet, .awaitingNetKeyGet, .awaitingNetKeyVerify,
    .awaitingTransferEnd]

/-- The network key of every report is allowed. -/
def ReportsConform (ctx : Context) : Prop := ∀ report ∈ ctx.reports, report.Conforms

/-- The reports conform, and a network key that is still in the buffer is allowed. -/
structure ReportInvariant (ctx : Context) : Prop where
  /-- The reports so far conform. -/
  conforms : ReportsConform ctx
  /-- A key left in the buffer may be sent. -/
  bufferKey : ctx.inclusionState ∈ afterPublicKey -> ∀ key, ctx.bufferKey = some key ->
    KeyAllowed (isLrNode ctx.peerNode) ctx.kexSetKeys key
  /-- No KEX Set is left in the buffer. -/
  buffer : ctx.inclusionState ∈ afterPublicKey -> NoKexSet ctx.inclusionBuf

theorem ReportInvariant.of_early (conforms : ReportsConform ctx)
    (early : ctx.inclusionState ∉ afterPublicKey) : ReportInvariant ctx :=
  ⟨conforms, fun late => absurd late early, fun late => absurd late early⟩

theorem ReportsConform.of_eq (conforms : ReportsConform before)
    (sameReports : after.reports = before.reports) : ReportsConform after := by
  unfold ReportsConform
  rw [sameReports]
  exact conforms

theorem ReportInvariant.resend (invariant : ReportInvariant ctx) (taken : Bool) :
    ReportInvariant (ctx.s2InclusionSend taken) := by
  have sent := s2InclusionSend_sent ctx taken
  refine ⟨invariant.conforms.of_eq sent.reports, fun late key isKey => ?_, fun late => ?_⟩
  · rw [sent.inclusionState] at late
    rw [sent.bufferKey] at isKey
    rw [sent.peerNode, (s2InclusionSend_kexSetKeys (invariant.buffer late) taken).1]
    exact invariant.bufferKey late key isKey
  · rw [sent.inclusionState] at late
    rw [(s2InclusionSend_kexSetKeys (invariant.buffer late) taken).2]
    exact invariant.buffer late

theorem ReportInvariant.sendFirst {frame : OutFrame} (notKexSet : NoKexSet frame)
    (conforms : ReportsConform ctx)
    (bufferKey : ∀ key, ctx.bufferKey = some key ->
      KeyAllowed (isLrNode ctx.peerNode) ctx.kexSetKeys key)
    (taken : Bool) :
    ReportInvariant (ctx.sendFirst frame taken) := by
  have sent := sendFirst_sent ctx frame taken
  obtain ⟨sameKeys, isFrame⟩ := sendFirst_kexSetKeys notKexSet ctx taken
  refine ⟨conforms.of_eq sent.reports, fun _ key isKey => ?_, fun _ => ?_⟩
  · rw [sent.bufferKey] at isKey
    rw [sent.peerNode, sameKeys]
    exact bufferKey key isKey
  · rw [isFrame]
    exact notKexSet

theorem early_outcome (conforms : ReportsConform ctx) (answers : Answers)
    (early : state ∉ afterPublicKey)
    (isQuiet : action ∉ [TransitionAction.sendNetKeyReportAction, .inclusionCompleteAction,
      .checkNoKeys]) :
    Outcome ReportInvariant ReportsConform
      ({ ctx with inclusionState := state }.executeAction answers action) := by
  obtain ⟨quiet, raised⟩ := quiet_executeAction { ctx with inclusionState := state } answers isQuiet
  have after := conforms.of_eq quiet.reports
  refine outcome_of_raised raised (.of_early after ?_) after
  rw [quiet.inclusionState]
  exact early

theorem errorActions_quiet (isError : action ∈ errorActions) :
    action ∉ [TransitionAction.sendNetKeyReportAction, .inclusionCompleteAction, .checkNoKeys] := by
  revert isError
  cases action <;> decide

theorem s2InclusionComplete_unmoved (ctx : Context) (taken : Bool) :
    Unmoved ctx (ctx.s2InclusionComplete taken) := by
  unfold s2InclusionComplete
  split
  · exact ⟨rfl, rfl, rfl, rfl, rfl⟩
  · exact { (inclusionFailedFrameSend_sent ctx kexFailKeyVerify taken).toUnmoved with }

theorem s2CheckNoKeys_unmoved (ctx : Context) (taken : Bool) :
    Unmoved ctx (ctx.s2CheckNoKeys taken) := by
  unfold s2CheckNoKeys
  split
  · exact ⟨rfl, rfl, rfl, rfl, rfl⟩
  · exact s2InclusionComplete_unmoved ctx taken

theorem ReportInvariant.s2SendPubKeyA (conforms : ReportsConform ctx) (taken : Bool) :
    ReportInvariant (ctx.s2SendPubKeyA taken) := by
  refine .sendFirst ?_ ?_ ?_ taken
  · exact fun _ _ _ _ => OutFrame.noConfusion
  · exact conforms
  · exact fun key isKey => by cases isKey

theorem outcome_s2SendEchoKexReport (conforms : ReportsConform ctx) (taken : Bool) :
    Outcome ReportInvariant ReportsConform (ctx.s2SendEchoKexReport taken) := by
  unfold s2SendEchoKexReport validateEchoKexSet
  dsimp only
  split
  · split
    · exact Or.inr ⟨rfl, conforms⟩
    · refine Or.inl ⟨rfl, .sendFirst ?_ ?_ ?_ taken⟩
      · exact fun _ _ _ _ => OutFrame.noConfusion
      · exact conforms
      · exact fun key isKey => by cases isKey
  · rw [if_pos rfl]
    refine Or.inr ⟨rfl, ?_⟩
    exact conforms.of_eq (inclusionFailedFrameSend_sent ctx kexFailAuth taken).reports

theorem ReportInvariant.s2SendTransferEnd (invariant : ReportInvariant ctx)
    (late : ctx.inclusionState ∈ afterPublicKey) (state : InclusionState) (taken : Bool) :
    ReportInvariant ({ ctx with inclusionState := state }.s2SendTransferEnd taken) := by
  refine .sendFirst ?_ ?_ ?_ taken
  · exact fun _ _ _ _ => OutFrame.noConfusion
  · exact invariant.conforms
  · exact invariant.bufferKey late

theorem ReportInvariant.proceeds (invariant : ReportInvariant ctx) (answers : Answers)
    {newState : InclusionState}
    (known : (ctx.inclusionState, event, action, newState) ∈ progressRows)
    (notRequest : ¬(ctx.inclusionState = .awaitingNetKeyGet ∧ event = .netKeyGetRecv)) :
    Outcome ReportInvariant ReportsConform
      ({ ctx with inclusionState := newState }.executeAction answers action) := by
  simp only [progressRows, List.mem_cons, List.not_mem_nil, or_false, Prod.mk.injEq] at known
  rcases known with ⟨-, -, rfl, rfl⟩ | ⟨-, -, rfl, rfl⟩ | ⟨-, -, rfl, rfl⟩ |
    ⟨-, -, rfl, rfl⟩ | ⟨isState, -, rfl, rfl⟩ | ⟨-, -, rfl, rfl⟩ |
    ⟨isState, isEvent, -, -⟩ | ⟨isState, -, rfl, rfl⟩ | ⟨isState, -, rfl, rfl⟩
  · exact early_outcome invariant.conforms answers (by decide) (by decide)
  · exact early_outcome invariant.conforms answers (by decide) (by decide)
  · exact early_outcome invariant.conforms answers (by decide) (by decide)
  · refine Or.inl ⟨rfl, .s2SendPubKeyA ?_ answers.taken⟩
    exact invariant.conforms
  · have late : ctx.inclusionState ∈ afterPublicKey := by
      rw [isState]
      decide
    exact Or.inl ⟨rfl, invariant.conforms, fun _ => invariant.bufferKey late,
      fun _ => invariant.buffer late⟩
  · refine outcome_s2SendEchoKexReport ?_ answers.taken
    exact invariant.conforms
  · exact absurd ⟨isState, isEvent⟩ notRequest
  all_goals
    refine Or.inl ⟨rfl, invariant.s2SendTransferEnd ?_ _ answers.taken⟩
    rw [isState]
    decide

theorem ReportInvariant.of_unmoved (conforms : ReportsConform ctx)
    (unmoved : Unmoved { ctx with inclusionState := .idle } after) : ReportInvariant after := by
  refine .of_early (conforms.of_eq unmoved.reports) ?_
  rw [unmoved.inclusionState]
  exact show InclusionState.idle ∉ afterPublicKey by decide

theorem reportInvariant_over (after : Context) (state : InclusionState)
    (isOver : state = .idle ∨ state = .errorSent) (conforms : ReportsConform after) :
    ReportInvariant { after with inclusionState := state } := by
  have early : state ∉ afterPublicKey := by
    rcases isOver with rfl | rfl <;> decide
  exact .of_early conforms early

/-- Every event other than a key request keeps the invariant. -/
theorem ReportInvariant.processEvent (invariant : ReportInvariant ctx) (answers : Answers)
    (event : InclusionEvent)
    (notRequest : ¬(ctx.inclusionState = .awaitingNetKeyGet ∧ event = .netKeyGetRecv)) :
    ReportInvariant (ctx.processEvent answers event) := by
  refine processEvent_rule reportInvariant_over invariant (invariant.resend answers.taken)
    (fun state action isOver isError =>
      early_outcome invariant.conforms answers ?_ (errorActions_quiet isError))
    (fun _ => .of_unmoved invariant.conforms (s2InclusionComplete_unmoved _ answers.taken))
    (fun _ => .of_unmoved invariant.conforms (s2CheckNoKeys_unmoved _ answers.taken))
    (fun _ _ known => invariant.proceeds answers known notRequest)
  rcases isOver with rfl | rfl <;> decide

/-! ## Network Key Gets -/

theorem keyOf_translate (keyClass : UInt8) (peerNode : Nat) :
    KeyOf (isLrNode peerNode) keyClass (translateKeyslotToReadForLr keyClass peerNode) := by
  unfold translateKeyslotToReadForLr
  split
  · rename_i isLr
    rw [isLr]
    split
    · rename_i isAuthenticated
      rw [isAuthenticated]
      exact .authenticated
    · split
      · rename_i isAccess
        rw [isAccess]
        exact .access
      · exact .same _ keyClass
  · exact .same _ keyClass

theorem translate_of_keyOf {keyClass requested : UInt8}
    (isKeyOf : KeyOf (isLrNode peerNode) keyClass
      (translateKeyslotToReadForLr requested peerNode)) :
    translateKeyslotToReadForLr keyClass peerNode =
      translateKeyslotToReadForLr requested peerNode := by
  generalize isSlot : translateKeyslotToReadForLr requested peerNode = slot at isKeyOf
  unfold translateKeyslotToReadForLr at isSlot ⊢
  cases isLr : isLrNode peerNode with
  | false =>
    rw [isLr] at isKeyOf
    cases isKeyOf
    rfl
  | true =>
    rw [isLr] at isKeyOf isSlot
    cases isKeyOf with
    | same =>
      simp only [if_true] at isSlot ⊢
      revert isSlot
      split
      · rintro rfl
        decide
      · split
        · rintro rfl
          decide
        · rintro rfl
          rw [if_neg ‹_›, if_neg ‹_›]
    | authenticated | access => rfl

theorem longRange_translate_iff (isLr : isLrNode peerNode = true) (requested : UInt8) :
    (translateKeyslotToReadForLr requested peerNode = keyClassS2AuthenticatedLr ∨
        translateKeyslotToReadForLr requested peerNode = keyClassS2AccessLr) ↔
      requested ∈ [keyClassS2Authenticated, keyClassS2Access, keyClassS2AuthenticatedLr,
        keyClassS2AccessLr] := by
  unfold translateKeyslotToReadForLr
  rw [isLr, if_pos rfl]
  split
  · rename_i isAuthenticated
    simp [isAuthenticated]
  · split
    · rename_i isAccess
      simp [isAccess]
    · rename_i notAuthenticated notAccess
      simp [notAuthenticated, notAccess]

theorem keyAllowed_translate_iff (peerNode : Nat) (kexSetKeys : Option UInt8) (requested : UInt8) :
    KeyAllowed (isLrNode peerNode) kexSetKeys (translateKeyslotToReadForLr requested peerNode) ↔
      RequestGranted peerNode kexSetKeys requested := by
  constructor
  · rintro ⟨⟨keys, keyClass, isSet, isKeyClass, contained, isKeyOf⟩, longRange⟩
    exact ⟨⟨keys, keyClass, isSet, isKeyClass, contained, translate_of_keyOf isKeyOf⟩,
      fun isLr => (longRange_translate_iff isLr requested).mp (longRange isLr)⟩
  · rintro ⟨⟨keys, keyClass, isSet, isKeyClass, contained, sameSlot⟩, longRange⟩
    refine ⟨⟨keys, keyClass, isSet, isKeyClass, contained, ?_⟩,
      fun isLr => (longRange_translate_iff isLr requested).mpr (longRange isLr)⟩
    rw [← sameSlot]
    exact keyOf_translate keyClass peerNode

/-- A Network Key Get is answered with a key that is assigned. -/
def KeyRead (ctx : Context) (answers : Answers) : Prop :=
  ctx.isRequestable (ctx.byte 2) = true ∧
    translateKeyslotToReadForLr (ctx.byte 2) ctx.peerNode &&& answers.assignedKeys ≠ 0

/-- The report of a Network Key Get. -/
def requestedReport (ctx : Context) (answers : Answers) : Report where
  grantKey := ctx.byte 2
  key := keystoreNetworkKeyRead answers.assignedKeys
    (translateKeyslotToReadForLr (ctx.byte 2) ctx.peerNode) ctx.bufferKey
  peerIsLr := isLrNode ctx.peerNode
  kexSetKeys := ctx.kexSetKeys

theorem requestedReport_conforms_iff (invariant : ReportInvariant ctx)
    (late : ctx.inclusionState ∈ afterPublicKey) {answers : Answers}
    (requestable : ctx.isRequestable (ctx.byte 2) = true) :
    (ctx.requestedReport answers).Conforms ↔
      (ctx.KeyRead answers -> RequestGranted ctx.peerNode ctx.kexSetKeys (ctx.byte 2)) := by
  unfold Report.Conforms requestedReport KeyRead keystoreNetworkKeyRead
  split
  · rename_i unassigned
    exact ⟨fun _ isRead => absurd unassigned isRead.2, fun _ => invariant.bufferKey late⟩
  · rename_i assigned
    rw [← keyAllowed_translate_iff]
    constructor
    · exact fun conforms _ => conforms _ rfl
    · rintro granted key ⟨⟩
      exact granted ⟨requestable, assigned⟩

theorem s2SendNetKeyReport_granted (requestable : ctx.isRequestable (ctx.byte 2) = true) :
    ctx.s2SendNetKeyReport answers =
      ({ ctx with
          keyRequested := ctx.byte 2
          keyExchange := ctx.keyExchange ||| ctx.byte 2
          bufferKey := (ctx.requestedReport answers).key
          peerClassId := tempKeySecure
          reports := ctx.reports ++ [ctx.requestedReport answers] }.sendFirst
        (.networkKeyReport (ctx.byte 2) (ctx.requestedReport answers).key)
        answers.taken, none) := by
  unfold s2SendNetKeyReport validateRequestedKey
  rw [requestable]
  rfl

theorem s2SendNetKeyReport_refused (notRequestable : ctx.isRequestable (ctx.byte 2) = false) :
    ctx.s2SendNetKeyReport answers =
      ({ ctx with keyRequested := 0 }.inclusionFailedFrameSend kexFailKeyGet answers.taken,
        some .inclusionErrorSent) := by
  unfold s2SendNetKeyReport validateRequestedKey
  rw [notRequestable]
  rfl

theorem processEventOnce_netKeyGet (isState : ctx.inclusionState = .awaitingNetKeyGet)
    (answers : Answers) :
    ctx.processEventOnce answers .netKeyGetRecv =
      { ctx with inclusionState := .awaitingNetKeyVerify }.s2SendNetKeyReport answers := by
  have found : findTransition ctx.inclusionState .netKeyGetRecv =
      some ⟨some .awaitingNetKeyGet, some .netKeyGetRecv, .sendNetKeyReportAction,
        some .awaitingNetKeyVerify⟩ := by
    rw [isState]
    rfl
  exact processEventOnce_moves found rfl

theorem reportsConform_netKeyGet_iff (invariant : ReportInvariant ctx)
    (isState : ctx.inclusionState = .awaitingNetKeyGet) (answers : Answers) :
    ReportsConform (ctx.processEvent answers .netKeyGetRecv) ↔
      (ctx.KeyRead answers -> RequestGranted ctx.peerNode ctx.kexSetKeys (ctx.byte 2)) := by
  have late : ctx.inclusionState ∈ afterPublicKey := by
    rw [isState]
    decide
  unfold processEvent
  rw [processEventOnce_netKeyGet isState]
  cases requestable : ctx.isRequestable (ctx.byte 2) with
  | true =>
    rw [@s2SendNetKeyReport_granted { ctx with inclusionState := .awaitingNetKeyVerify }
      answers requestable, ← requestedReport_conforms_iff invariant late requestable]
    have reports : ∀ sent taken (after : Context),
        (after.sendFirst sent taken).reports = after.reports :=
      fun sent taken after => (sendFirst_sent after sent taken).reports
    unfold ReportsConform
    rw [reports, List.forall_mem_append, List.forall_mem_singleton]
    exact ⟨fun both => both.2, fun conforms => ⟨invariant.conforms, conforms⟩⟩
  | false =>
    rw [@s2SendNetKeyReport_refused { ctx with inclusionState := .awaitingNetKeyVerify }
      answers requestable]
    dsimp only
    rw [processEventOnce_errorSent]
    refine ⟨fun _ isRead => ?_, fun _ => ?_⟩
    · rw [isRead.1] at requestable
      exact absurd requestable (by decide)
    · exact invariant.conforms.of_eq (inclusionFailedFrameSend_sent _ _ _).reports

theorem ReportInvariant.netKeyGet (invariant : ReportInvariant ctx)
    (isState : ctx.inclusionState = .awaitingNetKeyGet) (answers : Answers)
    (conforms : ReportsConform (ctx.processEvent answers .netKeyGetRecv)) :
    ReportInvariant (ctx.processEvent answers .netKeyGetRecv) := by
  have late : ctx.inclusionState ∈ afterPublicKey := by
    rw [isState]
    decide
  refine processEvent_of_outcome ?_ reportInvariant_over
  have isGranted := (reportsConform_netKeyGet_iff invariant isState answers).mp conforms
  rw [processEventOnce_netKeyGet isState]
  cases requestable : ctx.isRequestable (ctx.byte 2) with
  | true =>
    rw [@s2SendNetKeyReport_granted { ctx with inclusionState := .awaitingNetKeyVerify }
      answers requestable]
    have reportConforms := (requestedReport_conforms_iff invariant late requestable).mpr isGranted
    refine Or.inl ⟨rfl, .sendFirst ?_ ?_ ?_ answers.taken⟩
    · exact fun _ _ _ _ => OutFrame.noConfusion
    · exact List.forall_mem_append.mpr
        ⟨invariant.conforms, List.forall_mem_singleton.mpr reportConforms⟩
    · exact reportConforms
  | false =>
    rw [@s2SendNetKeyReport_refused { ctx with inclusionState := .awaitingNetKeyVerify }
      answers requestable]
    refine Or.inr ⟨rfl, ?_⟩
    exact invariant.conforms.of_eq (inclusionFailedFrameSend_sent _ _ _).reports

/-! ## Steps -/

/-- A frame of the peer is a Network Key Get that is answered with an assigned key. -/
structure Requests (ctx : Context) (frame : ReceivedFrame) (answers : Answers) : Prop where
  singlecast : frame.isMulticast = false
  fromPeer : ctx.peerNode = frame.rNode
  awaited : ctx.inclusionState = .awaitingNetKeyGet
  accepted : (ctx.withFrame frame).reception answers = .event .netKeyGetRecv
  isRead : (ctx.withFrame frame).KeyRead answers

/-- A Network Key Get that is answered with a key was granted by the KEX Set. -/
def RequestOrderly (ctx : Context) : Action -> Prop
  | .frame frame answers => ctx.Requests frame answers ->
      RequestGranted ctx.peerNode ctx.kexSetKeys ((ctx.withFrame frame).byte 2)
  | _ => True

theorem ReportInvariant.failedFrame (invariant : ReportInvariant ctx) (error : UInt8)
    (taken : Bool) :
    ReportInvariant (ctx.inclusionFailedFrameSend error taken) := by
  by_cases late : ctx.inclusionState ∈ afterPublicKey
  · refine .sendFirst ?_ ?_ ?_ taken
    · exact fun _ _ _ _ => OutFrame.noConfusion
    · exact invariant.conforms
    · exact invariant.bufferKey late
  · have sent := inclusionFailedFrameSend_sent ctx error taken
    refine .of_early (invariant.conforms.of_eq sent.reports) ?_
    rw [sent.inclusionState]
    exact late

theorem ReportInvariant.recordVerify (invariant : ReportInvariant ctx) (event : InclusionEvent) :
    ReportInvariant (ctx.recordVerify event) := by
  unfold Context.recordVerify
  split
  · exact ⟨invariant.conforms, invariant.bufferKey, invariant.buffer⟩
  · exact invariant

theorem ReportInvariant.withFrame (invariant : ReportInvariant ctx) (frame : ReceivedFrame) :
    ReportInvariant (ctx.withFrame frame) :=
  ⟨invariant.conforms, invariant.bufferKey, invariant.buffer⟩

theorem recordVerify_netKeyGet (ctx : Context) : ctx.recordVerify .netKeyGetRecv = ctx := by
  exact if_neg (by decide)

theorem ReportInvariant.frame (invariant : ReportInvariant ctx) (frame : ReceivedFrame)
    (answers : Answers) :
    (ReportsConform (ctx.s2InclusionPostEvent frame answers) ↔
        RequestOrderly ctx (.frame frame answers)) ∧
      (ReportsConform (ctx.s2InclusionPostEvent frame answers) ->
        ReportInvariant (ctx.s2InclusionPostEvent frame answers)) := by
  have kept : ∀ {after : Context}, ReportInvariant after -> ¬ctx.Requests frame answers ->
      (ReportsConform after ↔ RequestOrderly ctx (.frame frame answers)) ∧
        (ReportsConform after -> ReportInvariant after) :=
    fun isKept noRequest =>
      ⟨⟨fun _ isRequest => absurd isRequest noRequest, fun _ => isKept.conforms⟩, fun _ => isKept⟩
  have framed := invariant.withFrame frame
  unfold s2InclusionPostEvent s2InclusionPostEventInternal
  split
  · rename_i isFrame
    cases received : (ctx.withFrame frame).reception answers with
    | ignored =>
      refine kept framed fun isRequest => ?_
      exact Reception.noConfusion (received.symm.trans isRequest.accepted)
    | tooShort =>
      refine kept (framed.processEvent answers _ fun both => nomatch both.2) fun isRequest => ?_
      exact Reception.noConfusion (received.symm.trans isRequest.accepted)
    | notAuthenticated =>
      refine kept ((framed.failedFrame _ _).processEvent answers _ fun both => nomatch both.2)
        fun isRequest => ?_
      exact Reception.noConfusion (received.symm.trans isRequest.accepted)
    | event event =>
      dsimp only
      by_cases isRequest : ctx.inclusionState = .awaitingNetKeyGet ∧ event = .netKeyGetRecv
      · obtain ⟨isState, rfl⟩ := isRequest
        rw [recordVerify_netKeyGet, reportsConform_netKeyGet_iff framed isState]
        refine ⟨⟨fun granted isRequest => granted isRequest.isRead, fun orderly isRead => ?_⟩,
          fun granted => framed.netKeyGet isState answers
            ((reportsConform_netKeyGet_iff framed isState answers).mpr granted)⟩
        exact orderly ⟨isFrame.1, isFrame.2, isState, received, isRead⟩
      · have recorded := framed.recordVerify event
        have sameState : ((ctx.withFrame frame).recordVerify event).inclusionState =
            ctx.inclusionState := by
          unfold Context.recordVerify
          split <;> rfl
        refine kept (recorded.processEvent answers event ?_) fun requests => ?_
        · rw [sameState]
          exact isRequest
        · have isEvent := received.symm.trans requests.accepted
          exact isRequest ⟨requests.awaited, Reception.event.inj isEvent⟩
  · rename_i notFrame
    exact kept invariant fun isRequest => notFrame ⟨isRequest.singlecast, isRequest.fromPeer⟩

/-- What an action other than a frame changes before its event is handled. -/
inductive Prepared (ctx : Context) (action : Action) : Context -> InclusionEvent -> Prop where
  | started (isIdle : ctx.inclusionState = .idle) (rNode : Nat) :
      Prepared ctx action
        { ctx with
          peerNode := rNode
          inclusionMode := .ssa
          kexFailCode := 0
          kexSetKeys := none
          history := [] }
        .includingStart
  | granted
      (keys : UInt8)
      (csa : Bool)
      (answers : Answers)
      (isGrant : action = .keyGrant true keys csa answers) :
      Prepared ctx action
        { ctx with
          inclusionMode := if csa then .csa else .ssa
          keyGranted := keys }
        .includingAccept
  | counted
      (retryCounter : UInt8)
      (event : InclusionEvent)
      (noKey : event ∉ [InclusionEvent.netKeyGetRecv, .netKeyVerifyRecv, .netKeyVerifyFinalRecv]) :
      Prepared ctx action { ctx with retryCounter := retryCounter } event

/-- A step takes a frame, does nothing, or processes one event. -/
theorem step_prepared (ctx : Context) (action : Action) :
    (∃ frame answers, action = .frame frame answers) ∨ ctx.step action = ctx ∨
      ∃ prepared event answers, Prepared ctx action prepared event ∧
        ctx.step action = prepared.processEvent answers event := by
  have counted : ∀ (event : InclusionEvent) (answers : Answers),
      event ∉ [InclusionEvent.netKeyGetRecv, .netKeyVerifyRecv, .netKeyVerifyFinalRecv] ->
        ∃ prepared same answers', Prepared ctx action prepared same ∧
          ctx.processEvent answers event = prepared.processEvent answers' same :=
    fun event answers noKey => ⟨_, _, answers, .counted ctx.retryCounter event noKey, rfl⟩
  cases action with
  | includingStart rNode answers =>
    by_cases isIdle : ctx.inclusionState = .idle
    · exact Or.inr (Or.inr ⟨_, _, answers, .started isIdle rNode, if_pos isIdle⟩)
    · exact Or.inr (Or.inl (if_neg isIdle))
  | keyGrant accept keys csa answers =>
    cases accept with
    | true => exact Or.inr (Or.inr ⟨_, _, answers, .granted keys csa answers rfl, rfl⟩)
    | false => exact Or.inr (Or.inr (counted .includingReject answers (by decide)))
  | challengeResponse accept answers =>
    exact Or.inr (Or.inr (counted _ answers (by cases accept <;> decide)))
  | abort answers => exact Or.inr (Or.inr (counted .includingReject answers (by decide)))
  | frame frame answers => exact Or.inl ⟨frame, answers, rfl⟩
  | decryptionFailure rNode answers =>
    by_cases isPeer : rNode = ctx.peerNode
    · rw [show ctx.step (.decryptionFailure rNode answers) = _ from if_pos isPeer]
      exact Or.inr (Or.inr (counted .includingDecryptFailed answers (by decide)))
    · exact Or.inr (Or.inl (if_neg isPeer))
  | timeout answers => exact Or.inr (Or.inr (counted .inclusionTimeout answers (by decide)))
  | sendDone status answers =>
    refine Or.inr (Or.inr ?_)
    show ∃ prepared event answers', _ ∧ ctx.s2InclusionSendDone status answers = _
    unfold s2InclusionSendDone
    split
    · exact ⟨_, _, answers, .counted maxRetryCount .inclusionRetry (by decide), rfl⟩
    · split <;> exact counted _ answers (by cases status <;> decide)

/-- The reports conform after a step exactly if its request is orderly. -/
theorem ReportInvariant.step (invariant : ReportInvariant ctx) (action : Action) :
    (ReportsConform (ctx.step action) ↔ RequestOrderly ctx action) ∧
      (ReportsConform (ctx.step action) -> ReportInvariant (ctx.step action)) := by
  by_cases isFrame : ∃ frame answers, action = .frame frame answers
  · obtain ⟨frame, answers, rfl⟩ := isFrame
    exact invariant.frame frame answers
  · have orderly : RequestOrderly ctx action := by
      cases action with
      | frame frame answers => exact absurd ⟨frame, answers, rfl⟩ isFrame
      | _ => trivial
    suffices kept : ReportInvariant (ctx.step action) from
      ⟨⟨fun _ => orderly, fun _ => kept.conforms⟩, fun _ => kept⟩
    rcases (step_prepared ctx action).resolve_left isFrame with
      same | ⟨prepared, event, answers, isPrepared, isStep⟩
    · rw [same]
      exact invariant
    · rw [isStep]
      cases isPrepared with
      | started isIdle =>
        refine ReportInvariant.processEvent (.of_early ?_ ?_) answers _ fun both => nomatch both.2
        · exact invariant.conforms
        · dsimp only
          rw [isIdle]
          decide
      | granted =>
        refine ReportInvariant.processEvent ?_ answers _ fun both => nomatch both.2
        exact ⟨invariant.conforms, invariant.bufferKey, invariant.buffer⟩
      | counted _ _ noKey =>
        refine ReportInvariant.processEvent ?_ answers _ fun both => noKey (by simp [both.2])
        exact ⟨invariant.conforms, invariant.bufferKey, invariant.buffer⟩

end Context

end S2Inclusion
