import Zpc.S2.InclusionCompletions

/-!
# The echo of the KEX Set

`validate_echo_kex_set` compares the echo with the fields of the context.  They are those of
the KEX Set as long as no other grant is given before the answer to the public key.
-/

namespace S2Inclusion

open Foundation (StepsMeet run)

/-- An echo has the fields of a KEX Set. -/
def Echoes (bytes : List UInt8) : OutFrame -> Prop
  | .kexSet flags scheme curve keys =>
      bytes.getD 3 0 = scheme ∧ bytes.getD 4 0 = curve ∧ bytes.getD 5 0 = keys ∧
        bytes.getD 2 0 &&& security2CsaOn = flags &&& security2CsaOn
  | _ => False

namespace Context

/-- The fields that a KEX Set is made from and its echo is compared with. -/
def terms (ctx : Context) : UInt8 × UInt8 × UInt8 × InclusionMode :=
  (ctx.schemeSupport, ctx.curveSupport, ctx.keyGranted, ctx.inclusionMode)

/-- The KEX Set that `s2_send_kex_set` makes. -/
def kexSet (ctx : Context) : OutFrame :=
  .kexSet (if ctx.inclusionMode = InclusionMode.csa then security2CsaOn else 0)
    security2Scheme1Support kexReportCurve25519 ctx.keyGranted

/-- The KEX Set of the inclusion after an event: what is in the buffer when the controller begins
to wait for the public key. -/
def kexSetAfter (sent : Option OutFrame) (ctx after : Context) : Option OutFrame :=
  if ctx.inclusionState = .awaitingKeyUserAccept ∧
      after.inclusionState = .awaitingPubKeyB then some after.inclusionBuf
  else sent

variable (tracked : Context × Option OutFrame)

/-- A step, with the KEX Set of the inclusion. -/
def trackKexSet (action : Action) : Context × Option OutFrame :=
  (tracked.1.step action, kexSetAfter tracked.2 tracked.1 (tracked.1.step action))

/-- An echo that is awaited is accepted if it has the fields of the KEX Set of the inclusion,
which fails otherwise. -/
def EchoChecked : Prop :=
  ∀ (frame : ReceivedFrame) (answers : Answers), tracked.1.inclusionState = .awaitingEchoKexSet ->
    frame.isMulticast = false ∧ tracked.1.peerNode = frame.rNode ->
    (tracked.1.withFrame frame).reception answers = .event .echoKexSetRecv ->
    ∃ sent, tracked.2 = some sent ∧
      (Echoes frame.bytes sent ->
        (tracked.1.step (.frame frame answers)).inclusionState = .awaitingNetKeyGet) ∧
      (¬ Echoes frame.bytes sent ->
        (tracked.1.step (.frame frame answers)).inclusionState = .errorSent ∧
        (tracked.1.step (.frame frame answers)).kexFailCode = kexFailAuth ∧
        (tracked.1.step (.frame frame answers)).inclusionBuf = .kexFail kexFailAuth)

/-- A grant in place of the answer to the public key repeats the one before. -/
def GrantRepeated : Action -> Prop
  | .keyGrant true keys csa _ => tracked.1.inclusionState = .awaitingUserAccept ->
      keys = tracked.1.keyGranted ∧
        (if csa then InclusionMode.csa else .ssa) = tracked.1.inclusionMode
  | _ => True

variable {ctx : Context} {sent : Option OutFrame} {event : InclusionEvent}
  {action : TransitionAction}

theorem s2InclusionSend_terms (ctx : Context) (taken : Bool) :
    (ctx.s2InclusionSend taken).terms = ctx.terms ∧
      (ctx.s2InclusionSend taken).inclusionBuf = ctx.inclusionBuf ∧
      (ctx.s2InclusionSend taken).kexFailCode = ctx.kexFailCode := by
  unfold s2InclusionSend
  split
  · unfold frameTaken
    split <;> exact ⟨rfl, rfl, rfl⟩
  · exact ⟨rfl, rfl, rfl⟩

theorem sendFirst_terms (ctx : Context) (frame : OutFrame) (taken : Bool) :
    (ctx.sendFirst frame taken).terms = ctx.terms ∧
      (ctx.sendFirst frame taken).inclusionBuf = frame ∧
      (ctx.sendFirst frame taken).kexFailCode = ctx.kexFailCode :=
  s2InclusionSend_terms { ctx with inclusionBuf := frame, retryCounter := maxRetryCount } taken

theorem eq_of_supported {mask bits : UInt8} (isMask : mask = 0x02 ∨ mask = 0x01)
    (noOther : ¬bits &&& ~~~mask ≠ 0) (isSupported : bits &&& mask ≠ 0) : bits = mask := by
  have onlyMask : ∀ mask ∈ [(0x02 : UInt8), 0x01], ∀ bits : BitVec 8,
      ¬UInt8.ofBitVec bits &&& ~~~mask ≠ 0 -> UInt8.ofBitVec bits &&& mask ≠ 0 ->
        UInt8.ofBitVec bits = mask := by decide +kernel
  exact onlyMask mask (by simpa using isMask) bits.toBitVec noOther isSupported

variable {taken : Bool}

theorem validateReportedSchemes_supports (accepted : (ctx.validateReportedSchemes taken).1 = true) :
    (ctx.validateReportedSchemes taken).2.schemeSupport = security2Scheme1Support := by
  unfold validateReportedSchemes at accepted ⊢
  dsimp only at accepted ⊢
  split at accepted
  · cases accepted
  next noOther =>
    split at accepted
    next isSupported =>
      rw [if_neg noOther, if_pos isSupported]
      exact eq_of_supported (Or.inl rfl) noOther isSupported
    · cases accepted

theorem validateReportedCurves_supports (accepted : (ctx.validateReportedCurves taken).1 = true) :
    (ctx.validateReportedCurves taken).2.schemeSupport = ctx.schemeSupport ∧
      (ctx.validateReportedCurves taken).2.curveSupport = kexReportCurve25519 := by
  unfold validateReportedCurves at accepted ⊢
  dsimp only at accepted ⊢
  split at accepted
  · cases accepted
  next noOther =>
    split at accepted
    next isSupported =>
      rw [if_neg noOther, if_pos isSupported]
      exact ⟨rfl, eq_of_supported (Or.inr rfl) noOther isSupported⟩
    · cases accepted

theorem validateReportedKeys_supports (accepted : (ctx.validateReportedKeys taken).1 = true) :
    (ctx.validateReportedKeys taken).2.schemeSupport = ctx.schemeSupport ∧
      (ctx.validateReportedKeys taken).2.curveSupport = ctx.curveSupport := by
  unfold validateReportedKeys at accepted ⊢
  generalize (if isLrNode ctx.peerNode then _ else _ : UInt8) = keyExchange at accepted ⊢
  dsimp only at accepted ⊢
  split at accepted
  next isGranted =>
    rw [if_pos isGranted]
    exact ⟨rfl, rfl⟩
  · cases accepted

theorem s2KexRepRecv_supports (accepted : (ctx.s2KexRepRecv taken).2 = none) :
    (ctx.s2KexRepRecv taken).1.schemeSupport = security2Scheme1Support ∧
      (ctx.s2KexRepRecv taken).1.curveSupport = kexReportCurve25519 := by
  unfold s2KexRepRecv at accepted ⊢
  dsimp only at accepted ⊢
  split at accepted
  · cases accepted
  next schemes =>
    split at accepted
    · cases accepted
    next curves =>
      split at accepted
      · cases accepted
      next keys =>
        rw [if_neg schemes, if_neg curves, if_neg keys]
        have isScheme := validateReportedSchemes_supports (Bool.of_not_eq_false schemes)
        have isCurve := validateReportedCurves_supports (Bool.of_not_eq_false curves)
        have isKey := validateReportedKeys_supports (Bool.of_not_eq_false keys)
        exact ⟨isKey.1.trans (isCurve.1.trans isScheme), isKey.2.trans isCurve.2⟩

/-- The states between the KEX Set and its echo. -/
def awaitingEcho : List InclusionState :=
  [.awaitingPubKeyB, .awaitingUserAccept, .awaitingEchoKexSet]

/-- The scheme and the curve are those of every KEX Set, and the fields of the context are those
of the KEX Set that was sent. -/
structure KexSetKept (sent : Option OutFrame) (ctx : Context) : Prop where
  /-- Scheme and curve are the only ones there are. -/
  supports : ctx.inclusionState ∈ .awaitingKeyUserAccept :: awaitingEcho ->
    ctx.schemeSupport = security2Scheme1Support ∧ ctx.curveSupport = kexReportCurve25519
  /-- The KEX Set can be rebuilt from the fields. -/
  kexSet : ctx.inclusionState ∈ awaitingEcho -> sent = some ctx.kexSet

theorem KexSetKept.of_outside
    (outside : ctx.inclusionState ∉ .awaitingKeyUserAccept :: awaitingEcho) : KexSetKept sent ctx :=
  ⟨fun inside => absurd inside outside,
    fun inside => absurd (List.mem_cons_of_mem _ inside) outside⟩

variable {before after : Context}

/-- The invariant after an event. -/
def KeptAfter (sent : Option OutFrame) (before after : Context) : Prop :=
  KexSetKept (kexSetAfter sent before after) after

theorem keptAfter_outside
    (outside : after.inclusionState ∉ .awaitingKeyUserAccept :: awaitingEcho) :
    KeptAfter sent before after := .of_outside outside

theorem kexSet_of_terms (sameTerms : after.terms = before.terms) :
    after.schemeSupport = before.schemeSupport ∧ after.curveSupport = before.curveSupport ∧
      after.kexSet = before.kexSet := by
  simp only [terms, Prod.mk.injEq] at sameTerms
  obtain ⟨sameScheme, sameCurve, sameKeys, sameMode⟩ := sameTerms
  refine ⟨sameScheme, sameCurve, ?_⟩
  unfold kexSet
  rw [sameKeys, sameMode]

theorem KexSetKept.of_terms (kept : KexSetKept sent before)
    (inside : after.inclusionState = before.inclusionState ∨ before.inclusionState ∈ awaitingEcho)
    (sameTerms : after.terms = before.terms) : KexSetKept sent after := by
  obtain ⟨sameScheme, sameCurve, sameKexSet⟩ := kexSet_of_terms sameTerms
  constructor
  · intro isAfter
    rw [sameScheme, sameCurve]
    refine kept.supports (inside.elim (fun sameState => ?_) (List.mem_cons_of_mem _))
    rw [← sameState]
    exact isAfter
  · intro isAfter
    rw [sameKexSet]
    refine kept.kexSet (inside.elim (fun sameState => ?_) id)
    rw [← sameState]
    exact isAfter

theorem KexSetKept.keptAfter (kept : KexSetKept sent before)
    (inside : after.inclusionState = before.inclusionState ∨ before.inclusionState ∈ awaitingEcho)
    (sameTerms : after.terms = before.terms) : KeptAfter sent before after := by
  have same : kexSetAfter sent before after = sent := by
    refine if_neg fun ⟨isBefore, isAfter⟩ => ?_
    rw [isBefore, isAfter] at inside
    exact absurd inside (by decide)
  unfold KeptAfter
  rw [same]
  exact kept.of_terms inside sameTerms

theorem KexSetKept.sendKexSet (kept : KexSetKept sent before)
    (isState : before.inclusionState = .awaitingKeyUserAccept)
    (isAfter : after.inclusionState = .awaitingPubKeyB) (sameTerms : after.terms = before.terms)
    (taken : Bool) : KeptAfter sent before (after.sendFirst before.kexSet taken) := by
  obtain ⟨sentTerms, isFrame, -⟩ := sendFirst_terms after before.kexSet taken
  obtain ⟨sameScheme, sameCurve, sameKexSet⟩ := kexSet_of_terms (sentTerms.trans sameTerms)
  have supports := kept.supports (by simp [isState])
  unfold KeptAfter
  constructor
  · intro _
    exact ⟨sameScheme.trans supports.1, sameCurve.trans supports.2⟩
  · intro _
    have sentState := (sendFirst_sent after before.kexSet taken).inclusionState.trans isAfter
    rw [sameKexSet]
    exact (if_pos (And.intro isState sentState)).trans (congrArg some isFrame)

theorem KexSetKept.proceeds (kept : KexSetKept sent ctx) (answers : Answers)
    {newState : InclusionState}
    (known : (ctx.inclusionState, event, action, newState) ∈ progressRows) :
    Outcome (KeptAfter sent ctx) (fun _ => True)
      ({ ctx with inclusionState := newState }.executeAction answers action) := by
  have outside : newState ∉ .awaitingKeyUserAccept :: awaitingEcho ->
      action ∉ [TransitionAction.sendNetKeyReportAction, .inclusionCompleteAction,
        .checkNoKeys] -> Outcome (KeptAfter sent ctx) (fun _ => True)
          ({ ctx with inclusionState := newState }.executeAction answers action) := by
    intro isOutside isQuiet
    obtain ⟨quiet, raised⟩ :=
      quiet_executeAction { ctx with inclusionState := newState } answers isQuiet
    refine outcome_of_raised raised (keptAfter_outside ?_) trivial
    rw [quiet.inclusionState]
    exact isOutside
  have inside : ctx.inclusionState = .awaitingPubKeyB ∨
      ctx.inclusionState = .awaitingUserAccept -> ctx.inclusionState ∈ awaitingEcho := by
    rintro (isState | isState) <;> simp [isState, awaitingEcho]
  simp only [progressRows, List.mem_cons, List.not_mem_nil, or_false, Prod.mk.injEq] at known
  rcases known with ⟨-, -, rfl, rfl⟩ | ⟨-, -, rfl, rfl⟩ | ⟨isState, -, rfl, rfl⟩ |
    ⟨isState, -, rfl, rfl⟩ | ⟨isState, -, rfl, rfl⟩ | ⟨-, -, rfl, rfl⟩ |
    ⟨-, -, rfl, rfl⟩ | ⟨-, -, rfl, rfl⟩ | ⟨-, -, rfl, rfl⟩
  · exact outside (by decide) (by decide)
  · obtain ⟨quiet, nothing | error⟩ := quiet_executeAction
      { ctx with inclusionState := .awaitingKeyUserAccept } answers
      (show TransitionAction.kexRepRecvAction ∉ _ by decide)
    · refine Or.inl ⟨nothing, fun _ => s2KexRepRecv_supports nothing, fun isInside => ?_⟩
      rw [quiet.inclusionState] at isInside
      exact absurd isInside (show InclusionState.awaitingKeyUserAccept ∉ awaitingEcho by decide)
    · exact Or.inr ⟨error, trivial⟩
  · refine Or.inl ⟨rfl, kept.sendKexSet isState ?_ ?_ answers.taken⟩
    all_goals rfl
  · exact Or.inl ⟨rfl, kept.keptAfter (Or.inr (inside (Or.inl isState))) (sendFirst_terms _ _ _).1⟩
  · exact Or.inl ⟨rfl, kept.keptAfter (Or.inr (inside (Or.inr isState))) rfl⟩
  · exact outside (by decide) (by decide)
  · show Outcome _ _ (s2SendNetKeyReport _ answers)
    generalize isNew : ({ ctx with inclusionState := .awaitingNetKeyVerify } : Context) = new
    cases requestable : new.isRequestable (new.byte 2) with
    | true =>
      rw [s2SendNetKeyReport_granted answers requestable]
      refine Or.inl ⟨rfl, keptAfter_outside ?_⟩
      rw [(sendFirst_sent _ _ answers.taken).inclusionState, ← isNew]
      exact show InclusionState.awaitingNetKeyVerify ∉ _ by decide
    | false =>
      rw [s2SendNetKeyReport_refused answers requestable]
      exact Or.inr ⟨rfl, trivial⟩
  all_goals exact outside (by decide) (by decide)

/-- Every event leaves the fields those of the KEX Set sent last. -/
theorem KexSetKept.processEvent (kept : KexSetKept sent ctx) (answers : Answers)
    (event : InclusionEvent) : KeptAfter sent ctx (ctx.processEvent answers event) := by
  have ends : ∀ state : InclusionState, state = .idle ∨ state = .errorSent ->
      state ∉ .awaitingKeyUserAccept :: awaitingEcho := by
    rintro state (rfl | rfl) <;> decide
  refine processEvent_rule (fun _ state isOver _ => keptAfter_outside (ends state isOver))
    (kept.keptAfter (Or.inl rfl) rfl)
    (kept.keptAfter (Or.inl (s2InclusionSend_sent _ _).inclusionState)
      (s2InclusionSend_terms _ _).1)
    (fun state action isOver isError => ?_)
    (fun _ => keptAfter_outside ?_) (fun _ => keptAfter_outside ?_)
    (fun _ _ known => kept.proceeds answers known)
  · obtain ⟨quiet, raised⟩ := quiet_executeAction { ctx with inclusionState := state } answers
      (errorActions_quiet isError)
    refine outcome_of_raised raised (keptAfter_outside ?_) trivial
    rw [quiet.inclusionState]
    exact ends state isOver
  · rw [(s2InclusionComplete_unmoved _ answers.taken).inclusionState]
    exact ends _ (Or.inl rfl)
  · rw [(s2CheckNoKeys_unmoved _ answers.taken).inclusionState]
    exact ends _ (Or.inl rfl)

/-- An event after a change of what the invariant does not speak of. -/
theorem KexSetKept.prepared {prepared : Context} (kept : KexSetKept sent prepared)
    (sameState : prepared.inclusionState = ctx.inclusionState) (answers : Answers)
    (event : InclusionEvent) : KeptAfter sent ctx (prepared.processEvent answers event) := by
  have after := kept.processEvent answers event
  unfold KeptAfter kexSetAfter at after ⊢
  rw [← sameState]
  exact after

theorem KexSetKept.event_of_terms {prepared : Context} (kept : KexSetKept sent ctx)
    (sameState : prepared.inclusionState = ctx.inclusionState)
    (sameTerms : prepared.terms = ctx.terms) (answers : Answers) (event : InclusionEvent) :
    KeptAfter sent ctx (prepared.processEvent answers event) :=
  (kept.of_terms (Or.inl sameState) sameTerms).prepared sameState answers event

theorem KexSetKept.frame (kept : KexSetKept sent ctx) (frame : ReceivedFrame) (answers : Answers) :
    KeptAfter sent ctx (ctx.s2InclusionPostEvent frame answers) := by
  unfold s2InclusionPostEvent s2InclusionPostEventInternal
  split
  · cases (ctx.withFrame frame).reception answers with
    | ignored => exact kept.keptAfter (Or.inl rfl) rfl
    | tooShort => exact kept.event_of_terms (by rfl) (by rfl) answers _
    | notAuthenticated =>
      refine kept.event_of_terms ?_ ?_ answers .inclusionErrorSent
      · exact (inclusionFailedFrameSend_sent _ _ _).inclusionState
      · exact (sendFirst_terms _ _ _).1
    | event event =>
      refine kept.event_of_terms ?_ ?_ answers event
      · exact (recordVerify_sent _ event).inclusionState
      · unfold recordVerify
        split <;> rfl
  · exact kept.keptAfter (Or.inl rfl) rfl

theorem processEvent_aborts
    (isState : ctx.inclusionState = .awaitingPubKeyB ∨ ctx.inclusionState = .awaitingEchoKexSet)
    (answers : Answers) : (ctx.processEvent answers .includingAccept).inclusionState = .idle := by
  unfold processEvent processEventOnce
  rcases isState with isState | isState <;>
    rw [isState] <;> rfl

theorem KexSetKept.granted (kept : KexSetKept sent ctx) {keys : UInt8} {csa : Bool}
    {answers : Answers} (repeated : GrantRepeated (ctx, sent) (.keyGrant true keys csa answers)) :
    KeptAfter sent ctx
      ({ ctx with
          inclusionMode := if csa then .csa else .ssa
          keyGranted := keys }.processEvent answers .includingAccept) := by
  by_cases isWaiting : ctx.inclusionState = .awaitingUserAccept
  · obtain ⟨sameKeys, sameMode⟩ := repeated isWaiting
    refine kept.event_of_terms (by rfl) ?_ answers .includingAccept
    simp only [terms, sameKeys, sameMode]
  by_cases isAwaited : ctx.inclusionState ∈ awaitingEcho
  · refine keptAfter_outside ?_
    rw [processEvent_aborts]
    · decide
    · simpa [awaitingEcho, isWaiting] using isAwaited
  · refine KexSetKept.prepared ?_ (by rfl) answers _
    exact ⟨kept.supports, fun inside => absurd inside isAwaited⟩

/-- A step whose grant repeats the one before keeps the KEX Set. -/
theorem KexSetKept.step (kept : KexSetKept sent ctx) {action : Action}
    (repeated : GrantRepeated (ctx, sent) action) : KeptAfter sent ctx (ctx.step action) := by
  rcases step_prepared ctx action with
    ⟨frame, answers, rfl⟩ | same | ⟨prepared, event, answers, isPrepared, isStep⟩
  · exact kept.frame frame answers
  · rw [same]
    exact kept.keptAfter (Or.inl rfl) rfl
  · rw [isStep]
    cases isPrepared with
    | started isIdle =>
      refine KexSetKept.prepared (.of_outside ?_) (by rfl) answers _
      dsimp only
      rw [isIdle]
      decide
    | granted keys csa _ isGrant =>
      rw [isGrant] at repeated
      exact kept.granted repeated
    | counted => exact kept.event_of_terms (by rfl) (by rfl) answers _

theorem echoes_iff (ctx : Context)
    (supports : ctx.schemeSupport = security2Scheme1Support ∧
      ctx.curveSupport = kexReportCurve25519) :
    (ctx.schemeSupport = ctx.byte 3 ∧ ctx.curveSupport = ctx.byte 4 ∧
      ctx.keyGranted = ctx.byte 5 ∧
      (ctx.inclusionMode = .csa ↔ ctx.byte 2 &&& security2CsaOn = security2CsaOn)) ↔
        Echoes ctx.buf ctx.kexSet := by
  have modes : ∀ bits : BitVec 8, ∀ csa : Bool,
      (csa = true ↔ UInt8.ofBitVec bits &&& security2CsaOn = security2CsaOn) ↔
        UInt8.ofBitVec bits &&& security2CsaOn =
          (if csa then security2CsaOn else 0) &&& security2CsaOn := by decide +kernel
  have isMode := modes (ctx.byte 2).toBitVec (ctx.inclusionMode == .csa)
  simp only [beq_iff_eq] at isMode
  unfold Echoes kexSet
  rw [supports.1, supports.2]
  exact and_congr eq_comm (and_congr eq_comm (and_congr eq_comm isMode))

theorem processEvent_echo (isState : ctx.inclusionState = .awaitingEchoKexSet)
    (supports : ctx.schemeSupport = security2Scheme1Support ∧
      ctx.curveSupport = kexReportCurve25519) (answers : Answers) :
    (Echoes ctx.buf ctx.kexSet ->
        (ctx.processEvent answers .echoKexSetRecv).inclusionState = .awaitingNetKeyGet) ∧
      (¬Echoes ctx.buf ctx.kexSet ->
        (ctx.processEvent answers .echoKexSetRecv).inclusionState = .errorSent ∧
        (ctx.processEvent answers .echoKexSetRecv).kexFailCode = kexFailAuth ∧
        (ctx.processEvent answers .echoKexSetRecv).inclusionBuf = .kexFail kexFailAuth) := by
  have found : findTransition ctx.inclusionState .echoKexSetRecv =
      some ⟨some .awaitingEchoKexSet, some .echoKexSetRecv, .sendEchoKexReportAction,
        some .awaitingNetKeyGet⟩ := by
    rw [isState]
    rfl
  have isEcho := echoes_iff { ctx with inclusionState := .awaitingNetKeyGet } supports
  unfold processEvent
  rw [processEventOnce_moves found rfl]
  dsimp only [executeAction]
  unfold s2SendEchoKexReport validateEchoKexSet
  constructor
  · intro echoes
    rw [if_pos (isEcho.mpr echoes)]
    exact (sendFirst_sent _ _ answers.taken).inclusionState
  · intro different
    rw [if_neg fun same => different (isEcho.mp same)]
    dsimp only
    rw [if_pos rfl]
    dsimp only
    rw [processEventOnce_errorSent, (inclusionFailedFrameSend_sent _ _ _).inclusionState]
    exact ⟨rfl, (sendFirst_terms _ _ _).2.2, (sendFirst_terms _ _ _).2.1⟩

theorem KexSetKept.echoChecked (kept : KexSetKept sent ctx) : EchoChecked (ctx, sent) := by
  intro frame answers isState isPeer received
  have isInside : ctx.inclusionState ∈ awaitingEcho := by
    rw [isState]
    decide
  refine ⟨ctx.kexSet, kept.kexSet isInside, ?_⟩
  have isStep : ctx.step (.frame frame answers) =
      (ctx.withFrame frame).processEvent answers .echoKexSetRecv := by
    show ctx.s2InclusionPostEvent frame answers = _
    unfold s2InclusionPostEvent s2InclusionPostEventInternal
    rw [if_pos isPeer, received]
    rfl
  dsimp only
  rw [isStep]
  refine @processEvent_echo (ctx.withFrame frame) isState ?_ answers
  exact kept.supports (List.mem_cons_of_mem _ isInside)

/-- In every run in which a grant in place of the answer to the public key repeats the one
before, an echo is accepted exactly if it has the fields of the KEX Set that was sent. -/
theorem echoes_checked_of_grantRepeated (actions : List Action)
    (repeated : StepsMeet trackKexSet GrantRepeated (initial, none) actions) :
    ∀ done, done <+: actions -> EchoChecked (run trackKexSet (initial, none) done) := by
  intro done isDone
  have kept := StepsMeet.invariant
    (fun tracked : Context × Option OutFrame => KexSetKept tracked.2 tracked.1)
    (fun tracked _ kept repeated => by exact kept.step repeated) (.of_outside (by decide))
    (repeated.of_isPrefix isDone)
  exact kept.echoChecked

/-- The actions up to the answer to the public key. -/
def answeredTwoKeys : List Action :=
  includedUpTo 2 0x05 ++ [.challengeResponse true (answersOf true)]

theorem echoes_checked_twoKeys :
    StepsMeet trackKexSet GrantRepeated (initial, none) answeredTwoKeys ∧
      EchoChecked (run trackKexSet (initial, none) answeredTwoKeys) :=
  have repeated : StepsMeet trackKexSet GrantRepeated (initial, none) answeredTwoKeys :=
    ⟨trivial, trivial, fun isWaiting => absurd isWaiting (by decide +kernel), trivial, trivial,
      trivial⟩
  ⟨repeated, echoes_checked_of_grantRepeated _ repeated _ (List.prefix_refl _)⟩

/-- After a second grant the echo of the KEX Set that was sent is refused. -/
theorem not_echoes_checked : ¬EchoChecked (run trackKexSet (initial, none)
    (includedUpTo 2 0x01 ++ [.keyGrant true 0x87 false (answersOf true)])) := by
  intro checked
  obtain ⟨sent, isSent, same, -⟩ := checked
    ⟨2, tempKeySecure, false, [0x9F, 0x06, 0x01, 0x02, 0x01, 0x01]⟩ (answersOf true)
    (by decide +kernel) (by decide +kernel) (by decide +kernel)
  have isKexSet : some sent = some (.kexSet 0 0x02 0x01 0x01) :=
    isSent.symm.trans (by decide +kernel)
  obtain rfl := Option.some.inj isKexSet
  exact absurd (same (by unfold Echoes; decide)) (by decide +kernel)

end Context

end S2Inclusion
