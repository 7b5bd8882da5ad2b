import Zpc.Foundation.FiniteMap
import Zpc.Foundation.Run
import Zpc.S2.Transport

/-!
# Aborted sends of the S2 transport

Every accepted send has its callback invoked once.  A completion of an aborted send reaches
libS2 as that of a later send, and an abort reaches libS2 without a send to abort, exactly in
the steps named here.
-/

namespace S2Transport

open Foundation (StepsMeet throughout_iff_of_invariant)

/-- The callback of a send, with its user pointer. -/
def requestedCallback (session : Option Accepted) :
    Option (ZwaveTx.CallbackFunction × ZwaveTx.UserPointer) :=
  session.bind fun accepted => accepted.onSendComplete.map fun callback => (callback, accepted.user)

namespace System

/-- The callback that is kept for the send in progress. -/
def pending (sys : System) : Option (ZwaveTx.CallbackFunction × ZwaveTx.UserPointer) :=
  sys.state.s2SendCallback.map fun callback => (callback, sys.state.s2SendUser)

/-- The callbacks that were invoked. -/
def invoked (sys : System) : List (ZwaveTx.CallbackFunction × ZwaveTx.UserPointer) :=
  sys.invocations.map fun invocation => (invocation.callback, invocation.user)

/-- The frame of an aborted send was not taken for one of a later send. -/
def NotMixed (forward : Forward) : Prop :=
  forward.aborted = true -> ∀ session during, forward.session = some session ->
    forward.during = some during -> ¬session < during

/-- The callbacks of the accepted sends were invoked once each and in their order, apart from
that of the send in progress; no completion of an aborted send was taken for one of a later
send; and aborts reached libS2 only for the send in progress. -/
structure Conforms (sys : System) : Prop where
  /-- Callbacks come once each, in the order of the sends. -/
  calledOnce : sys.invoked ++ sys.pending.toList = sys.sessions.filterMap requestedCallback
  /-- None is pending without a send. -/
  ended : sys.current = none -> sys.pending = none
  /-- No completion went to a later send. -/
  forwarded : ∀ forward ∈ sys.forwarded, NotMixed forward
  /-- Aborts reached only their own send. -/
  touched : ∀ touch ∈ sys.touches, touch.inProgress = some touch.sessionId

/-- The completed frame of an aborted send finds no later send in progress, or carries a tag
and an inclusion was started since it was queued (and not a multiple of 256 of them); the
parent session that is remembered when it is aborted is that of the send in progress. -/
def Orderly (sys : System) : Action -> Prop
  | .txComplete number _ _ _ =>
      ∀ frame, sys.outstanding.lookup number = some frame ->
        ∀ session, frame.session = some session -> session ∈ sys.aborted ->
          sys.current.isSome ->
            (∃ generation, frame.user = .generationTag generation) ∧
              frame.inclusions % 256 ≠ sys.inclusionsStarted % 256
  | .abortSendData sessionId _ =>
      sys.state.parentSessionId = sessionId -> sys.inProgress = some sessionId
  | _ => True

/-- What a frame in the TX queue carries. -/
structure FrameInvariant (sessions : Nat) (frame : TxFrame) : Prop where
  session : ∀ session, frame.session = some session -> session < sessions
  tag : ∀ generation, frame.user = .generationTag generation -> generation = frame.inclusions % 256

/-- What holds in every state, while a callback is held back or with none. -/
structure Invariant
    (held : Option (ZwaveTx.CallbackFunction × ZwaveTx.UserPointer))
    (sys : System) : Prop where
  /-- The callbacks made, held back and pending are those asked for. -/
  called : sys.invoked ++ (held.toList ++ sys.pending.toList) =
    sys.sessions.filterMap requestedCallback
  /-- With one held back none is pending. -/
  heldFree : held.isSome -> sys.pending = none
  /-- Without a send none is pending. -/
  ended : sys.current = none -> sys.pending = none
  /-- The current send is the last one taken. -/
  last : ∀ number, sys.current = some number -> number + 1 = sys.sessions.length
  /-- An aborted send was taken and is not current. -/
  aborted : ∀ number ∈ sys.aborted, number < sys.sessions.length ∧ sys.current ≠ some number
  /-- Queued frames belong to sends that were taken. -/
  frames : ∀ entry ∈ sys.outstanding, FrameInvariant sys.sessions.length entry.2
  /-- The tag counts the inclusions modulo 256. -/
  generation : sys.state.abortGeneration = sys.inclusionsStarted % 256

variable
  {held : Option (ZwaveTx.CallbackFunction × ZwaveTx.UserPointer)}
  {sys : System}

theorem invariant_initial : Invariant none initial where
  called := rfl
  heldFree isHeld := by cases isHeld
  ended _ := rfl
  last _ isCurrent := by cases isCurrent
  aborted _ isAborted := by cases isAborted
  frames _ isOutstanding := by cases isOutstanding
  generation := rfl

variable (state : SessionState) {frame : TxFrame}

theorem Invariant.queueFrame (invariant : Invariant held sys)
    (isCurrent : frame.session = sys.current)
    (tagged : ∀ generation, frame.user = .generationTag generation ->
      generation = sys.state.abortGeneration)
    (inclusions : frame.inclusions = sys.inclusionsStarted)
    (queued : Bool) :
    Invariant held (sys.queueFrame frame queued) := by
  unfold System.queueFrame
  split
  · refine { invariant with frames := ?_ }
    intro entry isEntry
    rcases List.mem_cons.mp isEntry with rfl | isOlder
    · refine ⟨fun session isSession => ?_, fun generation isTag => ?_⟩
      · have counted := invariant.last session (isCurrent.symm.trans isSession)
        show session < sys.sessions.length
        omega
      · show generation = frame.inclusions % 256
        rw [tagged generation isTag, inclusions, invariant.generation]
    · exact invariant.frames entry isOlder
  · exact invariant

theorem frameUser_tagged (generation : Nat) (isTag : frameUser state = .generationTag generation) :
    generation = state.abortGeneration := by
  unfold frameUser at isTag
  split at isTag
  all_goals
    split at isTag
    · cases isTag
      rfl
    · cases isTag

theorem frameUserMulti_tagged (generation : Nat)
    (isTag : frameUserMulti state = .generationTag generation) :
    generation = state.abortGeneration := by
  unfold frameUserMulti at isTag
  split at isTag
  · cases isTag
    rfl
  · cases isTag

theorem Invariant.sendDone (invariant : Invariant held sys) (status : S2TxStatus) :
    Invariant held ({ sys with current := none }.sendDoneEvent status) := by
  have called : ({ sys with current := none }.sendDoneEvent status).invoked =
      sys.invoked ++ sys.pending.toList := by
    unfold sendDoneEvent invoke invoked pending
    cases sys.state.s2SendCallback <;> simp
  refine
    { called := ?_, heldFree := fun _ => rfl, ended := fun _ => rfl, last := nofun,
      aborted := fun number isAborted => ⟨(invariant.aborted number isAborted).1, nofun⟩,
      frames := invariant.frames, generation := invariant.generation }
  rw [called]
  refine Eq.trans ?_ invariant.called
  show (sys.invoked ++ sys.pending.toList) ++ (held.toList ++ []) = _
  cases held with
  | none => simp
  | some callback =>
    have free := invariant.heldFree rfl
    simp [free]

theorem Invariant.libS2Call (invariant : Invariant held sys) (call : LibS2Call) :
    Invariant held (sys.libS2Call call) := by
  cases call with
  | sendFrame lNode rNode data queued =>
    refine Invariant.queueFrame ?_ rfl (fun generation => frameUser_tagged _ generation) rfl
      queued
    exact { invariant with }
  | sendFrameMulti lNode rNode data queued =>
    exact invariant.queueFrame rfl (fun generation => frameUserMulti_tagged _ generation) rfl
      queued
  | sendDone status =>
    unfold System.libS2Call
    dsimp only
    split
    · exact invariant.sendDone status
    · exact invariant
  | startOwnSend =>
    unfold System.libS2Call
    dsimp only
    split
    · exact invariant
    · rename_i free
      refine
        { called := ?_, heldFree := invariant.heldFree, ended := nofun, last := ?_,
          aborted := ?_, frames := ?_, generation := invariant.generation }
      · exact invariant.called.trans (by simp [requestedCallback])
      · intro number isNumber
        cases isNumber
        simp
      · intro number isAborted
        have earlier := (invariant.aborted number isAborted).1
        refine ⟨by simp; omega, fun same => ?_⟩
        cases same
        omega
      · intro entry isEntry
        obtain ⟨session, tag⟩ := invariant.frames entry isEntry
        exact ⟨fun number isSession => by have := session number isSession; simp; omega, tag⟩

/-- The calls libS2 makes keep the invariant. -/
theorem Invariant.react (invariant : Invariant held sys) (calls : List LibS2Call) :
    Invariant held (sys.react calls) := by
  induction calls generalizing sys with
  | nil => exact invariant
  | cons call rest ih => exact ih (invariant.libS2Call call)

theorem Invariant.sendFrameDoneNotify (invariant : Invariant held sys) (status : S2TxStatus)
    (calls : List LibS2Call) : Invariant held (sys.sendFrameDoneNotify status calls) := by
  unfold System.sendFrameDoneNotify
  split
  · exact invariant.react calls
  · exact (invariant.libS2Call _).react calls

theorem libS2Call_record (sys : System) (call : LibS2Call) :
    (sys.libS2Call call).forwarded = sys.forwarded ∧
      (sys.libS2Call call).touches = sys.touches := by
  cases call with
  | sendFrame _ _ _ queued | sendFrameMulti _ _ _ queued => cases queued <;> exact ⟨rfl, rfl⟩
  | sendDone | startOwnSend =>
    unfold libS2Call
    dsimp only
    split <;> exact ⟨rfl, rfl⟩

theorem react_record (sys : System) (calls : List LibS2Call) :
    (sys.react calls).forwarded = sys.forwarded ∧ (sys.react calls).touches = sys.touches := by
  induction calls generalizing sys with
  | nil => exact ⟨rfl, rfl⟩
  | cons call rest ih =>
    obtain ⟨forwarded, touches⟩ := ih (sys.libS2Call call)
    obtain ⟨sameForwarded, sameTouches⟩ := libS2Call_record sys call
    exact ⟨forwarded.trans sameForwarded, touches.trans sameTouches⟩

theorem sendFrameDoneNotify_record (sys : System) (status : S2TxStatus) (calls : List LibS2Call) :
    (sys.sendFrameDoneNotify status calls).forwarded = sys.forwarded ∧
      (sys.sendFrameDoneNotify status calls).touches = sys.touches := by
  unfold sendFrameDoneNotify
  split
  · exact react_record sys calls
  · obtain ⟨forwarded, touches⟩ := react_record (sys.libS2Call (.sendDone status)) calls
    obtain ⟨sameForwarded, sameTouches⟩ := libS2Call_record sys (.sendDone status)
    exact ⟨forwarded.trans sameForwarded, touches.trans sameTouches⟩

theorem abortCurrent_of_free (free : sys.current = none) : sys.abortCurrent = sys := by
  have same : sys.current.toList ++ sys.aborted = sys.aborted := by simp [free]
  rw [abortCurrent, same]

theorem Invariant.abortNotified (invariant : Invariant held sys) (status : S2TxStatus)
    (isFailure : status ≠ .ok) (calls : List LibS2Call) :
    Invariant held (sys.abortCurrent.sendFrameDoneNotify status calls) := by
  unfold System.sendFrameDoneNotify
  rw [if_neg isFailure]
  refine Invariant.react ?_ calls
  obtain inProgress | ⟨number, inProgress⟩ := Option.eq_none_or_eq_some sys.current
  · rw [abortCurrent_of_free inProgress, System.libS2Call, if_neg (by simp [inProgress])]
    exact invariant
  · rw [System.libS2Call, if_pos (by simp [abortCurrent, inProgress])]
    have ended := invariant.sendDone status
    refine { ended with aborted := ?_ }
    intro other isAborted
    refine ⟨?_, nofun⟩
    change other ∈ sys.current.toList ++ sys.aborted at isAborted
    rw [inProgress] at isAborted
    rcases List.mem_cons.mp isAborted with rfl | isEarlier
    · have last := invariant.last other inProgress
      show other < sys.sessions.length
      omega
    · exact (invariant.aborted other isEarlier).1

theorem Invariant.hold (invariant : Invariant none sys) (state : SessionState)
    (noCallback : state.s2SendCallback = none)
    (sameGeneration : state.abortGeneration = sys.state.abortGeneration) :
    Invariant sys.pending { sys with state := state } := by
  have free : ({ sys with state := state } : System).pending = none := by
    simp [pending, noCallback]
  refine
    { called := ?_, heldFree := fun _ => free, ended := fun _ => free, last := invariant.last,
      aborted := invariant.aborted, frames := invariant.frames
      generation := sameGeneration.trans invariant.generation }
  rw [free]
  refine Eq.trans ?_ invariant.called
  show sys.invoked ++ (sys.pending.toList ++ []) = _
  simp

theorem Invariant.release {callback : Option ZwaveTx.CallbackFunction} {user : ZwaveTx.UserPointer}
    (invariant : Invariant (callback.map fun function => (function, user)) sys) (status : Nat)
    (txStatus : ZwaveTx.TxReport) : Invariant none (sys.invoke callback user status txStatus) := by
  refine
    { called := ?_, heldFree := nofun, ended := invariant.ended, last := invariant.last,
      aborted := invariant.aborted, frames := invariant.frames
      generation := invariant.generation }
  refine Eq.trans ?_ invariant.called
  show (sys.invocations ++ _).map _ ++ ([] ++ sys.pending.toList) = _
  cases callback <;> simp [invoked]

theorem Invariant.notifyUntilIdle (invariant : Invariant held sys) (calls : List (List LibS2Call)) :
    Invariant held (sys.notifyUntilIdle calls) := by
  induction calls generalizing sys with
  | nil => exact invariant.abortNotified .fail (by decide) []
  | cons first rest ih =>
    unfold notifyUntilIdle
    dsimp only
    have notified := invariant.abortNotified .fail (by decide) first
    split
    · exact ih notified
    · exact notified

theorem notifyUntilIdle_record (sys : System) (calls : List (List LibS2Call)) :
    (sys.notifyUntilIdle calls).forwarded = sys.forwarded ∧
      (sys.notifyUntilIdle calls).touches = sys.touches := by
  induction calls generalizing sys with
  | nil => exact sendFrameDoneNotify_record sys.abortCurrent .fail []
  | cons first rest ih =>
    unfold notifyUntilIdle
    dsimp only
    have notified := sendFrameDoneNotify_record sys.abortCurrent .fail first
    split
    · obtain ⟨forwarded, touches⟩ := ih
        (sys.abortCurrent.sendFrameDoneNotify .fail first)
      exact ⟨forwarded.trans notified.1, touches.trans notified.2⟩
    · exact notified

theorem Invariant.setInclusionInProgress (invariant : Invariant none sys) (active : Bool)
    (calls : List (List LibS2Call)) : Invariant none (sys.setInclusionInProgress active calls) := by
  have marked : Invariant none { sys with
      state := { sys.state with inclusionInProgress := active } } :=
    { invariant with }
  unfold System.setInclusionInProgress
  cases active with
  | false => exact marked
  | true =>
    dsimp only
    refine Invariant.release ?_ _ _
    have aborted : Invariant sys.pending
        (abortForInclusion { sys with
          state := { sys.state with inclusionInProgress := true } } calls) := by
      unfold abortForInclusion
      dsimp only
      split
      · have loop := (invariant.hold
          { withoutCallback { sys.state with inclusionInProgress := true } with
            abortInProgress := true } rfl rfl).notifyUntilIdle calls
        exact { loop with }
      · rename_i noCallback
        have free : sys.pending = none := by
          simpa [pending] using noCallback
        rw [free]
        exact marked
    refine { aborted with generation := ?_ }
    rw [aborted.generation, Nat.mod_add_mod]

theorem setInclusionInProgress_record (sys : System) (active : Bool)
    (calls : List (List LibS2Call)) :
    (sys.setInclusionInProgress active calls).forwarded = sys.forwarded ∧
      (sys.setInclusionInProgress active calls).touches = sys.touches := by
  cases active with
  | false => exact ⟨rfl, rfl⟩
  | true =>
    unfold setInclusionInProgress
    rw [if_pos rfl]
    unfold abortForInclusion
    split
    · exact notifyUntilIdle_record _ calls
    · exact ⟨rfl, rfl⟩

theorem Invariant.abortSendData (invariant : Invariant none sys) (sessionId : ZwaveTx.SessionId)
    (calls : List LibS2Call) : Invariant none (sys.abortSendData sessionId calls).2 := by
  unfold System.abortSendData
  split
  · refine Invariant.release (Invariant.abortNotified ?_ .noAck (by decide) calls) _ _
    have heldBack := invariant.hold
      { withoutCallback sys.state with
        validParentSessionId := false } rfl rfl
    exact { heldBack with }
  · exact invariant

theorem Invariant.sendData (invariant : Invariant none sys) (request : SendRequest)
    (keyset : ZwaveS2Keyset) (inclusionActive : Bool) (calls : List LibS2Call) :
    Invariant none (sys.sendData request keyset inclusionActive calls).2 := by
  have prepared : Invariant none { sys with state := prepare sys.state request } :=
    { invariant with }
  unfold System.sendData
  split
  · exact invariant
  · split
    · exact invariant
    · split
      · exact invariant
      · split
        · exact prepared
        · split
          · rename_i taken
            refine Invariant.react ?_ calls
            have free : sys.current = none := by
              simpa using (Bool.and_eq_true_iff.mp taken).2
            have noCallback := invariant.ended free
            have called := invariant.called
            rw [noCallback] at called
            refine
              { called := ?_, heldFree := nofun, ended := nofun, last := ?_, aborted := ?_
                frames := ?_, generation := invariant.generation }
            · show sys.invoked ++ ([] ++ _) = List.filterMap _ (sys.sessions ++ [_])
              rw [List.filterMap_append, ← called]
              cases asked : request.onSendComplete <;>
                simp [requestedCallback, pending, startSession, asked]
            · intro number isNumber
              cases isNumber
              simp [startSession]
            · intro number isAborted
              have earlier := (invariant.aborted number isAborted).1
              refine ⟨by simp [startSession]; omega, fun same => ?_⟩
              cases same
              omega
            · intro entry isEntry
              obtain ⟨session, tag⟩ := invariant.frames entry isEntry
              exact ⟨fun number isSession => by
                have := session number isSession
                simp [startSession]
                omega, tag⟩
          · exact prepared

theorem sendData_record (sys : System) (request : SendRequest) (keyset : ZwaveS2Keyset)
    (inclusionActive : Bool) (calls : List LibS2Call) :
    (sys.sendData request keyset inclusionActive calls).2.forwarded = sys.forwarded ∧
      (sys.sendData request keyset inclusionActive calls).2.touches = sys.touches := by
  unfold sendData
  split
  · exact ⟨rfl, rfl⟩
  · split
    · exact ⟨rfl, rfl⟩
    · split
      · exact ⟨rfl, rfl⟩
      · split
        · exact ⟨rfl, rfl⟩
        · split
          · exact react_record _ calls
          · exact ⟨rfl, rfl⟩

theorem Invariant.sendFrameCallback (invariant : Invariant none sys) (frame : TxFrame)
    (status : Nat) (txInfo : Option ZwaveTx.TxReport) (calls : List LibS2Call) :
    Invariant none (sys.sendFrameCallback frame status txInfo calls) := by
  unfold System.sendFrameCallback
  split
  · exact invariant
  · refine Invariant.sendFrameDoneNotify ?_ _ calls
    exact { invariant with }

/-- Every step keeps the invariant. -/
theorem Invariant.step (invariant : Invariant none sys) (action : Action) :
    Invariant none (sys.step action) := by
  cases action with
  | sendData request keyset inclusionActive calls =>
    exact invariant.sendData request keyset inclusionActive calls
  | abortSendData sessionId calls => exact invariant.abortSendData sessionId calls
  | setInclusionInProgress active calls => exact invariant.setInclusionInProgress active calls
  | txComplete number status txInfo calls =>
    unfold System.step
    dsimp only
    split
    · refine Invariant.sendFrameCallback ?_ _ status txInfo calls
      refine { invariant with frames := ?_ }
      exact fun entry isEntry => invariant.frames entry (List.mem_of_mem_erase isEntry)
    · exact invariant
  | libS2 calls => exact invariant.react calls

theorem Invariant.conforms_iff (invariant : Invariant none sys) :
    Conforms sys ↔
      (∀ forward ∈ sys.forwarded, NotMixed forward) ∧
        ∀ touch ∈ sys.touches, touch.inProgress = some touch.sessionId :=
  ⟨fun conforms => ⟨conforms.forwarded, conforms.touched⟩, fun record =>
    ⟨by simpa using invariant.called, invariant.ended, record.1, record.2⟩⟩

theorem Conforms.of_record {before after : System} (conforms : Conforms before)
    (invariant : Invariant none after)
    (record : after.forwarded = before.forwarded ∧ after.touches = before.touches) :
    Conforms after := by
  rw [invariant.conforms_iff, record.1, record.2]
  exact ⟨conforms.forwarded, conforms.touched⟩

theorem abortSendData_conforms_iff (invariant : Invariant none sys) (conforms : Conforms sys)
    (sessionId : ZwaveTx.SessionId) (calls : List LibS2Call) :
    Conforms (sys.abortSendData sessionId calls).2 ↔
      (sys.state.parentSessionId = sessionId -> sys.inProgress = some sessionId) := by
  have after := invariant.abortSendData sessionId calls
  by_cases isParent : sys.state.parentSessionId = sessionId
  · have forwarded : (sys.abortSendData sessionId calls).2.forwarded = sys.forwarded := by
      rw [abortSendData, if_pos isParent]
      exact (sendFrameDoneNotify_record _ .noAck calls).1
    have touches : (sys.abortSendData sessionId calls).2.touches =
        sys.touches ++ [AbortTouch.mk sessionId sys.inProgress] := by
      rw [abortSendData, if_pos isParent]
      exact (sendFrameDoneNotify_record _ .noAck calls).2
    rw [after.conforms_iff, forwarded, touches]
    constructor
    · intro record _
      exact record.2 ⟨sessionId, sys.inProgress⟩ (by simp)
    · intro isOwn
      refine ⟨conforms.forwarded, fun touch isTouch => ?_⟩
      rcases List.mem_append.mp isTouch with isEarlier | isNew
      · exact conforms.touched touch isEarlier
      · obtain rfl := List.mem_singleton.mp isNew
        exact isOwn isParent
  · rw [abortSendData, if_neg isParent]
    exact ⟨fun _ found => absurd found isParent, fun _ => conforms⟩

theorem isStale_iff (invariant : Invariant none sys)
    (carries : FrameInvariant sys.sessions.length frame) :
    isStale sys.state frame.user = true ↔
      (∃ generation, frame.user = .generationTag generation) ∧
        frame.inclusions % 256 ≠ sys.inclusionsStarted % 256 := by
  unfold isStale
  rw [invariant.generation]
  cases isUser : frame.user with
  | null | protocolMetadata => simp
  | generationTag generation =>
    have tag := carries.tag generation isUser
    subst tag
    simp

theorem sendFrameCallback_conforms_iff (invariant : Invariant none sys)
    (conforms : Conforms sys) (carries : FrameInvariant sys.sessions.length frame)
    (status : Nat) (txInfo : Option ZwaveTx.TxReport) (calls : List LibS2Call) :
    Conforms (sys.sendFrameCallback frame status txInfo calls) ↔
      ∀ session, frame.session = some session -> session ∈ sys.aborted ->
        sys.current.isSome ->
          (∃ generation, frame.user = .generationTag generation) ∧
            frame.inclusions % 256 ≠ sys.inclusionsStarted % 256 := by
  have after := invariant.sendFrameCallback frame status txInfo calls
  have dropped := isStale_iff invariant carries
  by_cases stale : isStale sys.state frame.user = true
  · rw [sendFrameCallback, if_pos stale]
    exact ⟨fun _ _ _ _ _ => dropped.mp stale, fun _ => conforms⟩
  · have forwarded : (sys.sendFrameCallback frame status txInfo calls).forwarded =
        sys.forwarded ++ [Forward.mk frame.session
          (frame.session.any (· ∈ sys.aborted)) sys.current] := by
      rw [sendFrameCallback, if_neg stale]
      exact (sendFrameDoneNotify_record _ _ calls).1
    have touches : (sys.sendFrameCallback frame status txInfo calls).touches = sys.touches := by
      rw [sendFrameCallback, if_neg stale]
      exact (sendFrameDoneNotify_record _ _ calls).2
    rw [after.conforms_iff, forwarded, touches]
    constructor
    · rintro ⟨notMixed, -⟩ session isSession isAborted isBusy
      obtain ⟨during, isDuring⟩ := Option.isSome_iff_exists.mp isBusy
      have own := notMixed (Forward.mk frame.session
        (frame.session.any (· ∈ sys.aborted)) sys.current) (by simp)
        (by simp [isSession, isAborted]) session during isSession isDuring
      have last := invariant.last during isDuring
      obtain ⟨earlier, isOver⟩ := invariant.aborted session isAborted
      -- An aborted send is an earlier one than the send in progress.
      rcases Nat.lt_or_eq_of_le (show session ≤ during by omega) with later | same
      · exact absurd later own
      · exact absurd (isDuring.trans (congrArg some same.symm)) isOver
    · intro orderly
      refine ⟨fun forward isForward => ?_, conforms.touched⟩
      rcases List.mem_append.mp isForward with isEarlier | isNew
      · exact conforms.forwarded forward isEarlier
      · obtain rfl := List.mem_singleton.mp isNew
        intro isAborted session during isSession isDuring
        change frame.session = some session at isSession
        change sys.current = some during at isDuring
        have inAborted : session ∈ sys.aborted := by simpa [isSession] using isAborted
        have isDropped := orderly session isSession inAborted (by simp [isDuring])
        exact absurd (dropped.mpr isDropped) stale

/-- A step conforms exactly if it is orderly. -/
theorem step_conforms_iff (invariant : Invariant none sys) (conforms : Conforms sys)
    (action : Action) : Conforms (sys.step action) ↔ Orderly sys action := by
  have after := invariant.step action
  cases action with
  | sendData request keyset inclusionActive calls =>
    exact ⟨fun _ => trivial, fun _ => conforms.of_record after
      (sendData_record sys request keyset inclusionActive calls)⟩
  | abortSendData sessionId calls =>
    exact abortSendData_conforms_iff invariant conforms sessionId calls
  | setInclusionInProgress active calls =>
    exact ⟨fun _ => trivial, fun _ => conforms.of_record after
      (setInclusionInProgress_record sys active calls)⟩
  | libS2 calls =>
    exact ⟨fun _ => trivial, fun _ => conforms.of_record after (react_record sys calls)⟩
  | txComplete number status txInfo calls =>
    simp only [step, Orderly]
    cases found : sys.outstanding.lookup number with
    | none =>
      refine ⟨fun _ frame isFrame => ?_, fun _ => conforms⟩
      cases isFrame
    | some frame =>
      have isQueued : (number, frame) ∈ sys.outstanding := Foundation.mem_of_lookup_eq_some found
      have taken : Invariant none { sys with
          outstanding := sys.outstanding.erase (number, frame) } :=
        { invariant with frames := fun entry isEntry =>
            invariant.frames entry (List.mem_of_mem_erase isEntry) }
      have same : Conforms { sys with
          outstanding := sys.outstanding.erase (number, frame) } :=
        conforms.of_record taken ⟨rfl, rfl⟩
      have conformsIff := sendFrameCallback_conforms_iff taken same
        (invariant.frames _ isQueued) status txInfo calls
      refine conformsIff.trans ⟨fun orderly other isOther => ?_, fun orderly => ?_⟩
      · cases isOther
        exact orderly
      · exact orderly frame rfl

/-- In every run of the transport, the sends are completed as they should exactly when every
step is orderly. -/
theorem sends_conform_iff_orderly (actions : List Action) :
    (∀ done, done <+: actions -> Conforms (Foundation.run step initial done)) ↔
      StepsMeet step Orderly initial actions :=
  throughout_iff_of_invariant (fun sys => Invariant none sys ∧ Conforms sys) Conforms
    (fun _ holds => holds.2)
    (fun _ action holds orderly =>
      ⟨holds.1.step action, (step_conforms_iff holds.1 holds.2 action).mpr orderly⟩)
    (fun _ action holds => (step_conforms_iff holds.1 holds.2 action).mp)
    ⟨invariant_initial, invariant_initial.conforms_iff.mpr ⟨nofun, nofun⟩⟩ actions

/-- Also where completions are mixed up, the callbacks of the accepted sends are invoked once
each and in their order, and only that of a send in progress is left to invoke. -/
theorem callbacks_in_order (actions : List Action) : let sys := Foundation.run step initial actions
    sys.invoked ++ sys.pending.toList = sys.sessions.filterMap requestedCallback ∧
      (sys.current = none -> sys.pending = none) := by
  have invariant := Foundation.run_invariant (Invariant none)
    (fun _ action invariant => invariant.step action) invariant_initial actions
  exact ⟨by simpa using invariant.called, invariant.ended⟩

/-- A send to a node, whose frame the TX queue takes. -/
def sampleSend (nodeId parentSessionId : Nat) : Action :=
  .sendData
    { connection :=
        { local' := { nodeId := 1 }
          remote := { nodeId := nodeId }
          encapsulation := .security2Access }
      data := [0x20, 0x01, 0xFF]
      txOptions :=
        { numberOfResponses := 0
          qosPriority := 0
          groupId := 0
          isFirstFollowUp := false
          skipS2VerifyDelivery := false }
      onSendComplete := some 7
      user := parentSessionId
      metadata := .zero
      parentSessionId := parentSessionId }
    .zwave false [.sendFrame 1 nodeId [0x9F, 0x03, 0x00, 0x00] true]

/-- A send is aborted, and the TX queue completes its frame during the next send. -/
def completedAfterAbort : List Action :=
  [sampleSend 5 1, .abortSendData 1 [], sampleSend 6 2,
    .txComplete 0 ZwaveTx.transmitCompleteOk none []]

/-- A send is over and libS2 answers a node when the session of the send is aborted. -/
def abortedAfterEnd : List Action :=
  [sampleSend 5 1, .libS2 [.sendDone .verified, .startOwnSend], .abortSendData 1 []]

theorem not_conforms_afterAbort :
    ¬Conforms (Foundation.run step initial completedAfterAbort) ∧
      ¬Conforms (Foundation.run step initial abortedAfterEnd) := by
  constructor
  · intro conforms
    have own := conforms.forwarded ⟨some 0, true, some 1⟩ (by decide +kernel) rfl 0 1 rfl rfl
    exact own (by decide)
  · intro conforms
    have own := conforms.touched ⟨1, none⟩ (by decide +kernel)
    cases own

/-- A request holds what the state has from the send before. -/
structure Repeats (state : SessionState) (request : SendRequest) : Prop where
  parentSession : state.parentSessionId = request.parentSessionId
  isValid : state.validParentSessionId = true
  frameData : state.lastFrameData = request.data
  type : state.currentTransmissionType = transmissionType request
  protocolFrame : request.txOptions.transport.isProtocolFrame = true ->
    state.protocolMetadata = request.metadata ∧ state.txOptions = request.txOptions.toTxOptions

/-- A request is refused before anything is written, is taken by libS2, or repeats what is
there. -/
def KeepsSend (sys : System) (request : SendRequest) (keyset : ZwaveS2Keyset)
    (inclusionActive : Bool) : Prop :=
  encapsulationToClass request.connection.encapsulation = none ∨
    ZwaveTx.zwaveMaxFrameSize < request.data.length ∨
    sys.applicationSendIsBlocked request.txOptions inclusionActive = true ∨
    keyset ≠ .unknown ∧ sys.libS2Accepts request.data = true ∨
    Repeats sys.state request

theorem prepare_eq_iff (state : SessionState) (request : SendRequest) :
    prepare state request = state ↔ Repeats state request := by
  constructor
  · intro same
    have fields := fun {α : Type} (field : SessionState -> α) => (congrArg field same).symm
    refine ⟨fields (·.parentSessionId), fields (·.validParentSessionId), fields (·.lastFrameData),
      fields (·.currentTransmissionType), fun isProtocol => ?_⟩
    exact ⟨(fields (·.protocolMetadata)).trans (if_pos isProtocol),
      (fields (·.txOptions)).trans (if_pos isProtocol)⟩
  · intro repeats
    unfold prepare
    rw [← repeats.parentSession, ← repeats.frameData, ← repeats.type]
    split
    next isProtocol =>
      rw [← (repeats.protocolFrame isProtocol).1, ← (repeats.protocolFrame isProtocol).2,
        ← repeats.isValid]
    next => rw [← repeats.isValid]

/-- A send that is not accepted leaves the state of the transport as it is if and only if it
is refused before anything is written or repeats what is there. -/
theorem failed_send_keeps_state_iff (sys : System) (request : SendRequest)
    (keyset : ZwaveS2Keyset) (inclusionActive : Bool) (calls : List LibS2Call) :
    ((sys.sendData request keyset inclusionActive calls).1 ≠ .ok ->
      (sys.sendData request keyset inclusionActive calls).2.state = sys.state) ↔
      KeepsSend sys request keyset inclusionActive := by
  unfold sendData KeepsSend
  cases encapsulationToClass request.connection.encapsulation with
  | none => simp
  | some classId =>
    dsimp only
    split
    next isLarge => simp [isLarge]
    next notLarge =>
      split
      next isBlocked => simp [isBlocked]
      next notBlocked =>
        rw [← prepare_eq_iff]
        split
        next isUnknown => simp [notLarge, notBlocked, isUnknown]
        next isKnown =>
          split
          next accepts => simp [isKnown, accepts]
          next refuses => simp [notLarge, notBlocked, refuses]

/-- A protocol frame that comes while libS2 is busy. -/
def protocolRequest : SendRequest where
  connection :=
    { local' := { nodeId := 1 }
      remote := { nodeId := 6 }
      encapsulation := .security2Access }
  data := [0x01, 0x02]
  txOptions :=
    { numberOfResponses := 0
      qosPriority := 0
      transport := { isProtocolFrame := true }
      groupId := 0
      isFirstFollowUp := false
      skipS2VerifyDelivery := false }
  onSendComplete := some 8
  user := 2
  metadata := .zero
  parentSessionId := 2

/-- The frame is refused as busy, and its bytes stand in place of those of the send in
progress. -/
theorem refused_protocolRequest :
    ¬ ((((Foundation.run step initial [sampleSend 5 1]).sendData protocolRequest .zwave false
      []).1 ≠ .ok) ->
      ((Foundation.run step initial [sampleSend 5 1]).sendData protocolRequest .zwave false
        []).2.state = (Foundation.run step initial [sampleSend 5 1]).state) := by
  intro kept
  have same := congrArg SessionState.lastFrameData (kept (by decide +kernel))
  exact absurd same (by decide +kernel)

end System

end S2Transport
