import Zpc.SerialApi.SessionCode

/-!
# The mutex of the serial port

Every function of the session takes and releases `session_serial_mutex` in turn, whatever the
connection answers: a thread that asks for the mutex does not have it, `send_frame` keeps it
exactly when it succeeds, and a public function returns without it.  The upper layer is told
of a lost connection without the mutex, and at most once for each loss.
-/

namespace SerialApi

open Foundation

namespace SessionCode

/-- What a thread holds and owes: the mutex, and a call of the callback. -/
structure Duties where
  holds : Bool
  owes : Bool

/-- A thread without duties. -/
def Duties.free : Duties := ⟨false, false⟩

/-- A thread that has the mutex. -/
def Duties.holding : Duties := ⟨true, false⟩

/-- What a thread may call, and how its duties change. -/
def discipline : Program.Discipline Call Answer Duties where
  Allows duties
    | .lock => duties.holds = false
    | .unlock => duties.holds = true
    | .exchangeConnectionLost => duties.owes = false
    | .connectionLostCallback => duties = ⟨false, true⟩
    | .sendFrameReturns status => duties.holds = true ↔ status = .ok
    | _ => True
  after duties
    | .lock, _ => { duties with holds := true }
    | .unlock, _ => { duties with holds := false }
    | .exchangeConnectionLost, wasLost => { duties with owes := !wasLost }
    | .connectionLostCallback, _ => { duties with owes := false }
    | _, _ => duties

variable (command : UInt8) (payload : List UInt8) (attempts : Attempts) {duties : Duties}
  {wanted : Unit -> Duties -> Prop}

theorem meets_enqueueFrame (isWanted : wanted () duties) :
    enqueueFrame.Meets discipline wanted duties := by
  refine Program.meets_ask_do.mpr ⟨trivial, fun length => ?_⟩
  split
  · exact isWanted
  · refine Program.meets_ask_do.mpr ⟨trivial, fun frame => ?_⟩
    split
    · exact ⟨trivial, fun _ => ⟨trivial, fun _ => isWanted⟩⟩
    · exact isWanted

theorem meets_waitForResponse {wanted : ConnectionStatus -> Duties -> Prop}
    (isWanted : ∀ status, wanted status duties) :
    waitForResponse.Meets discipline wanted duties := by
  refine Program.meets_repeating_of_steady fun again => ?_
  refine Program.meets_ask_do.mpr ⟨trivial, fun status => ?_⟩
  split
  · exact isWanted status
  · refine Program.meets_ask_do.mpr ⟨trivial, fun elapsed => ?_⟩
    split
    · exact isWanted .rxTimeout
    · rfl

theorem meets_enqueueRxFrames {wanted : Bool -> Duties -> Prop}
    (isWanted : ∀ connectionLost, wanted connectionLost duties) :
    enqueueRxFrames.Meets discipline wanted duties := by
  refine Program.meets_repeating_of_steady fun again => ?_
  refine Program.meets_ask_do.mpr ⟨trivial, fun status => ?_⟩
  split
  · exact Program.meets_do.mpr (meets_enqueueFrame rfl)
  · exact isWanted _

theorem meets_notifyConnectionLost (isWanted : wanted () .free) :
    notifyConnectionLost.Meets discipline wanted .free := by
  refine Program.meets_ask_do.mpr ⟨rfl, fun _ => ?_⟩
  refine Program.meets_ask_do.mpr ⟨rfl, fun wasLost => ?_⟩
  refine Program.meets_ask_do.mpr ⟨rfl, fun _ => ?_⟩
  cases wasLost with
  | true => exact isWanted
  | false => exact ⟨rfl, fun _ => isWanted⟩

theorem meets_flushQueue (isWanted : wanted () duties) :
    flushQueue.Meets discipline wanted duties := by
  refine Program.meets_repeating_of_steady fun again => ?_
  refine Program.meets_ask_do.mpr ⟨trivial, fun frame => ?_⟩
  split
  · rfl
  · exact isWanted

theorem meets_transmit {command : UInt8} {payload : List UInt8}
    {wanted : ConnectionStatus -> Duties -> Prop} (isWanted : ∀ status, wanted status duties) :
    (transmit command payload).Meets discipline wanted duties := by
  refine Program.meets_ask_do.mpr ⟨trivial, fun sent => ?_⟩
  split
  · exact meets_waitForResponse isWanted
  · exact isWanted sent

theorem meets_backoff {wanted : Bool -> Duties -> Prop}
    (isWanted : ∀ connectionLost, wanted connectionLost .free) :
    backoff.Meets discipline wanted .free := by
  refine Program.meets_repeating_of_steady fun again => ?_
  refine Program.meets_ask_do.mpr ⟨trivial, fun elapsed => ?_⟩
  split
  · exact isWanted false
  · refine Program.meets_ask_do.mpr ⟨rfl, fun _ => ?_⟩
    refine Program.meets_do.mpr (meets_enqueueRxFrames fun connectionLost => ?_)
    refine Program.meets_ask_do.mpr ⟨rfl, fun _ => ?_⟩
    cases connectionLost with
    | true => exact Program.meets_do.mpr (meets_notifyConnectionLost (isWanted true))
    | false => rfl

/-- What a round of the loop of `send_frame` leaves to the next round, or to the end: the
mutex when the frame was acknowledged. -/
def AfterRound : Attempts ⊕ LoopExit -> Duties -> Prop
  | .inr (.returned .ok), duties => duties = .holding
  | _, duties => duties = .free

theorem meets_nextAttempt (doBackoff : Bool) :
    (nextAttempt attempts doBackoff).Meets discipline AfterRound .holding := by
  refine Program.meets_ask_do.mpr ⟨rfl, fun _ => ?_⟩
  cases doBackoff with
  | true =>
    refine Program.meets_do.mpr (meets_backoff fun connectionLost => ?_)
    cases connectionLost with
    | true | false => rfl
  | false => rfl

theorem meets_afterAttempt (status : ConnectionStatus) :
    (afterAttempt attempts status).Meets discipline AfterRound .holding := by
  cases status with
  | frameSent => rfl
  | frameReceived => exact Program.meets_do.mpr (meets_enqueueFrame (meets_nextAttempt _ true))
  | txCan => exact meets_nextAttempt _ true
  | txTimeout =>
    unfold afterAttempt
    dsimp only
    split
    · refine Program.meets_ask_do.mpr ⟨trivial, fun connectionFd => ?_⟩
      refine Program.meets_ask_do.mpr ⟨rfl, fun _ => ?_⟩
      split
      · exact Program.meets_do.mpr (meets_notifyConnectionLost rfl)
      · rfl
    · exact meets_nextAttempt _ true
  | rxTimeout => exact meets_nextAttempt attempts false
  | txNak => exact ⟨rfl, fun _ => rfl⟩
  | connectionLost =>
    refine Program.meets_ask_do.mpr ⟨rfl, fun _ => ?_⟩
    exact Program.meets_do.mpr (meets_notifyConnectionLost rfl)
  | idle | checksumError => exact meets_nextAttempt attempts true

theorem meets_attemptRound :
    (attemptRound command payload attempts).Meets discipline AfterRound .free := by
  unfold attemptRound
  split
  · rfl
  · refine Program.meets_ask_do.mpr ⟨rfl, fun _ => ?_⟩
    refine Program.meets_ask_do.mpr ⟨trivial, fun connectionLost => ?_⟩
    split
    · exact ⟨rfl, fun _ => rfl⟩
    · exact Program.meets_do.mpr (meets_transmit fun status => meets_afterAttempt _ status)

/-- `send_frame` ends with the mutex when it succeeds, and without it when it fails. -/
def AfterSend (status : SlStatus) (duties : Duties) : Prop :=
  duties = if status = .ok then .holding else .free

theorem meets_sendFrameBody : (sendFrameBody command payload).Meets discipline AfterSend .free := by
  refine Program.meets_ask_do.mpr ⟨rfl, fun _ => ?_⟩
  refine Program.meets_do.mpr (meets_enqueueRxFrames fun connectionLost => ?_)
  refine Program.meets_ask_do.mpr ⟨trivial, fun wasLost => ?_⟩
  refine Program.meets_ask_do.mpr ⟨rfl, fun _ => ?_⟩
  split
  · exact Program.meets_do.mpr (meets_notifyConnectionLost rfl)
  · split
    · rfl
    · refine Program.meets_do.mpr ?_
      refine Program.meets_repeating_of_steady fun attempts => ?_
      refine (meets_attemptRound command payload attempts).mono fun outcome duties left => ?_
      match outcome, left with
      | .inl _, left => exact left
      | .inr (.returned .ok), left => exact left
      | .inr (.returned .fail), left => exact left
      | .inr (.exhausted true), left =>
        cases left
        exact Program.meets_do.mpr (meets_notifyConnectionLost rfl)
      | .inr (.exhausted false), left => exact left

theorem meets_sendFrameInternal :
    (sendFrameInternal command payload).Meets discipline AfterSend .free := by
  refine Program.meets_do.mpr
    ((meets_sendFrameBody command payload).mono fun status duties left => ?_)
  cases left
  cases status with
  | ok => exact ⟨iff_of_true rfl rfl, fun _ => rfl⟩
  | fail => exact ⟨iff_of_false nofun nofun, fun _ => rfl⟩

theorem meets_sendFrame :
    (sendFrame command payload).Meets discipline (fun _ duties => duties = .free) .free := by
  refine Program.meets_do.mpr
    ((meets_sendFrameInternal command payload).mono fun status duties left => ?_)
  cases status with
  | ok =>
    cases left
    exact ⟨rfl, fun _ => rfl⟩
  | fail => exact left

theorem meets_responseRound (i : Nat) :
    (responseRound command i).Meets discipline (fun _ duties => duties = .holding) .holding := by
  unfold responseRound
  split
  · rfl
  · refine Program.meets_do.mpr (meets_waitForResponse fun status => ?_)
    split
    · refine Program.meets_ask_do.mpr ⟨trivial, fun frame => ?_⟩
      split
      · split
        · split <;> rfl
        · exact Program.meets_do.mpr (meets_enqueueFrame rfl)
      · rfl
    · split <;> rfl

theorem meets_sendFrameWithResponse :
    (sendFrameWithResponse command payload).Meets discipline (fun _ duties => duties = .free)
      .free := by
  refine Program.meets_do.mpr
    ((meets_sendFrameInternal command payload).mono fun status duties left => ?_)
  cases status with
  | fail => exact left
  | ok =>
    cases left
    refine Program.meets_do.mpr ?_
    refine Program.meets_repeating_of_steady fun i => ?_
    refine (meets_responseRound command i).mono fun outcome duties left => ?_
    cases left
    match outcome with
    | .inl _ => rfl
    | .inr (.response frame) => exact ⟨rfl, fun _ => rfl⟩
    | .inr .nothing => exact ⟨rfl, fun _ => rfl⟩
    | .inr .connectionLost =>
      refine Program.meets_ask_do.mpr ⟨rfl, fun _ => ?_⟩
      exact Program.meets_do.mpr (meets_notifyConnectionLost rfl)

theorem meets_sendFrameNoAck :
    (sendFrameNoAck command payload).Meets discipline (fun _ duties => duties = .free) .free := by
  refine Program.meets_ask_do.mpr ⟨rfl, fun _ => ?_⟩
  refine Program.meets_do.mpr (meets_enqueueRxFrames fun connectionLost => ?_)
  refine Program.meets_ask_do.mpr ⟨trivial, fun wasLost => ?_⟩
  split
  · refine Program.meets_ask_do.mpr ⟨rfl, fun _ => ?_⟩
    split
    · exact Program.meets_do.mpr (meets_notifyConnectionLost rfl)
    · rfl
  · refine Program.meets_ask_do.mpr ⟨trivial, fun status => ?_⟩
    refine Program.meets_ask_do.mpr ⟨rfl, fun _ => ?_⟩
    split
    · exact Program.meets_do.mpr (meets_notifyConnectionLost rfl)
    · rfl

theorem meets_pollRxFrames :
    pollRxFrames.Meets discipline (fun _ duties => duties = .free) .free := by
  refine Program.meets_ask_do.mpr ⟨rfl, fun _ => ?_⟩
  refine Program.meets_do.mpr (meets_enqueueRxFrames fun connectionLost => ?_)
  refine Program.meets_ask_do.mpr ⟨rfl, fun _ => ?_⟩
  cases connectionLost with
  | true => exact meets_notifyConnectionLost rfl
  | false => rfl

theorem meets_restart : restart.Meets discipline (fun _ duties => duties = .free) .free := by
  refine Program.meets_ask_do.mpr ⟨trivial, fun status => ?_⟩
  split
  · exact meets_notifyConnectionLost rfl
  · rfl

theorem meets_codeOf (operation : Operation) :
    (codeOf operation).Meets discipline (fun _ duties => duties = .free) .free := by
  cases operation with
  | init => exact ⟨trivial, fun _ => ⟨trivial, fun _ => rfl⟩⟩
  | shutdown => exact Program.meets_do.mpr (meets_flushQueue ⟨trivial, fun _ => rfl⟩)
  | restart => exact meets_restart
  | notifyConnectionLost => exact meets_notifyConnectionLost rfl
  | dequeueFrame => exact ⟨trivial, fun _ => rfl⟩
  | enqueueRxFrames => exact meets_pollRxFrames
  | sendFrame command payload => exact Program.meets_do.mpr (meets_sendFrame command payload)
  | sendFrameWithResponse command payload =>
    exact Program.meets_do.mpr (meets_sendFrameWithResponse command payload)
  | sendFrameNoAck command payload =>
    exact Program.meets_do.mpr (meets_sendFrameNoAck command payload)
  | flushQueue => exact meets_flushQueue rfl

namespace System

/-- The duties of a thread are those that the session knows. -/
structure HasDuties (sys : System) (thread : Nat) (duties : Duties) : Prop where
  holds : duties.holds = true ↔ sys.serialMutex = some thread
  owes : sys.losses.count thread = sys.notices.count thread + duties.owes.toNat

/-- What a thread has left to do keeps to the discipline. -/
def Orderly (sys : System) (thread : Nat) : Prop :=
  ∃ duties, sys.HasDuties thread duties ∧
    (sys.threads thread).Meets discipline (fun _ duties => duties = .free) duties

theorem Orderly.initial (thread : Nat) : initial.Orderly thread :=
  ⟨.free, ⟨iff_of_false nofun nofun, rfl⟩, rfl⟩

variable {sys after : System} {thread : Nat} {duties : Duties} {reply : Reply} {request : Call}

variable {answer : Answer request}

theorem hasDuties_perform (hasDuties : sys.HasDuties thread duties)
    (isAllowed : discipline.Allows duties request)
    (performed : sys.perform thread reply request = some (answer, after)) :
    after.threads = sys.threads ∧
      after.HasDuties thread (discipline.after duties request answer) ∧
      ∀ other otherDuties, other ≠ thread -> sys.HasDuties other otherDuties ->
        after.HasDuties other otherDuties := by
  obtain ⟨holds, owes⟩ := hasDuties
  cases request with
  | lock =>
    unfold perform at performed
    dsimp only at performed
    split at performed
    next isFree =>
      cases performed
      refine ⟨rfl, ⟨iff_of_true rfl rfl, owes⟩, fun other otherDuties different otherHas => ?_⟩
      refine ⟨?_, otherHas.owes⟩
      rw [otherHas.holds, isFree]
      exact iff_of_false nofun fun same => different (Option.some.inj same).symm
    next => cases performed
  | unlock =>
    cases performed
    refine ⟨rfl, ⟨iff_of_false nofun nofun, owes⟩, fun other otherDuties different otherHas => ?_⟩
    refine ⟨?_, otherHas.owes⟩
    rw [otherHas.holds, holds.mp isAllowed]
    exact iff_of_false (fun same => different (Option.some.inj same).symm) nofun
  | exchangeConnectionLost =>
    cases performed
    have owesNothing : duties.owes = false := isAllowed
    rw [owesNothing] at owes
    cases isLost : sys.connectionLost with
    | true =>
      refine ⟨rfl, ⟨holds, ?_⟩, fun other otherDuties _ otherHas => ⟨otherHas.holds, ?_⟩⟩
      · exact owes
      · exact otherHas.owes
    | false =>
      refine ⟨rfl, ⟨holds, ?_⟩, fun other otherDuties different otherHas => ⟨otherHas.holds, ?_⟩⟩
      · change (thread :: sys.losses).count thread = sys.notices.count thread + 1
        rw [List.count_cons_self, owes]
        rfl
      · change (thread :: sys.losses).count other = _
        rw [List.count_cons_of_ne different.symm]
        exact otherHas.owes
  | connectionLostCallback =>
    cases performed
    rw [isAllowed] at holds owes ⊢
    refine ⟨rfl, ⟨holds, ?_⟩, fun other otherDuties different otherHas => ⟨otherHas.holds, ?_⟩⟩
    · change sys.losses.count thread = (thread :: sys.notices).count thread + 0
      rw [List.count_cons_self, owes]
      rfl
    · change _ = (thread :: sys.notices).count other + _
      rw [List.count_cons_of_ne different.symm]
      exact otherHas.owes
  | _ =>
    cases performed
    exact ⟨rfl, ⟨holds, owes⟩, fun other otherDuties _ otherHas => ⟨otherHas.holds, otherHas.owes⟩⟩

theorem orderly_resume (hasDuties : sys.HasDuties thread duties) {code : Code Unit}
    (meets : code.Meets discipline (fun _ duties => duties = .free) duties)
    (others : ∀ other, other ≠ thread -> sys.Orderly other) (other : Nat) :
    (sys.resume thread code).Orderly other := by
  by_cases isThread : other = thread
  · rw [isThread]
    refine ⟨duties, ⟨hasDuties.holds, hasDuties.owes⟩, ?_⟩
    unfold resume
    dsimp only
    rw [Function.update_self]
    exact meets
  · obtain ⟨otherDuties, otherHas, otherMeets⟩ := others other isThread
    refine ⟨otherDuties, ⟨otherHas.holds, otherHas.owes⟩, ?_⟩
    unfold resume
    dsimp only
    rw [Function.update_of_ne isThread]
    exact otherMeets

/-- Every step keeps the duties of every thread. -/
theorem orderly_step (orderly : ∀ thread, sys.Orderly thread) (action : Action) (other : Nat) :
    (sys.step action).Orderly other := by
  cases action with
  | start thread operation =>
    obtain ⟨duties, hasDuties, meets⟩ := orderly thread
    unfold step
    dsimp only
    cases isCode : sys.threads thread with
    | finish result =>
      rw [isCode] at meets
      have isFree : duties = .free := meets
      refine orderly_resume hasDuties ?_ (fun another _ => orderly another) other
      rw [isFree]
      exact meets_codeOf operation
    | call | loop => exact orderly other
  | advance thread reply =>
    obtain ⟨duties, hasDuties, meets⟩ := orderly thread
    unfold step advance
    dsimp only
    cases isCode : sys.threads thread with
    | finish result => exact orderly other
    | loop body start next =>
      rw [isCode] at meets
      exact orderly_resume hasDuties meets.unrolled (fun another _ => orderly another) other
    | call request next =>
      rw [isCode] at meets
      dsimp only
      cases performed : sys.perform thread reply request with
      | none => exact orderly other
      | some result =>
        obtain ⟨answer, after⟩ := result
        obtain ⟨sameThreads, afterHas, othersHave⟩ := hasDuties_perform hasDuties meets.1 performed
        refine orderly_resume afterHas (meets.2 answer) (fun another different => ?_) other
        obtain ⟨otherDuties, otherHas, otherMeets⟩ := orderly another
        refine ⟨otherDuties, othersHave another otherDuties different otherHas, ?_⟩
        rw [sameThreads]
        exact otherMeets

/-- The connection is found lost at most once after each time that it was established. -/
def LostOnce (sys : System) : Prop :=
  sys.losses.length + (if sys.connectionLost then 0 else 1) ≤ sys.openings + 1

theorem LostOnce.perform (once : sys.LostOnce)
    (performed : sys.perform thread reply request = some (answer, after)) : after.LostOnce := by
  cases request with
  | lock =>
    unfold perform at performed
    dsimp only at performed
    split at performed
    · cases performed
      exact once
    · cases performed
  | writeConnectionLost lost =>
    cases performed
    unfold LostOnce at once ⊢
    dsimp only
    cases lost with
    | true =>
      rw [if_pos rfl, if_pos rfl]
      omega
    | false =>
      rw [if_neg (by decide), if_neg (by decide)]
      omega
  | exchangeConnectionLost =>
    cases performed
    unfold LostOnce at once ⊢
    cases isLost : sys.connectionLost with
    | true | false =>
      rw [isLost] at once
      exact once
  | _ =>
    cases performed
    exact once

/-- No step finds the connection lost twice between two openings. -/
theorem LostOnce.step (once : sys.LostOnce) (action : Action) : (sys.step action).LostOnce := by
  cases action with
  | start thread operation =>
    unfold System.step
    dsimp only
    split <;> exact once
  | advance thread reply =>
    unfold System.step advance
    dsimp only
    split
    · exact once
    · exact once
    · split
      · exact once
      next answer after performed =>
        have onceAfter : after.LostOnce := once.perform performed
        exact onceAfter

/-- The mutex is taken and released in turn, and the upper layer is told of each loss at most
once. -/
structure Disciplined (sys : System) : Prop where
  acquires : ∀ thread, (sys.threads thread).request? = some .lock -> sys.serialMutex ≠ some thread
  releases : ∀ thread, (sys.threads thread).request? = some .unlock -> sys.serialMutex = some thread
  sendFrameReturns : ∀ thread status,
    (sys.threads thread).request? = some (.sendFrameReturns status) ->
      (sys.serialMutex = some thread ↔ status = .ok)
  returned : ∀ thread result, sys.threads thread = .finish result -> sys.serialMutex ≠ some thread
  callsBack : ∀ thread,
    (sys.threads thread).request? = some .connectionLostCallback -> sys.serialMutex ≠ some thread
  oncePerLoss : sys.notices.Subperm sys.losses
  lossesAreApart : sys.losses.length ≤ sys.openings + 1

theorem Orderly.allows (orderly : sys.Orderly thread)
    (isRequest : (sys.threads thread).request? = some request) :
    ∃ duties, sys.HasDuties thread duties ∧ discipline.Allows duties request := by
  obtain ⟨duties, hasDuties, meets⟩ := orderly
  refine ⟨duties, hasDuties, ?_⟩
  cases isCode : sys.threads thread with
  | finish | loop =>
    rw [isCode] at isRequest
    cases isRequest
  | call other next =>
    rw [isCode] at isRequest meets
    cases isRequest
    exact meets.1

theorem disciplined_of_orderly (orderly : ∀ thread, sys.Orderly thread) (once : sys.LostOnce) :
    sys.Disciplined where
  acquires thread isRequest := by
    obtain ⟨duties, hasDuties, isAllowed⟩ := (orderly thread).allows isRequest
    have holdsNot : duties.holds = false := isAllowed
    exact fun same => absurd (hasDuties.holds.mpr same) (ne_true_of_eq_false holdsNot)
  releases thread isRequest := by
    obtain ⟨duties, hasDuties, isAllowed⟩ := (orderly thread).allows isRequest
    exact hasDuties.holds.mp isAllowed
  sendFrameReturns thread status isRequest := by
    obtain ⟨duties, hasDuties, isAllowed⟩ := (orderly thread).allows isRequest
    exact hasDuties.holds.symm.trans isAllowed
  returned thread result isCode same := by
    obtain ⟨duties, hasDuties, meets⟩ := orderly thread
    rw [isCode] at meets
    have isFree : duties = .free := meets
    have holds := hasDuties.holds.mpr same
    rw [isFree] at holds
    cases holds
  callsBack thread isRequest same := by
    obtain ⟨duties, hasDuties, isAllowed⟩ := (orderly thread).allows isRequest
    have isOwing : duties = ⟨false, true⟩ := isAllowed
    have holds := hasDuties.holds.mpr same
    rw [isOwing] at holds
    cases holds
  oncePerLoss := by
    apply List.subperm_ext_iff.mpr
    intro thread _
    obtain ⟨duties, hasDuties, -⟩ := orderly thread
    rw [hasDuties.owes]
    exact Nat.le_add_right _ _
  lossesAreApart := Nat.le_of_add_right_le once

/-- In every run of any number of threads, whatever the connection answers: the mutex is never
asked for by the thread that has it and never released by another, `send_frame` returns with
it exactly when it returns `SL_STATUS_OK`, a public function returns without it, and the upper
layer is told of a lost connection without it and at most once for each loss, of which there
is one at most for each time the connection was established. -/
theorem serial_mutex_disciplined (actions : List Action) :
    (run step initial actions).Disciplined := by
  apply disciplined_of_orderly
  · apply run_invariant (fun sys : System => ∀ thread, sys.Orderly thread)
    · intro sys action orderly thread
      exact orderly_step orderly action thread
    · exact Orderly.initial
  · apply run_invariant LostOnce
    · intro sys action once
      exact once.step action
    · exact Nat.le_refl 1

end System

end SessionCode

end SerialApi
