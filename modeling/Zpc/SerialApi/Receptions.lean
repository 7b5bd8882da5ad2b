import Zpc.SerialApi.RoundTrip
import Zpc.SerialApi.Session

/-!
# Receptions of a session

A frame that is taken out of the queue while another one is added may take that
one with it: `zwapi_session_dequeue_frame` writes `zwapi_session_rx_queue` without
the mutex.  In every run in which it does not do so while a frame is being added,
and in which no frame is linked behind an element whose link it has read already,
the REQUEST frames that were dequeued and those still queued are the REQUEST frames
that were received while the queue had room, in the order of their reception.  A
response that was returned to a thread was received after the acknowledgement of
the frame that the thread sent last.
-/

namespace SerialApi

open Foundation

/-- The REQUEST frames that were received while the queue had room. -/
def acceptedFrames (history : List Event) : List (List UInt8) :=
  history.filterMap fun
    | .received frame false => if isRequest frame then some frame else none
    | _ => none

/-- The frames that were dequeued. -/
def dequeuedFrames (history : List Event) : List (List UInt8) :=
  history.filterMap fun
    | .dequeued frame => some frame
    | _ => none

/-- The thread has sent nothing since its command was acknowledged. -/
def AckedLast (thread : Nat) (command : UInt8) (history : List Event) : Prop :=
  ∃ earlier later, history = earlier ++ .acknowledged thread command :: later ∧
    ∀ other, .transmitted thread other ∉ later

/-- The response is a RESPONSE frame of the command, and it was received after the
acknowledgement of the last frame that the thread sent. -/
def Answers (thread : Nat) (command : UInt8) (response : List UInt8)
    (history : List Event) : Prop :=
  isResponse response = true ∧ response[2]? = some command ∧
    ∃ earlier later, history = earlier ++ .acknowledged thread command :: later ∧
      (∀ other, .transmitted thread other ∉ later) ∧
      ∃ queueFull, .received response queueFull ∈ later

/-- The thread is in `zwapi_session_enqueue_frame`. -/
def Phase.isEnqueue : Phase -> Bool
  | .enqueueFrame _ _ => true
  | _ => false

/-- The transmission for whose response the thread waits. -/
def Phase.awaited : Phase -> Option Transmission
  | .awaitResponse transmission _ _ => some transmission
  | .enqueueFrame _ (.awaitResponse transmission _) => some transmission
  | _ => none

@[simp] theorem acceptedFrames_received (history : List Event) (frame : List UInt8)
    (queueFull : Bool) :
    acceptedFrames (history ++ [.received frame queueFull]) =
      acceptedFrames history ++ if queueFull || !isRequest frame then [] else [frame] := by
  cases queueFull <;> cases isReq : isRequest frame <;> simp [acceptedFrames, isReq]

@[simp] theorem dequeuedFrames_received (history : List Event) (frame : List UInt8)
    (queueFull : Bool) :
    dequeuedFrames (history ++ [.received frame queueFull]) = dequeuedFrames history := by
  simp [dequeuedFrames]

namespace Session

/-- A frame is being added to the queue. -/
def enqueues (session : Session) : Bool :=
  session.serialMutex.any fun thread => (session.phase thread).isEnqueue

/-- A step does not take a frame out of the queue while one is being added, and does
not link an element behind one whose link was read to take it out. -/
def apart (session : Session) : Action -> Bool
  | .dequeueFrame =>
      match session.dequeue with
      | .setFirst _ _ => !session.enqueues
      | _ => true
  | .advance thread _ _ _ =>
      match session.phase thread, session.dequeue with
      | .enqueueFrame (.link _ e) _, .setFirst elem _ => decide (e ≠ elem)
      | _, _ => true
  | _ => true

/-- The REQUEST frames that were received while the queue had room are dequeued once
and in order, and none is lost; a response that was returned answers the frame that
was sent. -/
structure Receives (session : Session) : Prop where
  /-- No memory was accessed that is not there. -/
  noFault : session.faulted = false
  /-- The frames that were dequeued are the first ones that were received. -/
  inOrder : dequeuedFrames session.history <+: acceptedFrames session.history
  /-- The others are in the queue, unless one is still being added. -/
  complete : session.enqueues = false ->
    ∃ entries, Chain session.elements session.rxQueue entries ∧
      dequeuedFrames session.history ++ entries.map Prod.snd = acceptedFrames session.history
  /-- Every response that was returned answers the frame that the thread sent last. -/
  answered : ∀ thread command response before,
    before ++ [.returned thread command response] <+: session.history ->
    Answers thread command response before

/-! ## The queue -/

/-- What the receiving thread has read is still so. -/
def Dequeues (session : Session) (entries : List (Nat × List UInt8)) : Prop :=
  match session.dequeue with
  | .idle => True
  | .readNext elem => ∃ frame rest, entries = (elem, frame) :: rest
  | .setFirst elem next =>
      ∃ frame rest, entries = (elem, frame) :: rest ∧ next = firstAddress rest
  | .free elem => elem ∉ entries.map Prod.fst ∧ (session.elements elem).isSome

/-- The queue is a list of distinct elements. -/
structure Stored (session : Session) (entries : List (Nat × List UInt8)) : Prop where
  chain : Chain session.elements session.rxQueue entries
  nodup : (entries.map Prod.fst).Nodup
  dequeues : session.Dequeues entries
  noFault : session.faulted = false

/-- No frame is being added, and every REQUEST frame that found room in the queue was
dequeued or is queued. -/
def Accounted (session : Session) : Prop :=
  ∃ entries, session.Stored entries ∧ (∀ thread, (session.phase thread).isEnqueue = false) ∧
    dequeuedFrames session.history ++ entries.map Prod.snd = acceptedFrames session.history

/-- A new element holds the frame that is being added, and is not in the queue yet. -/
def Allocated (session : Session) (entries : List (Nat × List UInt8))
    (arriving : List (List UInt8)) (newElem : Nat) : Prop :=
  (∃ frame, session.elements newElem = some ⟨none, frame⟩ ∧ arriving = [frame]) ∧
    newElem ∉ entries.map Prod.fst ∧ session.dequeue ≠ .free newElem

/-- The frame that is being added, if there is room for it. -/
def arrival (session : Session) (entries : List (Nat × List UInt8)) : List (List UInt8) :=
  if maxRxQueueLength ≤ entries.length || !isRequest session.lastRxFrame then []
  else [session.lastRxFrame]

/-- What the thread that adds a frame knows about the queue. -/
def Adds (session : Session) (entries : List (Nat × List UInt8))
    (arriving : List (List UInt8)) : Enqueue -> Prop
  | .begin => arriving = session.arrival entries
  | .count q len =>
      arriving = session.arrival entries ∧
        ∃ before after, entries = before ++ after ∧ q = firstAddress after ∧ len = before.length
  | .choose newElem => session.Allocated entries arriving newElem
  | .setFirst newElem => session.Allocated entries arriving newElem ∧ entries = []
  | .walkFromFirst newElem => session.Allocated entries arriving newElem ∧ entries ≠ []
  | .walk newElem e => session.Allocated entries arriving newElem ∧ e ∈ entries.map Prod.fst
  | .link newElem e =>
      session.Allocated entries arriving newElem ∧
        ∃ before frame, entries = before ++ [(e, frame)]

/-- The thread with the mutex adds a frame, and no other thread does. -/
structure Entering (session : Session) (thread : Nat) (enqueue : Enqueue) (resume : Resume)
    (entries : List (Nat × List UInt8)) (arriving : List (List UInt8)) : Prop where
  stored : session.Stored entries
  holds : session.serialMutex = some thread
  isAt : session.phase thread = .enqueueFrame enqueue resume
  others : ∀ other, other ≠ thread -> (session.phase other).isEnqueue = false
  adds : session.Adds entries arriving enqueue
  frames : dequeuedFrames session.history ++ entries.map Prod.snd ++ arriving =
    acceptedFrames session.history

/-- Every REQUEST frame that found room was dequeued, is queued or is being added. -/
def Ordered (session : Session) : Prop :=
  session.Accounted ∨
    ∃ thread enqueue resume entries arriving,
      session.Entering thread enqueue resume entries arriving

/-- The queue is as it was. -/
structure Keeps (session next : Session) : Prop where
  rxQueue : next.rxQueue = session.rxQueue
  elements : next.elements = session.elements
  dequeue : next.dequeue = session.dequeue
  faulted : next.faulted = session.faulted

variable {session next : Session} {thread : Nat} {phase : Phase} {enqueue other : Enqueue}
  {resume : Resume} {entries : List (Nat × List UInt8)} {arriving : List (List UInt8)}

/-- The queue depends on its own variables only. -/
theorem Stored.keeps (stored : session.Stored entries) (keeps : session.Keeps next) :
    next.Stored entries := by
  obtain ⟨chain, nodup, dequeues, noFault⟩ := stored
  refine ⟨?_, nodup, ?_, keeps.faulted.trans noFault⟩
  · rw [keeps.elements, keeps.rxQueue]
    exact chain
  · unfold Dequeues
    rw [keeps.dequeue, keeps.elements]
    exact dequeues

/-- Every frame is accounted for when the last thread leaves
`zwapi_session_enqueue_frame`. -/
theorem Stored.goesTo (stored : session.Stored entries)
    (others : ∀ other, other ≠ thread -> (session.phase other).isEnqueue = false)
    (frames : dequeuedFrames session.history ++ entries.map Prod.snd =
      acceptedFrames session.history)
    (keeps : session.Keeps next) (history : next.history = session.history)
    (phases : next.phase = Function.update session.phase thread phase)
    (outside : phase.isEnqueue = false) :
    next.Accounted := by
  refine ⟨entries, stored.keeps keeps, fun other => ?_, ?_⟩
  · rw [phases]
    by_cases same : other = thread
    · rw [same, Function.update_self, outside]
    · rw [Function.update_of_ne same, others other same]
  · rw [history]
    exact frames

theorem Accounted.goesTo (accounted : session.Accounted) (keeps : session.Keeps next)
    (history : next.history = session.history)
    (phases : next.phase = Function.update session.phase thread phase)
    (outside : phase.isEnqueue = false) : next.Accounted := by
  obtain ⟨entries, stored, quiet, frames⟩ := accounted
  exact stored.goesTo (fun other _ => quiet other) frames keeps history phases outside

theorem Accounted.keeps (accounted : session.Accounted) (keeps : session.Keeps next)
    (history : next.history = session.history) (phases : next.phase = session.phase) :
    next.Accounted := by
  obtain ⟨entries, stored, quiet, frames⟩ := accounted
  refine ⟨entries, stored.keeps keeps, ?_, ?_⟩
  · rw [phases]
    exact quiet
  · rw [history]
    exact frames

theorem Accounted.hold (accounted : session.Accounted) (thread : Nat)
    (outside : phase.isEnqueue = false) : (session.hold thread phase).Accounted :=
  accounted.goesTo ⟨rfl, rfl, rfl, rfl⟩ rfl rfl outside

theorem Accounted.release (accounted : session.Accounted) (thread : Nat)
    (outside : phase.isEnqueue = false) : (session.release thread phase).Accounted :=
  accounted.goesTo ⟨rfl, rfl, rfl, rfl⟩ rfl rfl outside

/-- An event that is no reception and no dequeue counts for nothing. -/
theorem Accounted.record (accounted : session.Accounted) {event : Event}
    (accepts : acceptedFrames [event] = []) (dequeues : dequeuedFrames [event] = []) :
    (session.record event).Accounted := by
  obtain ⟨entries, stored, quiet, frames⟩ := accounted
  unfold acceptedFrames at accepts
  unfold dequeuedFrames at dequeues
  refine ⟨entries, { stored with }, quiet, ?_⟩
  unfold Session.record acceptedFrames dequeuedFrames
  simp only [List.filterMap_append, accepts, dequeues, List.append_nil]
  exact frames

theorem Accounted.tx (accounted : session.Accounted) (thread : Nat)
    (command : UInt8) (payload : List UInt8) (ackNeeded fails : Bool) :
    (session.tx thread command payload ackNeeded fails).2.Accounted := by
  apply Accounted.record _ rfl rfl
  exact accounted.keeps ⟨rfl, rfl, rfl, rfl⟩ rfl rfl

/-! ## Adding a frame -/

/-- What a refresh leaves to do: a frame that was received is to be added, unless it
is no REQUEST frame. -/
structure Pending (session : Session) (status : ConnectionStatus) : Prop where
  accounted : status ≠ .frameReceived -> session.Accounted
  ignored : status = .frameReceived -> isRequest session.lastRxFrame = false -> session.Accounted
  added : status = .frameReceived -> ∀ thread resume,
    (session.hold thread (.enqueueFrame .begin resume)).Ordered
  large : status = .frameReceived -> frameLengthMin.toNat ≤ session.lastRxFrame.length

/-- A frame that was received is the one that is being added. -/
theorem Accounted.pending (accounted : session.Accounted) :
    session.refresh.2.Pending session.refresh.1 := by
  obtain ⟨entries, stored, quiet, frames⟩ := accounted
  by_cases received : session.refresh.1 = .frameReceived
  · have isFull := stored.chain.reaches maxRxQueueLength
    have large := session.connection.refresh_received_length received
    have isNext : session.refresh.2 = { session with
        connection := session.connection.refresh.2
        history := session.history ++ [.received
          ({ session with connection := session.connection.refresh.2 } : Session).lastRxFrame
          (decide (maxRxQueueLength ≤ entries.length))] } := by
      simp only [refresh] at received ⊢
      rw [if_pos received, isFull]
      rfl
    rw [isNext]
    refine ⟨fun other => absurd received other, fun _ noRequest => ?_, fun _ thread resume => ?_,
      fun _ => large⟩
    · refine ⟨entries, { stored with }, quiet, ?_⟩
      rw [dequeuedFrames_received, acceptedFrames_received, if_pos, List.append_nil]
      · exact frames
      · rw [Bool.or_eq_true]
        exact .inr (congrArg (!·) noRequest)
    · refine .inr ⟨thread, .begin, resume, entries, _, { stored with }, rfl,
        Function.update_self .., fun other isOther => ?_, rfl, ?_⟩
      · exact (congrArg Phase.isEnqueue (Function.update_of_ne isOther ..)).trans (quiet other)
      · simp only [Session.hold, dequeuedFrames_received, acceptedFrames_received, frames]
        rfl
  · refine ⟨fun _ => ⟨entries, stored.keeps ?_, ?_, ?_⟩, fun is => absurd is received,
      fun is => absurd is received, fun is => absurd is received⟩ <;>
    simp only [refresh] at received ⊢ <;>
    rw [if_neg received]
    · exact ⟨rfl, rfl, rfl, rfl⟩
    · exact quiet
    · exact frames

/-- `zwapi_session_enqueue_frame` returns. -/
theorem Stored.goOn (stored : session.Stored entries)
    (others : ∀ other, other ≠ thread -> (session.phase other).isEnqueue = false)
    (frames : dequeuedFrames session.history ++ entries.map Prod.snd =
      acceptedFrames session.history)
    (resume : Resume) :
    (session.goOn thread resume).Accounted := by
  have goes : ∀ next phase, session.Keeps next -> next.history = session.history ->
      next.phase = Function.update session.phase thread phase -> phase.isEnqueue = false ->
      next.Accounted := fun next phase => stored.goesTo others frames
  cases resume with
  | drain | backoff => exact goes _ _ ⟨rfl, rfl, rfl, rfl⟩ rfl rfl rfl
  | awaitResponse transmission count =>
    show (session.waitAgain thread transmission count).Accounted
    unfold waitAgain
    split <;> exact goes _ _ ⟨rfl, rfl, rfl, rfl⟩ rfl rfl rfl

/-- The thread that adds a frame looks at the queue. -/
theorem Entering.looks (entering : session.Entering thread enqueue resume entries arriving)
    (adds : session.Adds entries arriving other) :
    (session.hold thread (.enqueueFrame other resume)).Ordered :=
  .inr ⟨thread, other, resume, entries, arriving, { entering.stored with }, rfl,
    Function.update_self .., fun _ isOther =>
      (congrArg Phase.isEnqueue (Function.update_of_ne isOther ..)).trans
        (entering.others _ isOther), by cases other <;> exact adds, entering.frames⟩

/-- The frame that is added finds no room, or is no REQUEST frame, or gets an element of
its own. -/
theorem Entering.counted {len : Nat}
    (entering : session.Entering thread (.count none len) resume entries arriving) (address : Nat) :
    (session.enqueueFrame thread address resume (.count none len)).Ordered := by
  obtain ⟨stored, holds, isAt, others, ⟨arrives, before, after, rfl, ends, rfl⟩, frames⟩ := entering
  obtain rfl : after = [] := by
    cases after with
    | nil => rfl
    | cons entry rest => cases ends
  rw [List.append_nil] at stored arrives frames
  simp only [enqueueFrame]
  unfold arrival at arrives
  split
  · rename_i ignored
    rw [if_pos ignored] at arrives
    rw [arrives, List.append_nil] at frames
    exact .inl (stored.goOn others frames resume)
  · rename_i isNew
    rw [if_neg isNew] at arrives
    split
    · exact .inr ⟨thread, _, resume, before, arriving, stored, holds, isAt, others,
        ⟨arrives.trans (if_neg isNew).symm, before, [], by simp, rfl, rfl⟩, frames⟩
    · rename_i isFree
      have unused : address ∉ before.map Prod.fst := fun mem => isFree (stored.chain.isSome mem)
      obtain ⟨chain, nodup, dequeues, noFault⟩ := stored
      unfold Dequeues at dequeues
      refine .inr ⟨thread, _, resume, before, arriving, ⟨?_, nodup, ?_, noFault⟩, rfl,
        Function.update_self .., fun other isOther => ?_, ⟨⟨_, Function.update_self .., arrives⟩,
          unused, ?_⟩, frames⟩
      · exact chain.congr fun other mem =>
          Function.update_of_ne (by rintro rfl; exact unused mem) ..
      · unfold Dequeues
        dsimp only [hold]
        split at dequeues <;> try exact dequeues
        refine ⟨dequeues.1, ?_⟩
        rw [Function.update_of_ne]
        · exact dequeues.2
        · rintro rfl
          exact isFree dequeues.2
      · exact (congrArg Phase.isEnqueue (Function.update_of_ne isOther ..)).trans
          (others other isOther)
      · intro frees
        have frees : session.dequeue = .free address := frees
        rw [frees] at dequeues
        exact isFree dequeues.2

variable {newElem : Nat}

/-- The first element of an empty queue is set. -/
theorem Entering.setsFirst
    (entering : session.Entering thread (.setFirst newElem) resume entries arriving) :
    (session.enqueueFrame thread address resume (.setFirst newElem)).Ordered := by
  obtain ⟨⟨-, -, dequeues, noFault⟩, -, -, others, ⟨⟨⟨frame, held, rfl⟩, -, isKept⟩, rfl⟩,
    frames⟩ :=
    entering
  have added : ({ session with rxQueue := some newElem } : Session).Stored [(newElem, frame)] := by
    refine ⟨⟨rfl, none, held, rfl⟩, by simp, ?_, noFault⟩
    unfold Dequeues at dequeues ⊢
    dsimp only
    split at dequeues
    · trivial
    · simp at dequeues
    · simp at dequeues
    · rename_i elem isFreed
      exact ⟨fun mem => isKept (isFreed.trans (congrArg _ (List.mem_singleton.mp mem))), dequeues.2⟩
  exact .inl (added.goOn others (by simpa using frames) resume)

/-- The new element is linked behind the last one. -/
theorem Entering.links {e : Nat}
    (entering : session.Entering thread (.link newElem e) resume entries arriving)
    (isApart : ∀ next, session.dequeue ≠ .setFirst e next) :
    (session.enqueueFrame thread address resume (.link newElem e)).Ordered := by
  obtain ⟨⟨chain, nodup, dequeues, noFault⟩, -, -, others,
    ⟨⟨⟨frame, held, rfl⟩, isNew, isKept⟩, before, last, rfl⟩, frames⟩ := entering
  have isLast := chain.cell
  simp only [enqueueFrame, isLast]
  have distinct : newElem ≠ e := fun same => isNew (by simp [same])
  have added : ({ session with
      elements := Function.update session.elements e (some ⟨some newElem, last⟩) } : Session).Stored
      (before ++ [(e, last), (newElem, frame)]) := by
    refine ⟨chain.append nodup held distinct, ?_, ?_, noFault⟩
    · rw [List.append_cons, List.map_append]
      refine nodup.append (List.nodup_singleton _) (List.disjoint_singleton.mpr isNew)
    · unfold Dequeues at dequeues ⊢
      dsimp only
      split at dequeues
      · trivial
      · obtain ⟨frame, rest, isFirst⟩ := dequeues
        cases before <;> cases isFirst <;> exact ⟨_, _, rfl⟩
      · rename_i elem link isSet
        obtain ⟨frame, rest, isFirst, rfl⟩ := dequeues
        cases before with
        | nil =>
          cases isFirst
          exact absurd isSet (isApart _)
        | cons entry others =>
          cases isFirst
          exact ⟨_, _, rfl, by cases others <;> rfl⟩
      · rename_i elem isFreed
        refine ⟨fun mem => ?_, ?_⟩
        · rw [List.append_cons, List.map_append] at mem
          rcases List.mem_append.mp mem with old | new
          · exact dequeues.1 old
          · exact isKept (isFreed.trans (by rw [List.mem_singleton.mp new]))
        · by_cases same : elem = e
          · exact absurd (by simp [same]) dequeues.1
          · rw [Function.update_of_ne same]
            exact dequeues.2
  refine .inl (added.goOn others ?_ resume)
  rw [← frames]
  simp

/-- Every access of the thread that adds a frame keeps the order. -/
theorem Entering.enqueueFrame (entering : session.Entering thread enqueue resume entries arriving)
    (address : Nat)
    (isApart : ∀ newElem e, enqueue = .link newElem e ->
      ∀ next, session.dequeue ≠ .setFirst e next) :
    (session.enqueueFrame thread address resume enqueue).Ordered := by
  have chain := entering.stored.chain
  have adds := entering.adds
  cases enqueue with
  | begin => exact entering.looks ⟨adds, [], entries, rfl, chain.link_eq, rfl⟩
  | count q len =>
    cases q with
    | none => exact entering.counted address
    | some q =>
      obtain ⟨arrives, before, after, rfl, isNext, rfl⟩ := adds
      cases after with
      | nil => cases isNext
      | cons entry rest =>
        cases isNext
        simp only [enqueueFrame, chain.cell]
        exact entering.looks ⟨arrives, before ++ [entry], rest, by simp, rfl, by simp⟩
  | choose newElem =>
    simp only [enqueueFrame, chain.link_eq]
    cases entries with
    | nil => exact entering.looks (show _ ∧ _ from ⟨adds, rfl⟩)
    | cons entry rest => exact entering.looks (show _ ∧ _ from ⟨adds, List.cons_ne_nil _ _⟩)
  | setFirst newElem => exact entering.setsFirst
  | walkFromFirst newElem =>
    simp only [enqueueFrame, chain.link_eq]
    cases entries with
    | nil => exact absurd rfl adds.2
    | cons entry rest => exact entering.looks (show _ ∧ _ from ⟨adds.1, by simp⟩)
  | walk newElem e =>
    obtain ⟨allocated, mem⟩ := adds
    obtain ⟨⟨same, item⟩, isEntry, rfl⟩ := List.mem_map.mp mem
    obtain ⟨before, after, rfl⟩ := List.append_of_mem isEntry
    simp only [enqueueFrame, chain.cell]
    cases after with
    | nil => exact entering.looks (show _ ∧ _ from ⟨allocated, before, item, rfl⟩)
    | cons entry rest => exact entering.looks (show _ ∧ _ from ⟨allocated, by simp⟩)
  | link newElem e => exact entering.links (isApart newElem e rfl)

/-! ## Steps of a thread -/

theorem accounted_afterDrain (accounted : session.Accounted) (thread : Nat) (isLost fails : Bool)
    (purpose : Purpose) : (session.afterDrain thread isLost fails purpose).Accounted := by
  cases purpose with
  | poll | beforeSend | backoff => exact accounted.release _ (by split_ifs <;> rfl)
  | beforeSendNoAck command payload =>
    unfold afterDrain
    split_ifs
    · exact accounted.release _ rfl
    · exact accounted.release _ rfl
    · exact (accounted.tx _ _ _ _ _).release _ (by split_ifs <;> rfl)

theorem isEnqueue_nextAttempt (transmission : Transmission) :
    (nextAttempt transmission).isEnqueue = false := by
  unfold nextAttempt
  split_ifs <;> rfl

variable {status : ConnectionStatus}

/-- An attempt ends, or the frame that came in its place is added. -/
theorem Pending.afterAttempt (pending : session.Pending status) (thread : Nat)
    (reopened : Option (List Signal)) (transmission : Transmission) :
    (session.afterAttempt thread reopened transmission status).Ordered := by
  cases status with
  | frameReceived => exact pending.added rfl _ _
  | frameSent =>
    have acknowledged := @Accounted.record session (pending.accounted (by simp))
      (.acknowledged thread transmission.command) rfl rfl
    unfold afterAttempt
    dsimp only
    split_ifs
    · exact .inl (acknowledged.hold _ rfl)
    · exact .inl (acknowledged.release _ rfl)
  | txTimeout =>
    have accounted := pending.accounted (by simp)
    unfold afterAttempt
    dsimp only
    split_ifs
    · exact .inl (accounted.goesTo ⟨rfl, rfl, rfl, rfl⟩ rfl rfl rfl)
    · exact .inl (accounted.goesTo ⟨rfl, rfl, rfl, rfl⟩ rfl rfl rfl)
    · exact .inl (accounted.release _ rfl)
  | idle | checksumError | txNak | txCan | connectionLost =>
    exact .inl ((pending.accounted (by simp)).release _ rfl)
  | rxTimeout => exact .inl ((pending.accounted (by simp)).release _ (isEnqueue_nextAttempt _))

theorem Accounted.waitAgain (accounted : session.Accounted) (thread : Nat)
    (transmission : Transmission) (frames : Nat) :
    (session.waitAgain thread transmission frames).Accounted := by
  unfold Session.waitAgain
  split_ifs
  · exact accounted.hold _ rfl
  · exact accounted.release _ rfl

/-- A wait for a response goes on or ends, or the frame that came instead is added. -/
theorem Pending.afterResponseWait (pending : session.Pending status) (thread : Nat)
    (transmission : Transmission) (frames : Nat) :
    (session.afterResponseWait thread transmission frames status).Ordered := by
  unfold Session.afterResponseWait
  split
  · rw [if_pos (pending.large rfl)]
    by_cases response : isResponse session.lastRxFrame = true
    · -- A RESPONSE frame is never to be queued.
      have noRequest : isRequest session.lastRxFrame = false := by
        simp only [isResponse, beq_iff_eq] at response
        simp [isRequest, response, frameTypeResponse, frameTypeRequest]
      have ignored := pending.ignored rfl noRequest
      split_ifs
      · exact .inl ((ignored.record rfl rfl).release _ rfl)
      · exact .inl (ignored.waitAgain _ _ _)
    · rw [if_neg response]
      exact pending.added rfl _ _
  · exact .inl ((pending.accounted (by simp)).release _ rfl)
  · rename_i notReceived notLost
    exact .inl ((pending.accounted notReceived).waitAgain _ _ _)

theorem Accounted.wait (accounted : session.Accounted) (thread : Nat)
    (outside : phase.isEnqueue = false) (sessionTimer : Timestamp)
    {done : Session -> ConnectionStatus -> Session}
    (finishes : ∀ next status, next.Pending status -> (done next status).Ordered) :
    (session.wait thread phase sessionTimer done).Ordered := by
  have pending := accounted.pending
  unfold Session.wait
  dsimp only
  split_ifs with idle elapsed
  · exact finishes _ _ pending
  · have unreceived := pending.accounted (by simp [not_not.mp idle])
    exact finishes _ _ ⟨fun _ => unreceived, by simp, by simp, by simp⟩
  · exact .inl ((pending.accounted (by simp [not_not.mp idle])).hold _ outside)

/-- A thread goes on while no frame is being added. -/
theorem Accounted.advance (accounted : session.Accounted) (thread : Nat)
    (fails : Bool) (reopened : Option (List Signal)) (address : Nat) :
    (session.advance thread fails reopened address).Ordered := by
  unfold Session.advance
  split
  · exact .inl accounted
  · exact .inl (accounted.goesTo ⟨rfl, rfl, rfl, rfl⟩ rfl rfl rfl)
  · dsimp only
    split_ifs with received
    · exact accounted.pending.added received _ _
    · exact .inl (accounted_afterDrain (accounted.pending.accounted received) _ _ _ _)
  · dsimp only
    split_ifs
    · exact .inl (accounted.release _ rfl)
    · exact .inl ((accounted.tx _ _ _ _ _).release _ rfl)
    · exact .inl ((accounted.tx _ _ _ _ _).hold _ rfl)
  · exact accounted.wait _ rfl _ fun next status pending => pending.afterAttempt _ _ _
  · refine .inl (accounted.goesTo ⟨rfl, rfl, rfl, rfl⟩ rfl rfl ?_)
    split_ifs
    · exact isEnqueue_nextAttempt _
    · rfl
  · exact accounted.wait _ rfl _ fun next status pending => pending.afterResponseWait _ _ _
  · rename_i adds
    obtain ⟨-, -, quiet, -⟩ := accounted
    exact absurd (quiet thread) (by rw [adds]; simp [Phase.isEnqueue])

/-- Another thread goes on without the mutex while a frame is being added. -/
theorem Entering.proceed {goer : Nat}
    (entering : session.Entering thread enqueue resume entries arriving) (isOther : goer ≠ thread)
    (outside : phase.isEnqueue = false) : (session.proceed goer phase).Ordered := by
  refine .inr ⟨thread, enqueue, resume, entries, arriving,
    { entering.stored with }, entering.holds,
    (Function.update_of_ne isOther.symm ..).trans entering.isAt, fun other notThis => ?_,
    by cases enqueue <;> exact entering.adds, entering.frames⟩
  by_cases same : other = goer
  · rw [same]
    exact (congrArg Phase.isEnqueue (Function.update_self ..)).trans outside
  · exact (congrArg Phase.isEnqueue (Function.update_of_ne same ..)).trans
      (entering.others other notThis)

/-- A change of the line, or of what was read to take a frame out, is none of the
queue. -/
theorem Ordered.of_same (ordered : session.Ordered) (phase : next.phase = session.phase)
    (serialMutex : next.serialMutex = session.serialMutex)
    (history : next.history = session.history)
    (lastRxFrame : next.lastRxFrame = session.lastRxFrame)
    (stored : ∀ entries, session.Stored entries -> next.Stored entries)
    (allocated : ∀ entries arriving newElem,
      session.Allocated entries arriving newElem -> next.Allocated entries arriving newElem) :
    next.Ordered := by
  rcases ordered with ⟨entries, isStored, quiet, frames⟩ |
    ⟨thread, enqueue, resume, entries, arriving, isStored, holds, isAt, others, adds, frames⟩
  · exact .inl ⟨entries, stored _ isStored, phase ▸ quiet, by rw [history]; exact frames⟩
  · refine .inr ⟨thread, enqueue, resume, entries, arriving, stored _ isStored,
      serialMutex.trans holds, phase ▸ isAt, phase ▸ others, ?_, by rw [history]; exact frames⟩
    have arrives : next.arrival entries = session.arrival entries := by
      unfold arrival
      rw [lastRxFrame]
    cases enqueue with
    | begin => exact adds.trans arrives.symm
    | count q len => exact ⟨adds.1.trans arrives.symm, adds.2⟩
    | choose newElem => exact allocated _ _ _ adds
    | setFirst | walkFromFirst | walk | link => exact ⟨allocated _ _ _ adds.1, adds.2⟩

/-- A frame is taken out of the queue. -/
theorem Accounted.takes {elem : Nat} {link : Option Nat} (accounted : session.Accounted)
    (isSet : session.dequeue = .setFirst elem link) : session.dequeueFrame.Accounted := by
  obtain ⟨entries, ⟨chain, nodup, dequeues, noFault⟩, quiet, frames⟩ := accounted
  unfold Dequeues at dequeues
  rw [isSet] at dequeues
  obtain ⟨frame, rest, rfl, rfl⟩ := dequeues
  have held := (show Chain _ _ ([] ++ _) from chain).cell
  obtain ⟨-, next, sameCell, later⟩ := chain
  cases held.symm.trans sameCell
  rw [List.map_cons, List.nodup_cons] at nodup
  simp only [dequeueFrame, isSet, held]
  refine ⟨rest, ⟨later, nodup.2, ⟨nodup.1, ?_⟩, noFault⟩, quiet, ?_⟩
  · simp [Session.record, held]
  · simpa [Session.record, dequeuedFrames, acceptedFrames] using frames

/-- Every access of `zwapi_session_dequeue_frame` keeps the order, if it takes no frame
out while another one is being added. -/
theorem Ordered.dequeueFrame (ordered : session.Ordered)
    (isApart : session.apart .dequeueFrame = true) : session.dequeueFrame.Ordered := by
  cases dequeue : session.dequeue with
  | idle =>
    simp only [Session.dequeueFrame, dequeue]
    split
    · exact ordered
    · rename_i elem isFirst
      refine ordered.of_same rfl rfl rfl rfl (fun entries stored => ?_)
        fun entries arriving newElem allocated => ⟨allocated.1, allocated.2.1, by simp⟩
      refine ⟨stored.chain, stored.nodup, ?_, stored.noFault⟩
      have link := stored.chain.link_eq
      cases entries with
      | nil => exact absurd (isFirst.symm.trans link) (by simp [firstAddress])
      | cons entry rest =>
        cases isFirst.symm.trans link
        exact ⟨_, _, rfl⟩
  | readNext elem =>
    have reads : ∀ entries, session.Stored entries ->
        ∃ frame rest, entries = (elem, frame) :: rest ∧
          session.elements elem = some ⟨firstAddress rest, frame⟩ := by
      intro entries stored
      have dequeues := stored.dequeues
      unfold Dequeues at dequeues
      rw [dequeue] at dequeues
      obtain ⟨frame, rest, rfl⟩ := dequeues
      exact ⟨frame, rest, rfl, (show Chain _ _ ([] ++ _) from stored.chain).cell⟩
    obtain ⟨entries, stored⟩ : ∃ entries, session.Stored entries := by
      rcases ordered with ⟨entries, stored, -⟩ | ⟨-, -, -, entries, -, stored, -⟩ <;>
        exact ⟨entries, stored⟩
    obtain ⟨frame, rest, -, held⟩ := reads entries stored
    simp only [Session.dequeueFrame, dequeue, held]
    refine ordered.of_same rfl rfl rfl rfl (fun other stored => ?_)
      fun other arriving newElem allocated => ⟨allocated.1, allocated.2.1, by simp⟩
    obtain ⟨otherFrame, otherRest, rfl, same⟩ := reads other stored
    obtain ⟨isNext, -⟩ := Cell.mk.inj (Option.some.inj (held.symm.trans same))
    exact ⟨stored.chain, stored.nodup, ⟨_, _, rfl, isNext⟩, stored.noFault⟩
  | setFirst elem link =>
    rcases ordered with accounted | ⟨thread, enqueue, resume, entries, arriving, entering⟩
    · exact .inl (accounted.takes dequeue)
    · rw [apart, dequeue] at isApart
      simp [enqueues, entering.holds, entering.isAt, Phase.isEnqueue] at isApart
  | free elem =>
    simp only [Session.dequeueFrame, dequeue]
    refine ordered.of_same rfl rfl rfl rfl (fun entries stored => ?_) ?_
    · have dequeues := stored.dequeues
      unfold Dequeues at dequeues
      rw [dequeue] at dequeues
      exact ⟨stored.chain.congr fun other mem =>
          Function.update_of_ne (by rintro rfl; exact dequeues.1 mem) .., stored.nodup, trivial,
        stored.noFault⟩
    · rintro entries arriving newElem ⟨⟨frame, held, arrives⟩, isNew, isKept⟩
      refine ⟨⟨frame, (Function.update_of_ne ?_ ..).trans held, arrives⟩, isNew, by simp⟩
      rintro rfl
      exact isKept dequeue

variable {action : Action}

/-- The order is kept by every step that meets the condition. -/
theorem Ordered.act (ordered : session.Ordered) (isApart : session.apart action = true) :
    (session.act action).Ordered := by
  cases action with
  | call thread operation =>
    simp only [act]
    split_ifs with isIdle
    · have outside : operation.start.isEnqueue = false := by cases operation <;> rfl
      rcases ordered with accounted | ⟨owner, enqueue, resume, entries, arriving, entering⟩
      · exact .inl (accounted.goesTo ⟨rfl, rfl, rfl, rfl⟩ rfl rfl outside)
      · refine entering.proceed ?_ outside
        rintro rfl
        exact nomatch entering.isAt.symm.trans isIdle
    · exact ordered
  | advance thread fails reopened address =>
    simp only [act]
    split_ifs with goes
    · rcases ordered with accounted | ⟨owner, enqueue, resume, entries, arriving, entering⟩
      · exact accounted.advance _ _ _ _
      · by_cases isOwner : thread = owner
        · rw [isOwner] at isApart ⊢
          unfold advance
          rw [entering.isAt]
          refine entering.enqueueFrame address fun newElem e isLink next isSet => ?_
          subst isLink
          simp [apart, entering.isAt, isSet] at isApart
        · -- Without the mutex a thread only looks at its timer.
          unfold canAdvance at goes
          rw [entering.holds] at goes
          unfold advance
          cases isAt : session.phase thread with
          | backoff transmission retryTimer =>
            refine entering.proceed isOwner ?_
            split_ifs
            · exact isEnqueue_nextAttempt _
            · rfl
          | _ => simp [isAt, Ne.symm isOwner] at goes
    · exact ordered
  | dequeueFrame => exact ordered.dequeueFrame isApart
  | arrive | tick =>
    exact ordered.of_same rfl rfl rfl rfl (fun _ stored => { stored with })
      fun _ _ _ allocated => allocated
  | elapse =>
    exact ordered.of_same rfl rfl rfl
      (by simp only [act, lastRxFrame, Line.elapse]; rfl)
      (fun _ stored => { stored with }) fun _ _ _ allocated => allocated

/-- Every step with the threads apart accounts for each REQUEST frame. -/
theorem Ordered.step (ordered : session.Ordered) (isApart : session.apart action = true) :
    (session.step action).Ordered := by
  unfold Session.step
  split_ifs
  · exact ordered
  · exact ordered.act isApart

/-! ## Responses -/

/-- A thread that waits for a response has its frame acknowledged, and every
response that was returned answers the frame that the thread sent last. -/
structure Supported (session : Session) : Prop where
  /-- A thread that waits for a response sent nothing after the acknowledgement. -/
  awaiting : ∀ thread transmission, (session.phase thread).awaited = some transmission ->
    AckedLast thread transmission.command session.history
  /-- What was returned is the response to the command. -/
  returned : ∀ thread command response before,
    before ++ [.returned thread command response] <+: session.history ->
    Answers thread command response before

end Session

variable {thread : Nat} {command : UInt8} {history : List Event}

theorem AckedLast.append (acked : AckedLast thread command history) {event : Event}
    (other : ∀ next, event ≠ .transmitted thread next) :
    AckedLast thread command (history ++ [event]) := by
  obtain ⟨earlier, later, rfl, silent⟩ := acked
  refine ⟨earlier, later ++ [event], by simp, fun next mem => ?_⟩
  obtain before | now := List.mem_append.mp mem
  · exact silent next before
  · exact other next (List.mem_singleton.mp now).symm

/-- A RESPONSE frame of the command that comes after the acknowledgement is the answer. -/
theorem AckedLast.answers {thread : Nat} {command : UInt8} {history : List Event}
    (acked : AckedLast thread command history) {response : List UInt8}
    (isResp : isResponse response = true) (same : response[2]? = some command) (queueFull : Bool) :
    Answers thread command response (history ++ [.received response queueFull]) := by
  obtain ⟨earlier, later, rfl, silent⟩ := acked
  refine ⟨isResp, same, earlier, later ++ [.received response queueFull], by simp,
    fun next mem => ?_, queueFull, by simp⟩
  obtain before | now := List.mem_append.mp mem
  · exact silent next before
  · exact nomatch List.mem_singleton.mp now

namespace Session

variable {session next : Session} {thread : Nat} {phase : Phase} {command : UInt8}
  {transmission : Transmission}

theorem Supported.keeps (supported : session.Supported) (phase : next.phase = session.phase)
    (history : next.history = session.history) : next.Supported where
  awaiting := by
    rw [phase, history]
    exact supported.awaiting
  returned := by
    rw [history]
    exact supported.returned

theorem Supported.goesTo (supported : session.Supported)
    (phases : next.phase = Function.update session.phase thread phase)
    (history : next.history = session.history)
    (acked : ∀ transmission, phase.awaited = some transmission ->
      AckedLast thread transmission.command session.history) :
    next.Supported where
  awaiting other transmission waits := by
    rw [history]
    rw [phases] at waits
    by_cases same : other = thread
    · subst same
      rw [Function.update_self] at waits
      exact acked transmission waits
    · rw [Function.update_of_ne same] at waits
      exact supported.awaiting other transmission waits
  returned := by
    rw [history]
    exact supported.returned

/-- A thread goes on without waiting for a response. -/
theorem Supported.leaves (supported : session.Supported)
    (phases : next.phase = Function.update session.phase thread phase)
    (history : next.history = session.history) (plain : phase.awaited = none) : next.Supported :=
  supported.goesTo phases history fun _ waits => nomatch plain.symm.trans waits

theorem Supported.record (supported : session.Supported) {event : Event}
    (unreturned : ∀ thread command response, event ≠ .returned thread command response)
    (unsent : ∀ thread command, event = .transmitted thread command ->
      (session.phase thread).awaited = none) :
    (session.record event).Supported where
  awaiting thread transmission waits := by
    apply (supported.awaiting thread transmission waits).append
    intro next sent
    exact nomatch (unsent thread next sent).symm.trans waits
  returned thread command response before within := by
    obtain whole | earlier := List.prefix_concat_iff.mp within
    · exact absurd (List.append_inj_right' whole rfl) (by simpa using (unreturned _ _ _).symm)
    · exact supported.returned thread command response before earlier

theorem Supported.record_returned (supported : session.Supported) {response : List UInt8}
    (answers : Answers thread command response session.history) :
    (session.record (.returned thread command response)).Supported where
  awaiting other transmission waits := by
    apply (supported.awaiting other transmission waits).append
    simp
  returned other otherCommand otherResponse before within := by
    obtain whole | earlier := List.prefix_concat_iff.mp within
    · obtain ⟨rfl, same⟩ := List.append_inj' whole rfl
      obtain ⟨rfl, rfl, rfl⟩ := same
      exact answers
    · exact supported.returned other otherCommand otherResponse before earlier

@[simp] theorem refresh_phase (session : Session) : session.refresh.2.phase = session.phase := by
  simp only [refresh]
  split_ifs <;> rfl

theorem Supported.refresh (supported : session.Supported) : session.refresh.2.Supported := by
  have refreshed : { session with connection := session.connection.refresh.2 }.Supported :=
    supported.keeps rfl rfl
  simp only [Session.refresh]
  split_ifs
  · exact refreshed.record (by simp) (by simp)
  · exact refreshed

theorem Supported.tx (supported : session.Supported)
    (unawaited : (session.phase thread).awaited = none) (command : UInt8) (payload : List UInt8)
    (ackNeeded fails : Bool) : (session.tx thread command payload ackNeeded fails).2.Supported := by
  have sent : { session with connection := (session.connection.tx command frameTypeRequest
      payload ackNeeded fails).2 }.Supported := supported.keeps rfl rfl
  refine sent.record (by simp) ?_
  rintro other next same
  cases same
  exact unawaited

theorem awaited_nextAttempt (transmission : Transmission) :
    (nextAttempt transmission).awaited = none := by
  unfold nextAttempt
  split_ifs <;> rfl

theorem Supported.afterDrain (supported : session.Supported)
    (unawaited : (session.phase thread).awaited = none) (isLost fails : Bool) (purpose : Purpose) :
    (session.afterDrain thread isLost fails purpose).Supported := by
  cases purpose with
  | poll | beforeSend | backoff => exact supported.leaves rfl rfl (by split_ifs <;> rfl)
  | beforeSendNoAck command payload =>
    unfold Session.afterDrain
    split_ifs
    · exact supported.leaves rfl rfl rfl
    · exact supported.leaves rfl rfl rfl
    · exact (supported.tx unawaited command payload false fails).leaves rfl rfl
        (by split_ifs <;> rfl)

theorem Supported.afterAttempt (supported : session.Supported) (thread : Nat)
    (reopened : Option (List Signal)) (transmission : Transmission) (status : ConnectionStatus) :
    (session.afterAttempt thread reopened transmission status).Supported := by
  cases status with
  | frameSent =>
    have acknowledged := @Supported.record session supported
      (.acknowledged thread transmission.command) (by simp) (by simp)
    simp only [Session.afterAttempt]
    split_ifs
    · refine acknowledged.goesTo rfl rfl fun other same => ?_
      cases same
      exact ⟨session.history, [], rfl, by simp⟩
    · exact acknowledged.leaves rfl rfl rfl
  | txTimeout =>
    simp only [Session.afterAttempt]
    split_ifs <;> exact supported.leaves rfl rfl rfl
  | rxTimeout => exact supported.leaves rfl rfl (awaited_nextAttempt _)
  | _ => exact supported.leaves rfl rfl rfl

theorem Supported.waitAgain (supported : session.Supported)
    (acked : AckedLast thread transmission.command session.history) (frames : Nat) :
    (session.waitAgain thread transmission frames).Supported := by
  unfold Session.waitAgain
  split_ifs
  · refine supported.goesTo rfl rfl fun other same => ?_
    cases same
    exact acked
  · exact supported.leaves rfl rfl rfl

theorem Supported.afterResponseWait (supported : session.Supported)
    (acked : AckedLast thread transmission.command session.history) {status : ConnectionStatus}
    (answers : status = .frameReceived ->
      isResponse session.lastRxFrame = true ->
      session.lastRxFrame[2]? = some transmission.command ->
      Answers thread transmission.command session.lastRxFrame session.history)
    (frames : Nat) :
    (session.afterResponseWait thread transmission frames status).Supported := by
  unfold Session.afterResponseWait
  split
  · split_ifs with large response same
    · exact (supported.record_returned (answers rfl response same)).leaves rfl rfl rfl
    · exact supported.waitAgain acked frames
    · refine supported.goesTo rfl rfl fun other same => ?_
      cases same
      exact acked
    · exact supported.waitAgain acked frames
  · exact supported.leaves rfl rfl rfl
  · exact supported.waitAgain acked frames

theorem refresh_history (session : Session) :
    session.refresh.2.history = session.history ++
      if session.refresh.1 = .frameReceived then
        [.received session.refresh.2.lastRxFrame
          (reaches session.elements maxRxQueueLength session.rxQueue)]
      else [] := by
  simp only [refresh]
  split_ifs
  · rfl
  · exact (List.append_nil _).symm

theorem AckedLast_refresh (acked : AckedLast thread command session.history) :
    AckedLast thread command session.refresh.2.history := by
  rw [refresh_history]
  split_ifs
  · exact acked.append (by simp)
  · rwa [List.append_nil]

/-- Adding a frame changes neither the history nor what the thread waits for. -/
theorem Supported.enqueueFrame (supported : session.Supported) {enqueue : Enqueue} {resume : Resume}
    (isAt : session.phase thread = .enqueueFrame enqueue resume) (address : Nat) :
    (session.enqueueFrame thread address resume enqueue).Supported := by
  have acked := supported.awaiting thread
  rw [isAt] at acked
  have stays : ∀ (next : Session) other, next.history = session.history ->
      next.phase = Function.update session.phase thread (.enqueueFrame other resume) ->
      next.Supported := fun next other history phases =>
    supported.goesTo phases history fun transmission waits => acked transmission <| by
      cases resume <;> exact waits
  have returns : ∀ next : Session, next.history = session.history -> next.phase = session.phase ->
      (next.goOn thread resume).Supported := by
    intro next history phases
    have kept := supported.keeps phases history
    cases resume with
    | drain | backoff => exact kept.leaves rfl rfl rfl
    | awaitResponse transmission frames =>
      exact kept.waitAgain (history ▸ acked transmission rfl) frames
  unfold Session.enqueueFrame
  split
  · exact stays _ _ rfl rfl
  · split
    · exact supported.keeps rfl rfl
    · exact stays _ _ rfl rfl
  · split_ifs
    · exact returns _ rfl rfl
    · exact supported
    · exact stays _ _ rfl rfl
  · exact stays _ _ rfl rfl
  · exact returns _ rfl rfl
  · split
    · exact supported.keeps rfl rfl
    · exact stays _ _ rfl rfl
  · split
    · exact supported.keeps rfl rfl
    all_goals exact stays _ _ rfl rfl
  · split
    · exact supported.keeps rfl rfl
    · exact returns _ rfl rfl

/-- A thread that advances leaves its responses supported. -/
theorem Supported.advance (supported : session.Supported) (thread : Nat)
    (fails : Bool) (reopened : Option (List Signal)) (address : Nat) :
    (session.advance thread fails reopened address).Supported := by
  cases phase : session.phase thread with
  | idle =>
    simp only [Session.advance, phase]
    exact supported
  | notifyConnectionLost =>
    simp only [Session.advance, phase]
    exact supported.leaves rfl rfl rfl
  | drain purpose =>
    simp only [Session.advance, phase]
    split_ifs
    · exact supported.refresh.leaves rfl rfl rfl
    · exact supported.refresh.afterDrain (by simp [phase, Phase.awaited]) _ _ _
  | attempt transmission =>
    have sent := @Supported.tx session thread supported (by simp [phase, Phase.awaited])
      transmission.command transmission.payload true fails
    simp only [Session.advance, phase]
    split_ifs
    · exact supported.leaves rfl rfl rfl
    · exact sent.afterAttempt _ _ _ _
    · exact sent.leaves rfl rfl rfl
  | awaitAck transmission sessionTimer =>
    simp only [Session.advance, phase, Session.wait]
    split_ifs
    · exact supported.refresh.afterAttempt _ _ _ _
    · exact supported.refresh.afterAttempt _ _ _ _
    · exact supported.refresh.leaves rfl rfl rfl
  | backoff transmission retryTimer =>
    simp only [Session.advance, phase]
    refine supported.leaves rfl rfl ?_
    split_ifs
    · exact awaited_nextAttempt _
    · rfl
  | awaitResponse transmission frames sessionTimer =>
    have acked := supported.awaiting thread transmission (by rw [phase]; rfl)
    have still := AckedLast_refresh acked
    simp only [Session.advance, phase, Session.wait]
    split_ifs
    · apply supported.refresh.afterResponseWait still
      intro received response same
      rw [refresh_history, if_pos received]
      exact acked.answers response same _
    · exact supported.refresh.afterResponseWait still (by simp) frames
    · refine supported.refresh.goesTo rfl rfl fun other same => ?_
      cases same
      exact still
  | enqueueFrame enqueue resume =>
    simp only [Session.advance, phase]
    exact supported.enqueueFrame phase address

theorem Supported.dequeueFrame (supported : session.Supported) :
    session.dequeueFrame.Supported := by
  unfold Session.dequeueFrame
  split
  · split <;> exact supported.keeps rfl rfl
  · split <;> exact supported.keeps rfl rfl
  · split
    · exact supported.keeps rfl rfl
    · rename_i elem next _ _ cell _
      have taken : { session with rxQueue := next, dequeue := .free elem }.Supported :=
        supported.keeps rfl rfl
      exact taken.record (by simp) (by simp)
  · exact supported.keeps rfl rfl

/-- Every step leaves the responses that were returned supported. -/
theorem Supported.step (supported : session.Supported) (action : Action) :
    (session.step action).Supported := by
  unfold Session.step
  split_ifs
  · exact supported
  cases action with
  | call thread operation =>
    simp only [act]
    split_ifs
    · exact supported.leaves rfl rfl (by cases operation <;> rfl)
    · exact supported
  | advance thread fails reopened address =>
    simp only [act]
    split_ifs
    · exact supported.advance _ _ _ _
    · exact supported
  | dequeueFrame => exact supported.dequeueFrame
  | arrive | elapse | tick => exact supported.keeps rfl rfl

theorem Ordered.receives (ordered : session.Ordered) (supported : session.Supported) :
    session.Receives := by
  rcases ordered with ⟨entries, stored, quiet, frames⟩ |
    ⟨thread, enqueue, resume, entries, arriving, entering⟩
  · exact ⟨stored.noFault, ⟨_, frames⟩, fun _ => ⟨entries, stored.chain, frames⟩,
      supported.returned⟩
  · refine ⟨entering.stored.noFault, ⟨entries.map Prod.snd ++ arriving, ?_⟩, fun silent => ?_,
      supported.returned⟩
    · rw [← List.append_assoc]
      exact entering.frames
    · simp [enqueues, entering.holds, entering.isAt, Phase.isEnqueue] at silent

/-- In every run in which no frame is taken out of the queue while another one is added,
and none is linked behind an element whose link was read, the REQUEST frames that were
dequeued are the first of those that were received while the queue had room, the queue
holds the others, and every response that was returned is a RESPONSE frame of the command,
received after the acknowledgement of the frame that the thread sent last. -/
theorem receives_of_apart (line : Line) (actions : List Action)
    (isApart : StepsMeet step (fun session action => session.apart action = true) (initial line)
      actions) :
    (run step (initial line) actions).Receives := by
  have ordered : (run step (initial line) actions).Ordered := by
    refine isApart.invariant Ordered (fun _ action ordered meets => ordered.step meets) ?_
    exact .inl ⟨[], ⟨rfl, List.nodup_nil, trivial, rfl⟩, fun _ => rfl, rfl⟩
  have supported : (run step (initial line) actions).Supported := by
    refine run_invariant Supported (fun _ action supported => supported.step action) ?_ actions
    exact ⟨by simp [initial, Phase.awaited], by simp [initial]⟩
  exact ordered.receives supported

/-- A REQUEST frame of a command. -/
def requestSignals (command : UInt8) : List Signal :=
  (encode command frameTypeRequest []).map .byte

/-- A thread polls, receives a REQUEST frame and adds it to the empty queue. -/
def polled : List Action :=
  [.arrive (requestSignals 0x04), .call 1 .enqueueRxFrames] ++
    List.replicate 6 (.advance 1 false none 0)

/-- Another thread is about to send, receives a REQUEST frame and adds it behind the
first one. -/
def drained : List Action :=
  [.arrive (requestSignals 0x49), .call 2 (.sendFrame 0x20 [])] ++
    List.replicate 8 (.advance 2 false none 1)

/-- A frame is taken out while no other one is added. -/
def inTurn : List Action := polled ++ drained ++ List.replicate 4 .dequeueFrame

theorem receives_inTurn :
    dequeuedFrames (run step (initial ⟨[], [], 0⟩) inTurn).history = [[3, 0x00, 0x04]] ∧
      (run step (initial ⟨[], [], 0⟩) inTurn).Receives :=
  ⟨by decide +kernel, receives_of_apart _ _ (by decide +kernel)⟩

/-- The receiving thread has read that nothing follows the first frame when the other
thread adds the second one. -/
def overlapping : List Action :=
  polled ++ List.replicate 2 .dequeueFrame ++ drained ++ List.replicate 2 .dequeueFrame

/-- The second frame is lost: it was received with room in the queue and is neither
dequeued nor queued. -/
theorem not_receives_overlapping :
    ¬∀ (line : Line) (actions : List Action), (run step (initial line) actions).Receives := by
  intro receives
  obtain ⟨entries, chain, frames⟩ := (receives ⟨[], [], 0⟩ overlapping).complete (by decide +kernel)
  have isEmpty : (run step (initial ⟨[], [], 0⟩) overlapping).rxQueue = none := by decide +kernel
  rw [isEmpty] at chain
  cases entries with
  | nil => exact absurd frames (by decide +kernel)
  | cons entry rest => exact nomatch chain.1

end Session

end SerialApi
