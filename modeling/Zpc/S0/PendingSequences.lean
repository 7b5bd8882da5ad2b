import Zpc.S0.ReceivingSessions

/-!
# Unfinished sequences

What becomes of a message whose frames are authentic and arrive in their order, when an
earlier sequence of two frames from the same node is unfinished.  The session of that
sequence is used for the message: the room for a frame is what the stored first part leaves,
also when the frame does not continue it, and a first frame does not start the ten seconds
of the session anew.
-/

namespace S0

open Foundation

/-- A frame that reaches the transport from a node. -/
structure Arrival where
  localNodeId : NodeId
  remoteNodeId : NodeId
  encapsulation : Encapsulation
  frame : List UInt8
  answers : Answers

/-- The action of a frame. -/
def Arrival.action (arrival : Arrival) : Transport.Action :=
  .frameReceived arrival.localNodeId arrival.remoteNodeId arrival.encapsulation arrival.frame
    arrival.answers

/-- Flags of a frame that is a whole message. -/
def IsSingle (flags : UInt8) : Prop := flags &&& sequencedBitMask = 0

/-- Flags of the first of two frames. -/
def IsFirst (flags : UInt8) : Prop :=
  flags &&& sequencedBitMask ≠ 0 ∧ flags &&& secondFrameBitMask = 0

/-- Flags of the second of two frames. -/
def IsSecond (flags : UInt8) : Prop :=
  flags &&& sequencedBitMask ≠ 0 ∧ flags &&& secondFrameBitMask ≠ 0

/-- A session waits for the frame that follows a first one. -/
structure RxSession.Waits (session : RxSession) (flags : UInt8) (data : List UInt8) : Prop where
  state : session.state = .rxEnc1
  msg : session.msg = data
  seqNr : session.seqNr = flags &&& 0xF

namespace Transport

variable (aes : BlockCipher)

/-- A frame is authentic, with some flags and data. -/
def Authentic (transport : Transport) (arrival : Arrival) (flags : UInt8)
    (data : List UInt8) : Prop :=
  IsEncapsulation arrival.frame ∧
    transport.opened aes arrival.localNodeId arrival.remoteNodeId arrival.frame = some (flags, data)

/-- Not every session is pending for other nodes. -/
def HasSession (transport : Transport) (arrival : Arrival) : Prop :=
  transport.rxSessionFor arrival.remoteNodeId arrival.localNodeId ≠ none

/-- With a frame some data is passed on, and nothing else. -/
def Delivers (transport : Transport) (arrival : Arrival) (data : List UInt8) : Prop :=
  (step aes transport arrival.action).delivered =
    ⟨arrival.localNodeId, arrival.remoteNodeId, data⟩ :: transport.delivered

/-- A message in one frame. -/
structure CompleteSingle
    (transport : Transport)
    (arrival : Arrival)
    (flags : UInt8)
    (data : List UInt8) : Prop where
  authentic : transport.Authentic aes arrival flags data
  isSingle : IsSingle flags
  nonempty : data ≠ []
  hasSession : transport.HasSession arrival

/-- An action between the two frames of a message: the network is not initialised, and no
other authentic frame arrives from the node. -/
def Between (first : Arrival) (transport : Transport) : Action -> Prop
  | .networkInit _ => False
  | .frameReceived localNodeId remoteNodeId encapsulation frame answers =>
      cutNodeId localNodeId = cutNodeId first.localNodeId ->
      cutNodeId remoteNodeId = cutNodeId first.remoteNodeId ->
      ∀ flags data,
        ¬ transport.Authentic aes ⟨localNodeId, remoteNodeId, encapsulation, frame, answers⟩ flags
          data
  | _ => True

/-- The transport when the second frame of a message arrives. -/
def afterFirst (transport : Transport) (first : Arrival) (between : List Action) : Transport :=
  run (step aes) (step aes transport first.action) between

/-- A message in two frames, of which the second arrives within the ten seconds that a session
lasts. -/
structure CompletePair
    (transport : Transport)
    (first : Arrival)
    (between : List Action)
    (second : Arrival)
    (flags secondFlags : UInt8)
    (data secondData : List UInt8) : Prop where
  sameLocal : second.localNodeId = first.localNodeId
  sameRemote : second.remoteNodeId = first.remoteNodeId
  authentic : transport.Authentic aes first flags data
  isFirst : IsFirst flags
  undisturbed : StepsMeet (step aes) (Between aes first) (step aes transport first.action) between
  secondAuthentic :
    (transport.afterFirst aes first between).Authentic aes second secondFlags secondData
  isSecond : IsSecond secondFlags
  sameNumber : secondFlags &&& 0xF = flags &&& 0xF
  nonempty : data ++ secondData ≠ []
  length : data.length + secondData.length ≤ maxEncryptedMsgSize
  inTime :
    (transport.afterFirst aes first between).clockTime ≤ transport.clockTime + clockSecond * 10
  hasSession : transport.HasSession first

/-- A session that is pending between the nodes has room for the data of a frame. -/
def MakesRoom (transport : Transport) (arrival : Arrival) (data : List UInt8) : Prop :=
  ∀ slot, transport.getRxSessionByNodes arrival.remoteNodeId arrival.localNodeId = some slot ->
    HasRoom (transport.rxSessions slot) data

/-- A session that is pending between the nodes lasts until a time, and has room for the data
of a first frame or waits for the second already. -/
def HandsOver (transport : Transport) (arrival : Arrival) (flags : UInt8) (data : List UInt8)
    (time : Nat) : Prop :=
  ∀ slot, transport.getRxSessionByNodes arrival.remoteNodeId arrival.localNodeId = some slot ->
    time ≤ (transport.rxSessions slot).timeout ∧
      (HasRoom (transport.rxSessions slot) data ∨ (transport.rxSessions slot).Waits flags data)

variable {arrival first : Arrival} {data secondData : List UInt8} {flags secondFlags : UInt8}
  {transport after other : Transport} {slot : Slot} {snode dnode : NodeId} {session : RxSession}
  {between : List Action}

/-- An encapsulated frame is decrypted, and what comes out is delivered. -/
theorem step_encapsulation (transport : Transport)
    (isEncapsulation : IsEncapsulation arrival.frame) :
    (step aes transport arrival.action).receiving =
        (transport.decryptMessage aes arrival.localNodeId arrival.remoteNodeId
          arrival.frame).2.receiving ∧
      (step aes transport arrival.action).delivered =
        if (transport.decryptMessage aes arrival.localNodeId arrival.remoteNodeId
            arrival.frame).1 = [] then transport.delivered
        else
          ⟨arrival.localNodeId, arrival.remoteNodeId,
            (transport.decryptMessage aes arrival.localNodeId arrival.remoteNodeId
              arrival.frame).1⟩ :: transport.delivered := by
  obtain ⟨short, isClass, isCommand⟩ := isEncapsulation
  have notNonce : ¬ arrival.frame.getD 1 0 = securityNonceGet ∧
      ¬ arrival.frame.getD 1 0 = securityNonceReport := by
    rcases isCommand with isNonceGet | isPlain
    · rw [isNonceGet]
      decide
    · rw [isPlain]
      decide
  obtain ⟨table, sessions, isState⟩ := decryptMessage_state aes transport arrival.localNodeId
    arrival.remoteNodeId arrival.frame
  unfold step Arrival.action applicationCommandHandler
  dsimp only
  rw [if_neg (Nat.not_lt.mpr short), if_neg (not_not.mpr isClass), if_neg notNonce.1,
    if_neg notNonce.2, if_pos isCommand]
  split
  all_goals
    refine ⟨rfl, ?_⟩
    rw [isState]
    rfl

theorem delivers_iff (transport : Transport) (isEncapsulation : IsEncapsulation arrival.frame)
    (nonempty : data ≠ []) :
    transport.Delivers aes arrival data ↔
      (transport.decryptMessage aes arrival.localNodeId arrival.remoteNodeId arrival.frame).1 =
        data := by
  unfold Delivers
  rw [(step_encapsulation aes transport isEncapsulation).2]
  constructor
  · intro delivered
    split at delivered
    · exact absurd delivered.symm (List.cons_ne_self _ _)
    · exact (Delivery.mk.inj (List.cons.inj delivered).1).2.2
  · intro same
    rw [same, if_neg nonempty]

theorem assemble_of_isSingle (transport : Transport) (slot : Slot) (isSingle : IsSingle flags)
    (data : List UInt8) : (transport.assemble slot flags data).1 = data := by
  have notSequenced : ¬ flags &&& sequencedBitMask ≠ 0 := not_not.mpr isSingle
  unfold assemble
  rw [if_neg notSequenced]

theorem assemble_of_isFirst (transport : Transport) (slot : Slot) (isFirst : IsFirst flags)
    (data : List UInt8) :
    transport.assemble slot flags data =
      ([], transport.modifyRxSession slot fun session =>
        { session with seqNr := flags &&& 0xF, msg := data, state := .rxEnc1 }) := by
  unfold assemble
  rw [if_pos isFirst.1, if_pos isFirst.2]

theorem assemble_of_isSecond (transport : Transport) (slot : Slot) (isSecond : IsSecond flags)
    (data : List UInt8) :
    (transport.assemble slot flags data).1 =
      if (transport.rxSessions slot).state ≠ .rxEnc1 ∨
          flags &&& 0xF ≠ (transport.rxSessions slot).seqNr then []
      else (transport.rxSessions slot).msg ++ data := by
  unfold assemble
  rw [if_pos isSecond.1, if_neg isSecond.2]
  split <;> rfl

theorem hasRoom_iff_makesRoom {reached : Transport}
    (isFound : transport.rxSessionFor arrival.remoteNodeId arrival.localNodeId =
      some (slot, reached))
    (data : List UInt8) :
    HasRoom (reached.rxSessions slot) data ↔ transport.MakesRoom arrival data := by
  rcases rxSessionFor_cases isFound with ⟨isPending, isReached⟩ | ⟨noPending, -, isReached⟩
  · rw [isReached]
    constructor
    · intro room pending isSlot
      rw [isPending] at isSlot
      cases isSlot
      exact room
    · intro room
      exact room slot isPending
  · constructor
    · intro _ pending isSlot
      rw [noPending] at isSlot
      cases isSlot
    · intro _
      left
      rw [isReached]
      simp [modifyRxSession]

theorem CompleteSingle.delivers_iff (complete : transport.CompleteSingle aes arrival flags data) :
    transport.Delivers aes arrival data ↔ transport.MakesRoom arrival data := by
  obtain ⟨⟨isEncapsulation, isOpened⟩, isSingle, nonempty, hasSession⟩ := complete
  rw [Transport.delivers_iff aes transport isEncapsulation nonempty]
  rcases decryptMessage_cases aes transport arrival.localNodeId arrival.remoteNodeId
      arrival.frame with
    ⟨-, -, noSession⟩ | ⟨slot, reached, isFound,
      ⟨nothing, -, noRoom⟩ | ⟨_, _, same, room, result, -⟩⟩
  · exact absurd (noSession flags data isOpened) hasSession
  · rw [nothing, ← hasRoom_iff_makesRoom isFound data]
    exact iff_of_false nonempty.symm (noRoom flags data isOpened)
  · rw [isOpened] at same
    cases same
    rw [result, ← hasRoom_iff_makesRoom isFound data]
    exact iff_of_true (assemble_of_isSingle reached slot isSingle data) room

theorem findSlot_eq_some_of_imp {fits stillFits : Slot -> Bool}
    (isFirst : findSlot fits = some slot)
    (isFit : stillFits slot = true)
    (onlyBefore : ∀ other, stillFits other = true -> fits other = true) :
    findSlot stillFits = some slot := by
  obtain ⟨-, before, after, isSplit, noneBefore⟩ := List.find?_eq_some_iff_append.mp isFirst
  refine List.find?_eq_some_iff_append.mpr ⟨isFit, before, after, isSplit, ?_⟩
  intro other isBefore
  have notBefore := noneBefore other isBefore
  rw [Bool.not_eq_true'] at notBefore ⊢
  exact eq_false_of_ne_true fun fits => ne_true_of_eq_false notBefore (onlyBefore other fits)

/-- A session is not free and between two nodes. -/
def PendingOf (transport : Transport) (snode dnode : NodeId) (slot : Slot) : Prop :=
  transport.isFree slot = false ∧ (transport.rxSessions slot).IsOf snode dnode

theorem fits_iff_pendingOf (transport : Transport) (snode dnode : NodeId) (slot : Slot) :
    (!transport.isFree slot && (transport.rxSessions slot).dnode == cutNodeId dnode &&
      (transport.rxSessions slot).snode == cutNodeId snode) = true ↔
        transport.PendingOf snode dnode slot := by
  simp only [Bool.and_eq_true, Bool.not_eq_true', beq_iff_eq, PendingOf, RxSession.IsOf]
  exact ⟨fun h => ⟨h.1.1, h.2, h.1.2⟩, fun h => ⟨⟨h.1, h.2.2⟩, h.2.1⟩⟩

theorem getRxSessionByNodes_of_imp
    (isPending : transport.getRxSessionByNodes snode dnode = some slot)
    (staysPending : after.PendingOf snode dnode slot)
    (onlyBefore : ∀ other, other ≠ slot -> after.PendingOf snode dnode other ->
      transport.PendingOf snode dnode other) :
    after.getRxSessionByNodes snode dnode = some slot := by
  apply findSlot_eq_some_of_imp isPending
  · exact (fits_iff_pendingOf after snode dnode slot).mpr staysPending
  · intro other isFit
    rw [fits_iff_pendingOf] at isFit ⊢
    by_cases isSlot : other = slot
    · rw [isSlot]
      exact getRxSessionByNodes_spec isPending
    · exact onlyBefore other isSlot isFit

theorem getRxSessionByNodes_of_only (isPending : transport.PendingOf snode dnode slot)
    (only : ∀ other, transport.PendingOf snode dnode other -> other = slot) :
    transport.getRxSessionByNodes snode dnode = some slot := by
  apply findSlot_eq_some_of_unique
  · exact (fits_iff_pendingOf transport snode dnode slot).mpr isPending
  · intro other isFit
    exact only other ((fits_iff_pendingOf transport snode dnode other).mp isFit)

theorem pendingOf_congr (same : other.receiving = transport.receiving) :
    other.PendingOf snode dnode slot ↔ transport.PendingOf snode dnode slot := by
  unfold PendingOf
  rw [isFree_congr same, (Prod.mk.inj same).1]

theorem getRxSessionByNodes_congr (same : other.receiving = transport.receiving)
    (isPending : transport.getRxSessionByNodes snode dnode = some slot) :
    other.getRxSessionByNodes snode dnode = some slot := by
  apply getRxSessionByNodes_of_imp isPending
  · exact (pendingOf_congr same).mpr (getRxSessionByNodes_spec isPending)
  · exact fun another _ stillPending => (pendingOf_congr same).mp stillPending

theorem pendingOf_of_update {changed : Slot}
    (isAfter : after.receiving =
      (Function.update transport.rxSessions changed session, transport.clockTime))
    (different : slot ≠ changed) :
    after.PendingOf snode dnode slot ↔ transport.PendingOf snode dnode slot := by
  obtain ⟨sameSession, sameFree⟩ := unchanged_of_update isAfter different
  unfold PendingOf
  rw [sameSession, sameFree]

theorem inTime_of_not_isFree (isLive : transport.isFree slot = false) :
    transport.clockTime ≤ (transport.rxSessions slot).timeout := by
  simp only [isFree, Bool.or_eq_false_iff, decide_eq_false_iff_not] at isLive
  exact Nat.not_lt.mp isLive.2

theorem isFree_of_waits (waits : (transport.rxSessions slot).Waits flags data)
    (inTime : transport.clockTime ≤ (transport.rxSessions slot).timeout) :
    transport.isFree slot = false := by
  unfold isFree
  rw [waits.state]
  simpa using inTime

/-- What a first frame leaves behind: the session of the nodes, with the data of the frame
when it had room for it, and with its old timeout when it was pending already. -/
theorem step_first (authentic : transport.Authentic aes arrival flags data)
    (isFirst : IsFirst flags) (hasSession : transport.HasSession arrival) :
    ∃ slot session,
      (step aes transport arrival.action).clockTime = transport.clockTime ∧
      (step aes transport arrival.action).rxSessions slot = session ∧
      (step aes transport arrival.action).getRxSessionByNodes arrival.remoteNodeId
        arrival.localNodeId = some slot ∧
      (transport.getRxSessionByNodes arrival.remoteNodeId arrival.localNodeId = none ∧
          session.timeout = transport.clockTime + clockSecond * 10 ∧ session.Waits flags data ∨
        transport.getRxSessionByNodes arrival.remoteNodeId arrival.localNodeId = some slot ∧
          session.timeout = (transport.rxSessions slot).timeout ∧
          (HasRoom (transport.rxSessions slot) data -> session.Waits flags data) ∧
          (¬ HasRoom (transport.rxSessions slot) data -> session = transport.rxSessions slot)) := by
  obtain ⟨isEncapsulation, isOpened⟩ := authentic
  obtain ⟨isAfter, -⟩ := step_encapsulation aes transport isEncapsulation
  generalize step aes transport arrival.action = after at isAfter ⊢
  rcases decryptMessage_cases aes transport arrival.localNodeId arrival.remoteNodeId
      arrival.frame with
    ⟨-, -, noSession⟩ | ⟨slot, reached, isFound, ⟨-, same, noRoom⟩ | ⟨_, _, same, room, -, result⟩⟩
  · exact absurd (noSession flags data isOpened) hasSession
  · have noRoom := noRoom flags data isOpened
    rw [same] at isAfter
    rcases rxSessionFor_cases isFound with ⟨isPending, isReached⟩ | ⟨-, -, isReached⟩
    · rw [isReached] at isAfter noRoom
      obtain ⟨sameSessions, sameClock⟩ := Prod.mk.inj isAfter
      refine ⟨slot, _, sameClock, congrFun sameSessions slot, ?_, .inr ?_⟩
      · exact getRxSessionByNodes_congr isAfter isPending
      · exact ⟨isPending, rfl, fun room => absurd room noRoom, fun _ => rfl⟩
    · rw [isReached] at noRoom
      exact absurd (.inl (by simp [modifyRxSession])) noRoom
  · rw [isOpened] at same
    cases same
    rw [result, assemble_of_isFirst reached slot isFirst] at isAfter
    rcases rxSessionFor_cases isFound with ⟨isPending, isReached⟩ | ⟨noPending, -, isReached⟩
    · rw [isReached] at isAfter
      have isUpdate : after.receiving =
        (Function.update transport.rxSessions slot
          { transport.rxSessions slot with
            seqNr := flags &&& 0xF, msg := data, state := .rxEnc1 }, transport.clockTime) := isAfter
      have isSession := rxSessions_of_update isUpdate
      have waits : (after.rxSessions slot).Waits flags data := by
        rw [isSession]
        exact ⟨rfl, rfl, rfl⟩
      obtain ⟨isLive, isOf⟩ := getRxSessionByNodes_spec isPending
      have inTime := inTime_of_not_isFree isLive
      have sameClock := (Prod.mk.inj isUpdate).2
      have stillPending : after.PendingOf arrival.remoteNodeId arrival.localNodeId slot := by
        refine ⟨isFree_of_waits waits ?_, ?_⟩
        · rw [sameClock, isSession]
          exact inTime
        · rw [isSession]
          exact isOf
      refine ⟨slot, _, sameClock, rfl, ?_, .inr ⟨isPending, ?_, fun _ => waits, fun noRoom => ?_⟩⟩
      · apply getRxSessionByNodes_of_imp isPending stillPending
        intro other different pending
        exact (pendingOf_of_update isUpdate different).mp pending
      · rw [isSession]
      · rw [isReached] at room
        exact absurd room noRoom
    · have isUpdate : after.receiving =
        (Function.update transport.rxSessions slot
          { transport.rxSessions slot with
            snode := cutNodeId arrival.remoteNodeId
            dnode := cutNodeId arrival.localNodeId
            timeout := transport.clockTime + clockSecond * 10
            seqNr := flags &&& 0xF
            msg := data
            state := .rxEnc1 }, transport.clockTime) := by
        rw [isAfter, isReached]
        unfold modifyRxSession receiving
        dsimp only
        rw [Function.update_self, Function.update_idem]
      have isSession := rxSessions_of_update isUpdate
      have sameClock := (Prod.mk.inj isUpdate).2
      have waits : (after.rxSessions slot).Waits flags data := by
        rw [isSession]
        exact ⟨rfl, rfl, rfl⟩
      have isTimeout : (after.rxSessions slot).timeout =
          transport.clockTime + clockSecond * 10 := by rw [isSession]
      refine ⟨slot, _, sameClock, rfl, ?_, .inl ⟨noPending, isTimeout, waits⟩⟩
      apply getRxSessionByNodes_of_only
      · refine ⟨isFree_of_waits waits ?_, ?_⟩
        · rw [sameClock, isTimeout]
          exact Nat.le_add_right _ _
        · rw [isSession]
          exact ⟨rfl, rfl⟩
      · intro other pending
        by_contra different
        obtain ⟨isLive, isOf⟩ := (pendingOf_of_update isUpdate different).mp pending
        exact not_isOf_of_noPending noPending isLive isOf

/-- The session of a slot is pending as it was left.  Once it has expired, no session between
the nodes waits for a second frame. -/
def Kept (snode dnode : NodeId) (slot : Slot) (session : RxSession)
    (transport : Transport) : Prop :=
  transport.clockTime ≤ session.timeout ∧
      transport.getRxSessionByNodes snode dnode = some slot ∧
      transport.rxSessions slot = session ∨
    session.timeout < transport.clockTime ∧
      ∀ other, transport.PendingOf snode dnode other -> (transport.rxSessions other).state = .rxInit

section

variable (kept : transport.Kept snode dnode slot session)
include kept

theorem Kept.congr (same : other.receiving = transport.receiving) :
    other.Kept snode dnode slot session := by
  obtain ⟨sameSessions, sameClock⟩ := Prod.mk.inj same
  rcases kept with ⟨inTime, isPending, isSession⟩ | ⟨expired, noneWaits⟩
  · left
    rw [sameClock, sameSessions]
    exact ⟨inTime, getRxSessionByNodes_congr same isPending, isSession⟩
  · right
    rw [sameClock, sameSessions]
    exact ⟨expired, fun another pending => noneWaits another ((pendingOf_congr same).mp pending)⟩

theorem Kept.clockTick (together : transport.ExpireTogether) (elapsed : Nat) :
    (step aes transport (.clockTick elapsed)).Kept snode dnode slot session := by
  have pendingBefore : ∀ other,
      (step aes transport (.clockTick elapsed)).PendingOf snode dnode other ->
        transport.PendingOf snode dnode other :=
    fun other pending => ⟨isFree_of_clockTick aes pending.1, pending.2⟩
  rcases kept with ⟨inTime, isPending, isSession⟩ | ⟨expired, noneWaits⟩
  · obtain ⟨isLive, isOf⟩ := getRxSessionByNodes_spec isPending
    by_cases stillInTime : transport.clockTime + elapsed ≤ session.timeout
    · left
      refine ⟨stillInTime, ?_, isSession⟩
      apply getRxSessionByNodes_of_imp isPending
      · refine ⟨?_, isOf⟩
        simp only [isFree, Bool.or_eq_false_iff, decide_eq_false_iff_not] at isLive ⊢
        refine ⟨isLive.1, Nat.not_lt.mpr ?_⟩
        change transport.clockTime + elapsed ≤ (transport.rxSessions slot).timeout
        rw [isSession]
        exact stillInTime
      · exact fun other _ pending => pendingBefore other pending
    · right
      have expired := Nat.not_le.mp stillInTime
      refine ⟨expired, fun other pending => ?_⟩
      obtain ⟨otherLive, otherOf⟩ := pendingBefore other pending
      have sameTimeout := together snode dnode slot other isLive isOf otherLive otherOf
      rw [isSession] at sameTimeout
      have otherExpired : (step aes transport (.clockTick elapsed)).isFree other = true := by
        simp only [isFree, Bool.or_eq_true, decide_eq_true_eq]
        right
        change (transport.rxSessions other).timeout < transport.clockTime + elapsed
        rw [← sameTimeout]
        exact expired
      exact absurd otherExpired (ne_true_of_eq_false pending.1)
  · right
    refine ⟨Nat.lt_of_lt_of_le expired (Nat.le_add_right transport.clockTime elapsed), ?_⟩
    exact fun other pending => noneWaits other (pendingBefore other pending)

theorem Kept.decryptMessage {localNodeId remoteNodeId : NodeId} {frame : List UInt8}
    (notOpened : cutNodeId localNodeId = cutNodeId dnode ->
      cutNodeId remoteNodeId = cutNodeId snode ->
      transport.opened aes localNodeId remoteNodeId frame = none)
    (isAfter : after.receiving =
      (transport.decryptMessage aes localNodeId remoteNodeId frame).2.receiving) :
    after.Kept snode dnode slot session := by
  rcases receiving_decryptMessage aes transport localNodeId remoteNodeId frame with
    same | ⟨changed, changedSession, isChanged, changedOf, origin⟩
  · exact kept.congr (isAfter.trans same)
  have isUpdate := isAfter.trans isChanged
  have sameClock := (Prod.mk.inj isUpdate).2
  have isSession := rxSessions_of_update isUpdate
  -- When the changed session is between the nodes, the frame has not been opened.
  have isNew : changedSession.IsOf snode dnode ->
      (∀ other, ¬ transport.PendingOf snode dnode other) ∧ changedSession.state = .rxInit := by
    rintro ⟨sameSnode, sameDnode⟩
    have sameRemote := changedOf.1.symm.trans sameSnode
    have sameLocal := changedOf.2.symm.trans sameDnode
    have notOpened := notOpened sameLocal sameRemote
    rcases origin with ⟨-, -, isOpened⟩ | ⟨noPending, -, isInit⟩
    · exact absurd notOpened isOpened
    · refine ⟨?_, isInit notOpened⟩
      rintro other ⟨isLive, isOf⟩
      exact not_isOf_of_noPending noPending isLive
        ⟨isOf.1.trans sameRemote.symm, isOf.2.trans sameLocal.symm⟩
  rcases kept with ⟨inTime, isPending, isKept⟩ | ⟨expired, noneWaits⟩
  · obtain pendingOf := getRxSessionByNodes_spec isPending
    have different : slot ≠ changed := by
      intro isSlot
      rcases origin with ⟨otherPending, -, isOpened⟩ | ⟨-, isFree, -⟩
      · obtain ⟨-, otherOf⟩ := getRxSessionByNodes_spec otherPending
        rw [← isSlot] at otherOf
        exact isOpened (notOpened (otherOf.2.symm.trans pendingOf.2.2)
          (otherOf.1.symm.trans pendingOf.2.1))
      · rw [← isSlot] at isFree
        exact absurd isFree (ne_true_of_eq_false pendingOf.1)
    left
    refine ⟨sameClock ▸ inTime, ?_, (unchanged_of_update isUpdate different).1.trans isKept⟩
    apply getRxSessionByNodes_of_imp isPending
    · exact (pendingOf_of_update isUpdate different).mpr pendingOf
    · intro other _ otherPending
      by_cases isOther : other = changed
      · rw [isOther] at otherPending
        have otherOf := otherPending.2
        rw [isSession] at otherOf
        exact absurd pendingOf ((isNew otherOf).1 slot)
      · exact (pendingOf_of_update isUpdate isOther).mp otherPending
  · right
    refine ⟨sameClock ▸ expired, fun other otherPending => ?_⟩
    by_cases isOther : other = changed
    · rw [isOther] at otherPending ⊢
      have otherOf := otherPending.2
      rw [isSession] at otherOf ⊢
      exact (isNew otherOf).2
    · rw [(unchanged_of_update isUpdate isOther).1]
      exact noneWaits other ((pendingOf_of_update isUpdate isOther).mp otherPending)

end

/-- The first half waits in its slot while nothing disturbs it. -/
theorem Kept.run (kept : transport.Kept first.remoteNodeId first.localNodeId slot session)
    (together : transport.ExpireTogether)
    (undisturbed : StepsMeet (step aes) (Between aes first) transport between) :
    (run (step aes) transport between).Kept first.remoteNodeId first.localNodeId slot session := by
  have both := undisturbed.invariant
    (fun transport => transport.Kept first.remoteNodeId first.localNodeId slot session ∧
      transport.ExpireTogether) ?_ ⟨kept, together⟩
  · exact both.1
  · rintro transport action ⟨kept, together⟩ isBetween
    refine ⟨?_, together.step aes action⟩
    rcases receiving_step aes transport action with
      same | ⟨networkKey, isAction⟩ | ⟨elapsed, isAction⟩ |
      ⟨localNodeId, remoteNodeId, encapsulation, frame, answers, isAction, isEncapsulation,
        decrypted⟩
    · exact kept.congr same
    · rw [isAction] at isBetween
      cases isBetween
    · rw [isAction]
      exact kept.clockTick aes together elapsed
    · rw [isAction] at isBetween
      refine kept.decryptMessage aes (fun sameLocal sameRemote => ?_) decrypted
      apply Option.eq_none_iff_forall_ne_some.mpr
      rintro ⟨flags, data⟩ isOpened
      exact isBetween sameLocal sameRemote flags data ⟨isEncapsulation, isOpened⟩

/-- The second frame completes the message when the kept session waits for it in time. -/
theorem delivers_second_iff
    (kept : transport.Kept arrival.remoteNodeId arrival.localNodeId slot session)
    (authentic : transport.Authentic aes arrival secondFlags secondData)
    (isSecond : IsSecond secondFlags) (sameNumber : secondFlags &&& 0xF = flags &&& 0xF)
    (nonempty : data ++ secondData ≠ [])
    (length : data.length + secondData.length ≤ maxEncryptedMsgSize) :
    transport.Delivers aes arrival (data ++ secondData) ↔
      transport.clockTime ≤ session.timeout ∧ session.Waits flags data := by
  obtain ⟨isEncapsulation, isOpened⟩ := authentic
  rw [delivers_iff aes transport isEncapsulation nonempty]
  have cases := decryptMessage_cases aes transport arrival.localNodeId arrival.remoteNodeId
    arrival.frame
  rcases kept with ⟨inTime, isPending, isSession⟩ | ⟨expired, noneWaits⟩
  · have isFound : transport.rxSessionFor arrival.remoteNodeId arrival.localNodeId =
        some (slot, transport) := by
      unfold rxSessionFor
      rw [isPending]
    rw [isFound] at cases
    rcases cases with
      ⟨-, -, noSession⟩ | ⟨_, _, same, ⟨nothing, -, noRoom⟩ | ⟨_, _, sameOpened, -, result, -⟩⟩
    · exact absurd (noSession _ _ isOpened) (by simp)
    · cases same
      rw [nothing]
      refine iff_of_false nonempty.symm ?_
      rintro ⟨-, waits⟩
      apply noRoom secondFlags secondData isOpened
      right
      rw [isSession, waits.msg]
      exact length
    · cases same
      rw [isOpened] at sameOpened
      cases sameOpened
      rw [result, assemble_of_isSecond transport slot isSecond, isSession]
      split
      next notWaiting =>
        refine iff_of_false nonempty.symm ?_
        rintro ⟨-, waits⟩
        rcases notWaiting with otherState | otherNumber
        · exact otherState waits.state
        · exact otherNumber (sameNumber.trans waits.seqNr.symm)
      next waiting =>
        rw [not_or, not_not, not_not] at waiting
        constructor
        · intro whole
          exact ⟨inTime, waiting.1, List.append_cancel_right whole, waiting.2.symm.trans sameNumber⟩
        · rintro ⟨-, waits⟩
          rw [waits.msg]
  · refine iff_of_false ?_ fun inTime => Nat.not_le.mpr expired inTime.1
    rcases cases with
      ⟨nothing, -, -⟩ | ⟨other, reached, isFound,
        ⟨nothing, -, -⟩ | ⟨_, _, sameOpened, -, result, -⟩⟩
    · rw [nothing]
      exact nonempty.symm
    · rw [nothing]
      exact nonempty.symm
    · rw [isOpened] at sameOpened
      cases sameOpened
      have isInit : (reached.rxSessions other).state = .rxInit := by
        rcases rxSessionFor_cases isFound with ⟨isPending, isReached⟩ | ⟨-, -, isReached⟩
        · rw [isReached]
          exact noneWaits other (getRxSessionByNodes_spec isPending)
        · rw [isReached]
          simp [modifyRxSession]
      rw [result, assemble_of_isSecond reached other isSecond, if_pos]
      · exact nonempty.symm
      · left
        rw [isInit]
        decide

theorem CompletePair.delivers_iff (together : transport.ExpireTogether) {second : Arrival}
    (complete : transport.CompletePair aes first between second flags secondFlags data secondData) :
    (transport.afterFirst aes first between).Delivers aes second (data ++ secondData) ↔
      transport.HandsOver first flags data
        (transport.afterFirst aes first between).clockTime := by
  obtain ⟨slot, session, sameClock, isSession, isPending, origin⟩ :=
    step_first aes complete.authentic complete.isFirst complete.hasSession
  have keptFirst : (step aes transport first.action).Kept first.remoteNodeId first.localNodeId slot
      session := by
    left
    rw [← isSession]
    exact ⟨inTime_of_not_isFree (getRxSessionByNodes_spec isPending).1, isPending, rfl⟩
  have kept : (transport.afterFirst aes first between).Kept first.remoteNodeId first.localNodeId
      slot session :=
    keptFirst.run aes (together.step aes first.action) complete.undisturbed
  rw [← complete.sameLocal, ← complete.sameRemote] at kept
  rw [delivers_second_iff aes kept complete.secondAuthentic complete.isSecond complete.sameNumber
    complete.nonempty complete.length]
  have inTime := complete.inTime
  unfold HandsOver
  rcases origin with ⟨noPending, isTimeout, waits⟩ | ⟨wasPending, sameTimeout, stored, dropped⟩
  · rw [noPending, isTimeout]
    exact iff_of_true ⟨inTime, waits⟩ (by simp)
  · rw [wasPending, sameTimeout]
    constructor
    · rintro ⟨stillInTime, waits⟩ pending isSlot
      cases isSlot
      refine ⟨stillInTime, ?_⟩
      by_cases room : HasRoom (transport.rxSessions slot) data
      · exact .inl room
      · exact .inr (dropped room ▸ waits)
    · intro handsOver
      obtain ⟨stillInTime, room | waits⟩ := handsOver slot rfl
      · exact ⟨stillInTime, stored room⟩
      · by_cases room : HasRoom (transport.rxSessions slot) data
        · exact ⟨stillInTime, stored room⟩
        · exact ⟨stillInTime, (dropped room).symm ▸ waits⟩

theorem rxSessions_of_not_authentic (transport : Transport)
    (notAuthentic : ∀ flags data, ¬ transport.Authentic aes arrival flags data)
    (isLive : transport.isFree slot = false) :
    (step aes transport arrival.action).rxSessions slot = transport.rxSessions slot := by
  rcases receiving_step aes transport arrival.action with
    same | ⟨networkKey, isAction⟩ | ⟨elapsed, isAction⟩ |
    ⟨localNodeId, remoteNodeId, encapsulation, frame, answers, isAction, isEncapsulation, decrypted⟩
  · rw [(Prod.mk.inj same).1]
  · cases isAction
  · cases isAction
  · cases isAction
    rcases receiving_decryptMessage aes transport arrival.localNodeId arrival.remoteNodeId
        arrival.frame with
      same | ⟨changed, session, isChanged, -, ⟨-, -, isOpened⟩ | ⟨-, isFree, -⟩⟩
    · rw [(Prod.mk.inj (decrypted.trans same)).1]
    · obtain ⟨⟨flags, data⟩, isSome⟩ := Option.ne_none_iff_exists'.mp isOpened
      exact absurd ⟨isEncapsulation, isSome⟩ (notAuthentic flags data)
    · have different : slot ≠ changed := by
        rintro rfl
        exact absurd isFree (ne_true_of_eq_false isLive)
      exact (unchanged_of_update (decrypted.trans isChanged) different).1

/-- At every point of a run: a message in one frame is passed on with its own bytes exactly
when a session that is pending between its nodes has room for it; a message in two frames is
passed on with its own bytes exactly when such a session lasts until the second frame and has
room for the first, or holds the same first part already; and a frame that is not authentic
leaves every pending session as it is. -/
theorem complete_messages_delivered_iff (actions : List Action) :
    let transport := run (step aes) initial actions
    (∀ arrival flags data,
      transport.CompleteSingle aes arrival flags data ->
        (transport.Delivers aes arrival data ↔ transport.MakesRoom arrival data)) ∧
      (∀ first between second flags secondFlags data secondData,
        transport.CompletePair aes first between second flags secondFlags data secondData ->
          ((transport.afterFirst aes first between).Delivers aes second (data ++ secondData) ↔
            transport.HandsOver first flags data
              (transport.afterFirst aes first between).clockTime)) ∧
      ∀ arrival,
        (∀ flags data, ¬ transport.Authentic aes arrival flags data) ->
          ∀ slot, transport.isFree slot = false ->
            (step aes transport arrival.action).rxSessions slot = transport.rxSessions slot := by
  intro transport
  refine ⟨?_, ?_, ?_⟩
  · intro arrival flags data complete
    exact complete.delivers_iff aes
  · intro first between second flags secondFlags data secondData complete
    exact complete.delivers_iff aes (expireTogether_run aes actions)
  · intro arrival notAuthentic slot isLive
    exact rxSessions_of_not_authentic aes transport notAuthentic isLive

/-- A frame from node 7 to node 2. -/
def frameFrom7 (sh flags : UInt8) (data : List UInt8) : Arrival where
  localNodeId := 2
  remoteNodeId := 7
  encapsulation := .none
  frame := encapsulatedFrame plainCipher initial.keys (.replicate 8 3) (.replicate 8 4) sh 7 2 flags
    data
  answers := drawing []

/-- Node 7 asks for a nonce. -/
def askForNonce : Action :=
  .frameReceived 2 7 .none [commandClassSecurity, securityNonceGet] (drawing [4])

/-- Node 7 has sent the first of two frames, with 100 bytes, and has asked for a nonce again. -/
def unfinished : List Action :=
  [.networkInit none, askForNonce,
    (frameFrom7 securityMessageEncapsulationNonceGet (frameFlags false true 1)
      (.replicate 100 0x20)).action,
    askForNonce]

/-- Node 7 gives up the sequence and sends a message in one frame. -/
def wholeMessage : Arrival := frameFrom7 securityMessageEncapsulation 0 (.replicate 40 0x30)

/-- Node 7 gives up the sequence and sends the first frame of another one. -/
def anotherFirst : Arrival :=
  frameFrom7 securityMessageEncapsulationNonceGet (frameFlags false true 17) (.replicate 40 0x30)

/-- The second frame of the other sequence. -/
def anotherSecond : Arrival :=
  frameFrom7 securityMessageEncapsulation (frameFlags true false 17) (.replicate 20 0x31)

theorem between_askForNonce (first : Arrival) (transport : Transport) :
    Between plainCipher first transport askForNonce := by
  rintro - - flags data ⟨⟨-, -, isCommand⟩, -⟩
  revert isCommand
  decide

/-- The message in one frame is dropped, and of the other sequence the second frame is passed
on behind the first frame of the unfinished one. -/
theorem dropped_and_mixed_unfinished : let transport := run (step plainCipher) initial unfinished
    (transport.CompleteSingle plainCipher wholeMessage 0 (.replicate 40 0x30) ∧
        (step plainCipher transport wholeMessage.action).delivered = transport.delivered) ∧
      transport.CompletePair plainCipher anotherFirst [askForNonce] anotherSecond
          (frameFlags false true 17) (frameFlags true false 17) (.replicate 40 0x30)
          (.replicate 20 0x31) ∧
        (transport.afterFirst plainCipher anotherFirst [askForNonce]).Delivers plainCipher
          anotherSecond (.replicate 100 0x20 ++ .replicate 20 0x31) := by
  intro transport
  refine ⟨⟨⟨⟨?_, ?_⟩, rfl, by decide, ?_⟩, ?_⟩, ?_, ?_⟩
  · unfold IsEncapsulation
    decide +kernel
  · decide +kernel
  · exact Option.ne_none_iff_isSome.mpr (by decide +kernel)
  · decide +kernel
  · have isFirst : IsFirst (frameFlags false true 17) := ⟨by decide, by decide⟩
    have isSecond : IsSecond (frameFlags true false 17) := ⟨by decide, by decide⟩
    have hasSession : transport.HasSession anotherFirst :=
      Option.ne_none_iff_isSome.mpr (by decide +kernel)
    refine ⟨rfl, rfl, ⟨?_, ?_⟩, isFirst, ?_, ⟨?_, ?_⟩, isSecond, by decide, by decide, by decide,
      by decide +kernel, hasSession⟩
    · unfold IsEncapsulation
      decide +kernel
    · decide +kernel
    · exact ⟨between_askForNonce anotherFirst _, trivial⟩
    · unfold IsEncapsulation
      decide +kernel
    · decide +kernel
  · unfold Delivers
    decide +kernel

end Transport

end S0
