import Zpc.S0.RoundTrip

/-!
# The receiving sessions

What an encrypted frame and everything else that may happen does to the sessions that put
messages of two frames together.  Nothing but a frame whose nonce is known, the initialisation
of the network and the clock makes a difference to them.
-/

namespace S0

open Foundation

/-- A session is one between two nodes. -/
def RxSession.IsOf (session : RxSession) (snode dnode : NodeId) : Prop :=
  session.snode = cutNodeId snode ∧ session.dnode = cutNodeId dnode

namespace Transport

/-- The receiving sessions and the clock they are compared with. -/
def receiving (transport : Transport) : (Slot -> RxSession) × Nat :=
  (transport.rxSessions, transport.clockTime)

theorem receiving_of_unsent {before after : Transport} (same : after.unsent = before.unsent) :
    after.receiving = before.receiving := congrArg Prod.snd same

variable {transport after other : Transport} {localNodeId remoteNodeId snode dnode : NodeId}
  {answers : Answers} {frame : List UInt8} {changed : Slot} {session : RxSession}

theorem receiving_sendNonce
    (isAfter : transport.sendNonce localNodeId remoteNodeId answers = some after) :
    after.receiving = transport.receiving := by
  unfold sendNonce at isAfter
  split at isAfter
  · cases isAfter
  · split at isAfter
    all_goals
      cases isAfter
      exact congrArg Prod.snd (unsent_evictFrames transport answers.evicted)

variable (aes : BlockCipher)

variable {slot : Slot}

theorem receiving_sendEncrypted {pass2 : Bool}
    (isAfter : transport.sendEncrypted aes slot pass2 answers = some after) :
    after.receiving = transport.receiving := by
  unfold sendEncrypted at isAfter
  dsimp only at isAfter
  generalize isSession : transport.modifySession slot _ = started at isAfter
  have isStarted : started.receiving = transport.receiving := by
    rw [← isSession]
    rfl
  rw [← isStarted]
  rcases encryptMessage_cases aes started slot pass2 answers with
    isStuck | isRefused | ⟨table, length, left, isLeft, isRefused | ⟨frame, isFrame, -⟩⟩
  · rw [isStuck] at isAfter
    cases isAfter
  · rw [isRefused] at isAfter
    cases isAfter
    rfl
  · rw [isRefused] at isAfter
    cases isAfter
    rw [isLeft]
    rfl
  · rw [isFrame] at isAfter
    cases isAfter
    rw [receiving_of_unsent (unsent_sendFrame _ _ _ _ _), isLeft]
    rfl

theorem receiving_registerNonce {src dst : NodeId} {nonce : Nonce}
    (isAfter : transport.registerNonce aes src dst nonce answers = some after) :
    after.receiving = transport.receiving := by
  unfold registerNonce at isAfter
  split at isAfter
  · cases isAfter
    rfl
  · split at isAfter
    · cases isAfter
      rfl
    · dsimp only at isAfter
      split at isAfter
      · exact (receiving_sendEncrypted aes isAfter).trans rfl
      · exact (receiving_sendEncrypted aes isAfter).trans rfl
      · exact (receiving_sendEncrypted aes isAfter).trans rfl
      · split at isAfter
        · exact (receiving_sendEncrypted aes isAfter).trans rfl
        · cases isAfter
          rfl
      · cases isAfter
        rfl

/-- What a frame holds when its nonce is known and its authentication tag is right: the flags
and the data. -/
def opened (transport : Transport) (localNodeId remoteNodeId : NodeId)
    (encryptedFrame : List UInt8) : Option (UInt8 × List UInt8) :=
  let frame := encryptedFrame.take (encryptedFrame.length % 2 ^ 8)
  if frame.length < s0EncapHeaderLen then none
  else if maxEncryptedMsgSize < frame.length - s0EncapHeaderLen then none
  else
    match transport.nonceTable.getS0Nonce localNodeId remoteNodeId
        (some (receiversNonceIdentifier frame)) with
    | none => none
    | some entry => openedFrame aes transport.keys entry.nonce remoteNodeId localNodeId frame

/-- A session has room for the data of a frame, as the code checks it. -/
def HasRoom (session : RxSession) (data : List UInt8) : Prop :=
  session.state = .rxInit ∨ session.msg.length + data.length ≤ maxEncryptedMsgSize

theorem length_of_openedFrame {keys : Keys} {receiversNonce : Nonce} {sender receiver : NodeId}
    {flags : UInt8} {data : List UInt8}
    (isOpened : openedFrame aes keys receiversNonce sender receiver frame = some (flags, data))
    (long : s0EncapHeaderLen ≤ frame.length) : data.length = frame.length - s0EncapHeaderLen := by
  unfold openedFrame at isOpened
  dsimp only at isOpened
  split at isOpened
  next =>
    split at isOpened
    next other rest isPayload =>
      cases isOpened
      have sameLength := congrArg List.length isPayload
      rw [length_aesOfb, List.length_take, List.length_drop, List.length_cons] at sameLength
      unfold s0EncapHeaderLen at long ⊢
      omega
    next => cases isOpened
  next => cases isOpened

theorem assemble_congr (same : transport.receiving = other.receiving) (slot : Slot) (flags : UInt8)
    (data : List UInt8) :
    (transport.assemble slot flags data).1 = (other.assemble slot flags data).1 ∧
      (transport.assemble slot flags data).2.receiving =
        (other.assemble slot flags data).2.receiving := by
  obtain ⟨sameSessions, sameClock⟩ := Prod.mk.inj same
  unfold assemble
  dsimp only
  rw [sameSessions]
  split
  · split
    · refine ⟨rfl, ?_⟩
      unfold receiving modifyRxSession
      rw [sameSessions, sameClock]
    · split
      · exact ⟨rfl, same⟩
      · refine ⟨rfl, ?_⟩
        unfold receiving modifyRxSession
        rw [sameSessions, sameClock]
  · refine ⟨rfl, ?_⟩
    unfold receiving modifyRxSession
    rw [sameSessions, sameClock]

/-- A frame finds no session, or it is dropped with the session that was found for it, or it
is opened and the session has room for it. -/
theorem decryptMessage_cases (transport : Transport) (localNodeId remoteNodeId : NodeId)
    (frame : List UInt8) :
    ((transport.decryptMessage aes localNodeId remoteNodeId frame).1 = [] ∧
        (transport.decryptMessage aes localNodeId remoteNodeId frame).2.receiving =
          transport.receiving ∧
        ∀ flags data,
          transport.opened aes localNodeId remoteNodeId frame = some (flags, data) ->
          transport.rxSessionFor remoteNodeId localNodeId = none) ∨
      ∃ slot reached,
        transport.rxSessionFor remoteNodeId localNodeId = some (slot, reached) ∧
          ((transport.decryptMessage aes localNodeId remoteNodeId frame).1 = [] ∧
              (transport.decryptMessage aes localNodeId remoteNodeId frame).2.receiving =
                reached.receiving ∧
              (∀ flags data,
                transport.opened aes localNodeId remoteNodeId frame = some (flags, data) ->
                ¬ HasRoom (reached.rxSessions slot) data) ∨
            ∃ flags data,
              transport.opened aes localNodeId remoteNodeId frame = some (flags, data) ∧
                HasRoom (reached.rxSessions slot) data ∧
                (transport.decryptMessage aes localNodeId remoteNodeId frame).1 =
                  (reached.assemble slot flags data).1 ∧
                (transport.decryptMessage aes localNodeId remoteNodeId frame).2.receiving =
                  (reached.assemble slot flags data).2.receiving) := by
  unfold decryptMessage opened
  generalize frame.take (frame.length % 2 ^ 8) = kept
  by_cases short : kept.length < s0EncapHeaderLen
  · rw [if_pos short, if_pos short]
    exact .inl ⟨rfl, rfl, by simp⟩
  rw [if_neg short, if_neg short]
  by_cases long : maxEncryptedMsgSize < kept.length - s0EncapHeaderLen
  · rw [if_pos long, if_pos long]
    exact .inl ⟨rfl, rfl, by simp⟩
  rw [if_neg long, if_neg long]
  cases found : transport.nonceTable.getS0Nonce localNodeId remoteNodeId
      (some (receiversNonceIdentifier kept)) with
  | none => exact .inl ⟨rfl, rfl, by simp⟩
  | some entry =>
    dsimp only
    cases isFound : transport.rxSessionFor remoteNodeId localNodeId with
    | none =>
      rw [rxSessionFor_nonceTable, isFound]
      exact .inl ⟨rfl, rfl, fun _ _ _ => rfl⟩
    | some pair =>
      obtain ⟨slot, reached⟩ := pair
      obtain ⟨isFoundThen, sameKeys⟩ := rxSessionFor_withNonceTable isFound
        (transport.nonceTable.useNonce localNodeId remoteNodeId entry)
      refine .inr ⟨slot, reached, rfl, ?_⟩
      rw [isFoundThen]
      dsimp only
      rw [sameKeys]
      cases isOpened : openedFrame aes transport.keys entry.nonce remoteNodeId localNodeId
          kept with
      | none =>
        left
        split <;> exact ⟨rfl, rfl, by simp⟩
      | some content =>
        obtain ⟨flags, data⟩ := content
        have length := length_of_openedFrame aes isOpened (by omega)
        by_cases room : HasRoom (reached.rxSessions slot) data
        · right
          refine ⟨flags, data, rfl, room, ?_⟩
          rw [if_neg]
          · dsimp only
            apply assemble_congr
            rfl
          · rintro ⟨notInit, tooLong⟩
            rcases room with isInit | isRoom
            · exact notInit isInit
            · omega
        · left
          rw [if_pos]
          · refine ⟨rfl, rfl, ?_⟩
            rintro _ _ ⟨⟩
            exact room
          · refine ⟨fun isInit => room (.inl isInit), ?_⟩
            by_contra isRoom
            exact room (.inr (by omega))

theorem getRxSessionByNodes_spec (isPending : transport.getRxSessionByNodes snode dnode = some slot)
    :
    transport.isFree slot = false ∧ (transport.rxSessions slot).IsOf snode dnode := by
  have fits := List.find?_some isPending
  simp only [Bool.and_eq_true, Bool.not_eq_true', beq_iff_eq] at fits
  exact ⟨fits.1.1, fits.2, fits.1.2⟩

theorem not_isOf_of_noPending (noPending : transport.getRxSessionByNodes snode dnode = none)
    (isLive : transport.isFree slot = false) : ¬ (transport.rxSessions slot).IsOf snode dnode := by
  rintro ⟨sameSnode, sameDnode⟩
  have notFit := not_pending noPending slot
  rw [isLive, sameSnode, sameDnode] at notFit
  simp at notFit

theorem rxSessionFor_cases {reached : Transport}
    (isFound : transport.rxSessionFor snode dnode = some (slot, reached)) :
    transport.getRxSessionByNodes snode dnode = some slot ∧ reached = transport ∨
      transport.getRxSessionByNodes snode dnode = none ∧ transport.isFree slot = true ∧
        reached = transport.modifyRxSession slot fun session =>
          { session with
            snode := cutNodeId snode
            dnode := cutNodeId dnode
            state := .rxInit
            timeout := transport.clockTime + clockSecond * 10 } := by
  unfold rxSessionFor newRxSession at isFound
  cases isPending : transport.getRxSessionByNodes snode dnode with
  | some pending =>
    rw [isPending] at isFound
    cases isFound
    exact .inl ⟨rfl, rfl⟩
  | none =>
    rw [isPending] at isFound
    obtain ⟨free, foundFree, same⟩ := Option.map_eq_some_iff.mp isFound
    cases same
    exact .inr ⟨rfl, List.find?_some foundFree, rfl⟩

theorem receiving_assemble (transport : Transport) (slot : Slot) (flags : UInt8)
    (data : List UInt8) :
    ∃ session,
      (transport.assemble slot flags data).2.receiving =
        (Function.update transport.rxSessions slot session, transport.clockTime) ∧
      session.snode = (transport.rxSessions slot).snode ∧
      session.dnode = (transport.rxSessions slot).dnode ∧
      session.timeout = (transport.rxSessions slot).timeout := by
  unfold assemble
  dsimp only
  split
  · split
    · exact ⟨_, rfl, rfl, rfl, rfl⟩
    · split
      · refine ⟨transport.rxSessions slot, ?_, rfl, rfl, rfl⟩
        rw [Function.update_eq_self]
        rfl
      · exact ⟨_, rfl, rfl, rfl, rfl⟩
  · exact ⟨_, rfl, rfl, rfl, rfl⟩

theorem receiving_decryptMessage (transport : Transport) (localNodeId remoteNodeId : NodeId)
    (frame : List UInt8) :
    (transport.decryptMessage aes localNodeId remoteNodeId frame).2.receiving =
        transport.receiving ∨
      ∃ slot session,
        (transport.decryptMessage aes localNodeId remoteNodeId frame).2.receiving =
            (Function.update transport.rxSessions slot session, transport.clockTime) ∧
          session.IsOf remoteNodeId localNodeId ∧
          (transport.getRxSessionByNodes remoteNodeId localNodeId = some slot ∧
              session.timeout = (transport.rxSessions slot).timeout ∧
              transport.opened aes localNodeId remoteNodeId frame ≠ none ∨
            transport.getRxSessionByNodes remoteNodeId localNodeId = none ∧
              transport.isFree slot = true ∧
              (transport.opened aes localNodeId remoteNodeId frame = none ->
                session.state = .rxInit)) := by
  rcases decryptMessage_cases aes transport localNodeId remoteNodeId frame with
    ⟨-, same, -⟩ |
    ⟨slot, reached, isFound, ⟨-, same, -⟩ | ⟨flags, data, isOpened, -, -, same⟩⟩
  · exact .inl same
  · rcases rxSessionFor_cases isFound with ⟨-, isReached⟩ | ⟨noPending, isFree, isReached⟩
    · left
      rw [same, isReached]
    · right
      rw [same, isReached]
      exact ⟨slot, _, rfl, ⟨rfl, rfl⟩, .inr ⟨noPending, isFree, fun _ => rfl⟩⟩
  · right
    obtain ⟨session, isSession, sameSnode, sameDnode, sameTimeout⟩ :=
      receiving_assemble reached slot flags data
    rw [same, isSession, isOpened]
    rcases rxSessionFor_cases isFound with ⟨isPending, isReached⟩ | ⟨noPending, isFree, isReached⟩
    · obtain ⟨-, isOf⟩ := getRxSessionByNodes_spec isPending
      rw [isReached] at sameSnode sameDnode sameTimeout ⊢
      refine ⟨slot, session, rfl, ?_, .inl ⟨isPending, sameTimeout, by simp⟩⟩
      exact ⟨sameSnode.trans isOf.1, sameDnode.trans isOf.2⟩
    · rw [isReached] at sameSnode sameDnode ⊢
      unfold modifyRxSession at sameSnode sameDnode ⊢
      dsimp only at sameSnode sameDnode ⊢
      rw [Function.update_self] at sameSnode sameDnode
      rw [Function.update_idem]
      exact ⟨slot, session, rfl, ⟨sameSnode, sameDnode⟩, .inr ⟨noPending, isFree, by simp⟩⟩

/-- The handler hands a frame to the decryption. -/
def IsEncapsulation (frame : List UInt8) : Prop :=
  frame.length ≤ zwaveMaxFrameSize ∧ frame.getD 0 0 = commandClassSecurity ∧
    (frame.getD 1 0 = securityMessageEncapsulationNonceGet ∨
      frame.getD 1 0 = securityMessageEncapsulation)

theorem receiving_applicationCommandHandler {encapsulation : Encapsulation}
    (isAfter : transport.applicationCommandHandler aes localNodeId remoteNodeId encapsulation
      frame answers = some after) :
    after.receiving = transport.receiving ∨
      IsEncapsulation frame ∧
        after.receiving =
          (transport.decryptMessage aes localNodeId remoteNodeId frame).2.receiving := by
  unfold applicationCommandHandler at isAfter
  dsimp only at isAfter
  split at isAfter
  · cases isAfter
    exact .inl rfl
  next short =>
    split at isAfter
    · cases isAfter
      exact .inl rfl
    next isClass =>
      split at isAfter
      · split at isAfter
        · exact .inl (receiving_sendNonce isAfter)
        · cases isAfter
          exact .inl rfl
      · split at isAfter
        · split at isAfter
          · exact .inl (receiving_registerNonce aes isAfter)
          · cases isAfter
            exact .inl rfl
        · split at isAfter
          next isCommand =>
            have isEncapsulation : IsEncapsulation frame :=
              ⟨Nat.not_lt.mp short, not_not.mp isClass, isCommand⟩
            split at isAfter
            all_goals
              cases isAfter
              exact .inr ⟨isEncapsulation, rfl⟩
          · cases isAfter
            exact .inl rfl

/-- The receiving sessions change with keys, ticks and encapsulated frames only. -/
theorem receiving_step (transport : Transport) (action : Action) :
    (step aes transport action).receiving = transport.receiving ∨
      (∃ networkKey, action = .networkInit networkKey) ∨
      (∃ elapsed, action = .clockTick elapsed) ∨
      ∃ localNodeId remoteNodeId encapsulation frame answers,
        action = .frameReceived localNodeId remoteNodeId encapsulation frame answers ∧
          IsEncapsulation frame ∧
          (step aes transport action).receiving =
            (transport.decryptMessage aes localNodeId remoteNodeId frame).2.receiving := by
  cases action with
  | sendData request answers => exact .inl (receiving_of_unsent (unsent_sendData _ _ _))
  | frameCompletes => exact .inl (receiving_of_unsent (unsent_frameCompletes _ _ _ _))
  | timerExpires slot =>
    left
    unfold step
    dsimp only
    split <;> rfl
  | abortSendData sessionId =>
    left
    unfold step onAbortSendData
    dsimp only
    split
    · rfl
    · exact receiving_of_unsent (unsent_callback _ _ _ _)
  | frameReceived localNodeId remoteNodeId encapsulation frame answers =>
    unfold step
    dsimp only
    cases isAfter : transport.applicationCommandHandler aes localNodeId remoteNodeId
        encapsulation frame answers with
    | none => exact .inl rfl
    | some after =>
      rcases receiving_applicationCommandHandler aes isAfter with
        same | ⟨isEncapsulation, decrypted⟩
      · exact .inl same
      · exact .inr (.inr (.inr ⟨_, _, _, _, _, rfl, isEncapsulation, decrypted⟩))
  | nonceTimerExpires =>
    left
    unfold step
    dsimp only
    split <;> rfl
  | networkInit networkKey => exact .inr (.inl ⟨networkKey, rfl⟩)
  | setKey networkKey => exact .inl rfl
  | clockTick elapsed => exact .inr (.inr (.inl ⟨elapsed, rfl⟩))

/-- The sessions between two nodes that are not free expire at the same time. -/
def ExpireTogether (transport : Transport) : Prop :=
  ∀ snode dnode slot other,
    transport.isFree slot = false -> (transport.rxSessions slot).IsOf snode dnode ->
    transport.isFree other = false -> (transport.rxSessions other).IsOf snode dnode ->
    (transport.rxSessions slot).timeout = (transport.rxSessions other).timeout

theorem isFree_congr (same : transport.receiving = other.receiving) (slot : Slot) :
    transport.isFree slot = other.isFree slot := by
  obtain ⟨sameSessions, sameClock⟩ := Prod.mk.inj same
  unfold isFree
  rw [sameSessions, sameClock]

theorem ExpireTogether.congr (together : transport.ExpireTogether)
    (same : other.receiving = transport.receiving) : other.ExpireTogether := by
  intro snode dnode slot another isLive isOf otherLive otherOf
  rw [isFree_congr same] at isLive otherLive
  rw [(Prod.mk.inj same).1] at isOf otherOf ⊢
  exact together snode dnode slot another isLive isOf otherLive otherOf

theorem isFree_of_clockTick {elapsed : Nat}
    (isLive : (step aes transport (.clockTick elapsed)).isFree slot = false) :
    transport.isFree slot = false := by
  simp only [isFree, Bool.or_eq_false_iff, decide_eq_false_iff_not] at isLive ⊢
  obtain ⟨notDone, notExpired⟩ := isLive
  refine ⟨notDone, fun expired => notExpired ?_⟩
  exact Nat.lt_of_lt_of_le expired (Nat.le_add_right transport.clockTime elapsed)

theorem isFree_networkInit (transport : Transport) (networkKey : Option Block) (slot : Slot) :
    (transport.networkInit aes networkKey).isFree slot = true := by
  unfold networkInit setKey
  split <;> simp [isFree]

theorem unchanged_of_update
    (isAfter : after.receiving =
      (Function.update transport.rxSessions changed session, transport.clockTime))
    {slot : Slot}
    (different : slot ≠ changed) :
    after.rxSessions slot = transport.rxSessions slot ∧
      after.isFree slot = transport.isFree slot := by
  obtain ⟨sameSessions, sameClock⟩ := Prod.mk.inj isAfter
  have sameSession : after.rxSessions slot = transport.rxSessions slot := by
    rw [sameSessions, Function.update_of_ne different]
  refine ⟨sameSession, ?_⟩
  unfold isFree
  rw [sameSession, sameClock]

theorem rxSessions_of_update
    (isAfter : after.receiving =
      (Function.update transport.rxSessions changed session, transport.clockTime)) :
    after.rxSessions changed = session := by
  rw [(Prod.mk.inj isAfter).1, Function.update_self]

theorem ExpireTogether.decryptMessage (together : transport.ExpireTogether)
    (isAfter : after.receiving =
      (transport.decryptMessage aes localNodeId remoteNodeId frame).2.receiving) :
    after.ExpireTogether := by
  rcases receiving_decryptMessage aes transport localNodeId remoteNodeId frame with
    same | ⟨changed, session, isChanged, isOf, origin⟩
  · exact together.congr (isAfter.trans same)
  have isUpdate := isAfter.trans isChanged
  have isSession := rxSessions_of_update isUpdate
  -- Another session between the nodes of the frame expires with the one that has changed.
  have withOther : ∀ snode dnode slot, slot ≠ changed -> after.isFree slot = false ->
      (after.rxSessions slot).IsOf snode dnode -> session.IsOf snode dnode ->
      session.timeout = (after.rxSessions slot).timeout := by
    rintro snode dnode slot different isLive slotOf sessionOf
    obtain ⟨sameSession, sameFree⟩ := unchanged_of_update isUpdate different
    rw [sameFree] at isLive
    rw [sameSession] at slotOf ⊢
    have slotOfFrame : (transport.rxSessions slot).IsOf remoteNodeId localNodeId :=
      ⟨slotOf.1.trans (sessionOf.1.symm.trans isOf.1),
        slotOf.2.trans (sessionOf.2.symm.trans isOf.2)⟩
    rcases origin with ⟨isPending, sameTimeout, -⟩ | ⟨noPending, -, -⟩
    · obtain ⟨pendingLive, pendingOf⟩ := getRxSessionByNodes_spec isPending
      rw [sameTimeout]
      exact together _ _ changed slot pendingLive pendingOf isLive slotOfFrame
    · exact absurd slotOfFrame (not_isOf_of_noPending noPending isLive)
  intro snode dnode slot other isLive slotOf otherLive otherOf
  by_cases isSlot : slot = changed
  · rw [isSlot, isSession] at slotOf ⊢
    by_cases isOther : other = changed
    · rw [isOther, isSession]
    · exact withOther snode dnode other isOther otherLive otherOf slotOf
  · by_cases isOther : other = changed
    · rw [isOther, isSession] at otherOf ⊢
      exact (withOther snode dnode slot isSlot isLive slotOf otherOf).symm
    · obtain ⟨sameSession, sameFree⟩ := unchanged_of_update isUpdate isSlot
      obtain ⟨sameOther, sameOtherFree⟩ := unchanged_of_update isUpdate isOther
      rw [sameFree] at isLive
      rw [sameOtherFree] at otherLive
      rw [sameSession] at slotOf ⊢
      rw [sameOther] at otherOf ⊢
      exact together snode dnode slot other isLive slotOf otherLive otherOf

/-- Every step leaves the receiving sessions expiring together. -/
theorem ExpireTogether.step (together : transport.ExpireTogether) (action : Action) :
    (step aes transport action).ExpireTogether := by
  rcases receiving_step aes transport action with
    same | ⟨networkKey, isAction⟩ | ⟨elapsed, isAction⟩ |
    ⟨localNodeId, remoteNodeId, encapsulation, frame, answers, isAction, -, decrypted⟩
  · exact together.congr same
  · intro snode dnode slot other isLive
    rw [isAction] at isLive
    exact absurd (isFree_networkInit aes transport networkKey slot) (ne_true_of_eq_false isLive)
  · intro snode dnode slot other isLive slotOf otherLive otherOf
    rw [isAction] at isLive otherLive slotOf otherOf ⊢
    exact together snode dnode slot other (isFree_of_clockTick aes isLive) slotOf
      (isFree_of_clockTick aes otherLive) otherOf
  · exact together.decryptMessage aes decrypted

/-- The receiving sessions expire together in every run. -/
theorem expireTogether_run (actions : List Action) :
    (run (Transport.step aes) initial actions).ExpireTogether := by
  apply run_invariant ExpireTogether
  · intro transport action together
    exact together.step aes action
  · intro snode dnode slot other _ _ _ _
    rfl

end Transport

end S0
