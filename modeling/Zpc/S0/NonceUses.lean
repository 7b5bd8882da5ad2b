import Zpc.S0.Effects

/-!
# Nonces are used once

Every function of the transport that changes the nonce table does so by the functions of
the table, so the table stays sound over every run of the transport.
-/

namespace S0

open Foundation

/-- A nonce is taken for one frame at most and before its timeout, the nonces of two nodes
that were there when one of them was taken are not valid any more, two nodes have one
valid reply nonce at most, and the timer runs as long as a nonce is valid. -/
structure NoncesUsedOnce (table : NonceTable) : Prop where
  usedOnce : (table.uses.map (·.number)).Nodup
  usedInTime : ∀ use ∈ table.uses, use.usedAt < use.registeredAt + nonceTimeout
  clearedByUse : ∀ use ∈ table.uses, ∀ entry ∈ table.entries, 0 < entry.timeout ->
    use.src = entry.src -> use.dst = entry.dst -> use.registrations ≤ entry.number
  laterUses : table.uses.Pairwise fun later earlier =>
    later.src = earlier.src -> later.dst = earlier.dst -> earlier.registrations ≤ later.number
  oneReply : ∀ src dst,
    (table.entries.filter fun entry =>
      entry.replyNonce && entry.isValid && entry.isOf src dst).length ≤ 1
  armed : (∃ entry ∈ table.entries, 0 < entry.timeout) -> table.timerArmed = true

theorem NonceTable.Sound.noncesUsedOnce {table : NonceTable} (sound : table.Sound) :
    NoncesUsedOnce table where
  usedOnce := by
    rw [List.Nodup, List.pairwise_map]
    exact sound.usedOnce.imp And.left
  usedInTime use isUse := (sound.usedInTime use isUse).2
  clearedByUse use isUse entry isEntry positive :=
    (sound.unspent entry isEntry (NonceTable.isValid_iff.mpr positive) use isUse).2
  laterUses := sound.usedOnce.imp And.right
  oneReply src dst := by
    apply length_le_one_of_pairwise (sound.apart.filter _)
    intro first isFirst second isSecond apart
    have firstFits := (List.mem_filter.mp isFirst).2
    have secondFits := (List.mem_filter.mp isSecond).2
    simp only [Bool.and_eq_true] at firstFits secondFits
    obtain ⟨⟨firstReply, firstValid⟩, firstOf⟩ := firstFits
    obtain ⟨⟨secondReply, secondValid⟩, secondOf⟩ := secondFits
    have firstNodes := NonceTable.isOf_iff.mp firstOf
    have secondNodes := NonceTable.isOf_iff.mp secondOf
    apply (apart firstValid secondValid).2 firstReply secondReply
    exact ⟨firstNodes.1.trans secondNodes.1.symm, firstNodes.2.trans secondNodes.2.symm⟩
  armed := by
    rintro ⟨entry, isEntry, positive⟩
    exact sound.armed entry isEntry (NonceTable.isValid_iff.mpr positive)

namespace Transport

theorem nonceTable_abortAllTxSessions (transport : Transport) :
    transport.abortAllTxSessions.nonceTable = transport.nonceTable := by
  unfold abortAllTxSessions
  generalize slots = remaining
  induction remaining generalizing transport with
  | nil => rfl
  | cons slot rest ih =>
    refine (ih _).trans ?_
    dsimp only
    split <;> rfl

theorem nonceTable_of_unsent {before after : Transport} (same : after.unsent = before.unsent) :
    after.nonceTable = before.nonceTable := congrArg Prod.fst same

variable (aes : BlockCipher)

/-- The state that an encryption leaves. -/
def Encryption.state? : Encryption -> Option Transport
  | .stuck => none
  | .refused transport => some transport
  | .encrypted transport _ _ => some transport

theorem sound_encryptMessage {transport : Transport} (sound : transport.nonceTable.Sound)
    (slot : Slot) (pass2 : Bool) (answers : Answers) {after : Transport}
    (isAfter : (transport.encryptMessage aes slot pass2 answers).state? = some after) :
    after.nonceTable.Sound := by
  unfold encryptMessage at isAfter
  dsimp only at isAfter
  split at isAfter
  · cases isAfter
  · split at isAfter
    · cases isAfter
    · split at isAfter
      · cases isAfter
        exact sound
      next entry found =>
        have registered := (sound.useNonce found).registerNonce
        split at isAfter
        all_goals
          cases isAfter
          exact registered _ _ _ _

theorem sound_sendEncrypted {transport : Transport} (sound : transport.nonceTable.Sound)
    (slot : Slot) (pass2 : Bool) (answers : Answers) {after : Transport}
    (isAfter : transport.sendEncrypted aes slot pass2 answers = some after) :
    after.nonceTable.Sound := by
  unfold sendEncrypted at isAfter
  dsimp only at isAfter
  have encrypted := @sound_encryptMessage aes (transport.modifySession slot fun session =>
    { session with
      state := if pass2 then .encMsg2 else .encMsg
      timer := false }) sound slot pass2 answers
  split at isAfter
  next => cases isAfter
  next reached isReached =>
    cases isAfter
    exact @encrypted reached (by rw [isReached]; rfl)
  next reached frame data isReached =>
    cases isAfter
    rw [nonceTable_of_unsent (unsent_sendFrame _ _ _ _ _)]
    exact encrypted (by rw [isReached]; rfl)

variable {transport after : Transport}

theorem sound_registerNonce (sound : transport.nonceTable.Sound) (src dst : NodeId) (nonce : Nonce)
    (answers : Answers) (isAfter : transport.registerNonce aes src dst nonce answers = some after) :
    after.nonceTable.Sound := by
  unfold registerNonce at isAfter
  split at isAfter
  · cases isAfter
    exact sound
  · split at isAfter
    next =>
      cases isAfter
      exact sound
    next slot found =>
      dsimp only at isAfter
      have registered := sound.registerNonce src dst false nonce
      split at isAfter
      · exact sound_sendEncrypted aes registered slot false answers isAfter
      · exact sound_sendEncrypted aes registered slot false answers isAfter
      · exact sound_sendEncrypted aes registered slot true answers isAfter
      · split at isAfter
        · exact sound_sendEncrypted aes registered slot true answers isAfter
        · cases isAfter
          exact registered
      · cases isAfter
        exact registered

theorem sound_sendNonce (sound : transport.nonceTable.Sound) (localNodeId remoteNodeId : NodeId)
    (answers : Answers)
    (isAfter : transport.sendNonce localNodeId remoteNodeId answers = some after) :
    after.nonceTable.Sound := by
  unfold sendNonce at isAfter
  split at isAfter
  · cases isAfter
  · split at isAfter
    · cases isAfter
      dsimp only
      rw [nonceTable_of_unsent (unsent_evictFrames _ _)]
      exact sound.registerNonce _ _ _ _
    · cases isAfter
      rw [nonceTable_of_unsent (unsent_evictFrames _ _)]
      exact sound

theorem nonceTable_rxSessionFor {snode dnode : NodeId} {slot : Slot}
    (isAfter : transport.rxSessionFor snode dnode = some (slot, after)) :
    after.nonceTable = transport.nonceTable := by
  unfold rxSessionFor newRxSession at isAfter
  split at isAfter
  · cases isAfter
    rfl
  · obtain ⟨free, -, same⟩ := Option.map_eq_some_iff.mp isAfter
    cases same
    rfl

theorem nonceTable_assemble (transport : Transport) (slot : Slot) (flags : UInt8)
    (data : List UInt8) :
    (transport.assemble slot flags data).2.nonceTable = transport.nonceTable := by
  unfold assemble
  dsimp only
  split
  · split
    · rfl
    · split <;> rfl
  · rfl

section

variable (sound : transport.nonceTable.Sound)
include sound

theorem sound_decryptMessage (localNodeId remoteNodeId : NodeId) (frame : List UInt8) :
    (transport.decryptMessage aes localNodeId remoteNodeId frame).2.nonceTable.Sound := by
  unfold decryptMessage
  dsimp only
  split
  · exact sound
  · split
    · exact sound
    · split
      next => exact sound
      next entry found =>
        have used := sound.useNonce found
        split
        next => exact used
        next slot reached isReached =>
          have same := nonceTable_rxSessionFor isReached
          have soundAfter : reached.nonceTable.Sound := by
            rw [same]
            exact used
          split
          · exact soundAfter
          · split
            · exact soundAfter
            · rw [nonceTable_assemble]
              exact soundAfter

theorem sound_applicationCommandHandler
    (localNodeId remoteNodeId : NodeId) (encapsulation : Encapsulation) (frame : List UInt8)
    (answers : Answers)
    (isAfter : transport.applicationCommandHandler aes localNodeId remoteNodeId encapsulation
      frame answers = some after) :
    after.nonceTable.Sound := by
  have decrypted := sound_decryptMessage aes sound localNodeId remoteNodeId frame
  unfold applicationCommandHandler at isAfter
  dsimp only at isAfter
  split at isAfter
  · cases isAfter
    exact sound
  · split at isAfter
    · cases isAfter
      exact sound
    · split at isAfter
      · split at isAfter
        · exact sound_sendNonce sound localNodeId remoteNodeId answers isAfter
        · cases isAfter
          exact sound
      · split at isAfter
        · split at isAfter
          · exact sound_registerNonce aes sound _ _ _ answers isAfter
          · cases isAfter
            exact sound
        · split at isAfter
          · split at isAfter
            all_goals
              cases isAfter
              exact decrypted
          · cases isAfter
            exact sound

theorem sound_networkInit (networkKey : Option Block) :
    (transport.networkInit aes networkKey).nonceTable.Sound := by
  have reset : transport.abortAllTxSessions.nonceTable.resetS0Timers.Sound := by
    rw [nonceTable_abortAllTxSessions]
    exact sound.resetS0Timers
  unfold networkInit
  split <;> exact reset

/-- Every step of the transport keeps the nonce table sound. -/
theorem sound_step (action : Action) : (transport.step aes action).nonceTable.Sound := by
  cases action with
  | sendData request answers =>
    unfold step
    rw [nonceTable_of_unsent (unsent_sendData _ _ _)]
    exact sound
  | frameCompletes id status txInfo =>
    unfold step
    rw [nonceTable_of_unsent (unsent_frameCompletes _ _ _ _)]
    exact sound
  | timerExpires slot =>
    unfold step
    dsimp only
    split <;> exact sound
  | abortSendData sessionId =>
    unfold step onAbortSendData
    dsimp only
    split
    · exact sound
    · rw [nonceTable_of_unsent (unsent_callback _ _ _ _)]
      exact sound
  | frameReceived localNodeId remoteNodeId encapsulation frame answers =>
    unfold step
    dsimp only
    cases isAfter : transport.applicationCommandHandler aes localNodeId remoteNodeId encapsulation
        frame answers with
    | none => exact sound
    | some after =>
      exact sound_applicationCommandHandler aes sound localNodeId remoteNodeId encapsulation
        frame answers isAfter
  | nonceTimerExpires =>
    unfold step
    dsimp only
    split
    · exact sound.nonceTimerTimeout
    · exact sound
  | networkInit networkKey => exact sound_networkInit aes sound networkKey
  | setKey | clockTick => exact sound

end

/-- Over every run of the transport a nonce is taken once at most and in time, its use makes
the nonces of its nodes invalid, and the nonce timer runs as long as there is one. -/
theorem nonces_used_once_throughout (actions : List Action) :
    NoncesUsedOnce (run (step aes) initial actions).nonceTable := by
  apply NonceTable.Sound.noncesUsedOnce
  apply run_invariant fun transport : Transport => transport.nonceTable.Sound
  · exact fun transport action sound => sound_step aes sound action
  · exact NonceTable.Sound.initial

end Transport

end S0
