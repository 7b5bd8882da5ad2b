import Zpc.TransportService.Reassembly

/-!
# Corrupt fragments

Only the two kinds of fragments carry a checksum.  A fragment that `add_crc`
closed passes it and one with a burst of errors does not, unless the burst turns
its command into one that carries none.
-/

namespace TransportService

namespace Service

variable {service : Service} {frame : List UInt8} {now : Nat} {accepted retried : Bool}

/-- A fragment with a payload behind its header that belongs to the session being
assembled, or to a new one, and to a datagram that is not too long. -/
structure Fits (rcb : ReceivingControlBlock) (frame : List UInt8) (command header : Nat) :
    Prop where
  commandClass : byteAt frame 0 = commandClassTransportServiceV2
  command : byteAt frame 1 &&& 0xf8 = command
  payload : header + 2 < frame.length
  session : sessionIdOf (byteAt frame 3) = rcb.cmn.sessionId ∨ rcb.cmn.sessionId = noSessionId
  size : elevenBits (byteAt frame 1) (byteAt frame 2) ≤ payloadSizeMax

/-- A Subsequent Fragment of a datagram that began and is not complete. -/
structure FitsSubsequent (rcb : ReceivingControlBlock) (frame : List UInt8) : Prop
    extends Fits rcb frame commandSubsequentFragment 5 where
  incomplete : rcb.recvFragComplList.getD (sessionIdOf (byteAt frame 3)) 0 ≠ 1
  inside : elevenBits (byteAt frame 3) (byteAt frame 4) + (frame.length - 7) < payloadSizeMax
  begun : elevenBits (byteAt frame 3) (byteAt frame 4) ≠ 0 ->
    isByteReceived rcb.bytesRecvdBitmask 0 = true

/-- `receive` copies the payload of a fragment that it has no other reason to refuse. -/
structure Accepts (service : Service) (frame : List UInt8) : Prop where
  first : Fits service.rcb frame commandFirstFragment 4 -> ∀ now accepted retried,
    (service.receive frame frame.length now accepted retried).copied =
      List.range (frame.length - 6)
  subsequent : FitsSubsequent service.rcb frame -> ∀ now accepted retried,
    (service.receive frame frame.length now accepted retried).copied =
      service.copied ++ List.range' (elevenBits (byteAt frame 3) (byteAt frame 4))
        (frame.length - 7)

/-- At most the state machine is told of the frame, and a tie that was broken ends the own
transmission. -/
def Discards (service : Service) (frame : List UInt8) : Prop :=
  ∀ now accepted retried,
    service.receive frame frame.length now accepted retried = service ∨
      service.receive frame frame.length now accepted retried =
        service.abortIfTieBroken.postEvent .recvNewFrag

/-- The frame is of a command without checksum. -/
def IsUnchecked (frame : List UInt8) : Prop :=
  byteAt frame 1 &&& 0xf8 ∈
    [commandSegmentRequestV2, commandSegmentCompleteV2, commandSegmentWaitV2]

@[simp] theorem copied_postEvent (event : Event) :
    (service.postEvent event).copied = service.copied :=
  congrArg Reception.copied (postEvent_keeps service event).reception

theorem copied_sendFragCompleteCmd :
    (service.sendFragCompleteCmd accepted).copied = service.copied := by
  unfold sendFragCompleteCmd
  dsimp only
  split
  · rfl
  · cases accepted <;> simp <;> rfl

theorem copied_sendFragReqCmd :
    (service.sendFragReqCmd accepted retried).copied = service.copied := by
  unfold sendFragReqCmd giveUpRequest
  dsimp only
  split
  · simp
  split
  · rfl
  cases accepted <;> cases retried <;> simp [discardAllReceivedFragments, lowerLayerSendData]

theorem copied_findMissing : (service.findMissing accepted retried).copied = service.copied := by
  unfold findMissing
  split <;> split
  · rfl
  · rw [copied_sendFragReqCmd, copied_postEvent]
  · rfl
  · rw [copied_sendFragCompleteCmd, copied_postEvent]

theorem markFragReceived_of_begun {offset : Nat} (size : Nat)
    (begun : offset ≠ 0 -> isByteReceived service.rcb.bytesRecvdBitmask 0 = true) :
    (service.markFragReceived offset size accepted).1 = false ∧
      (service.markFragReceived offset size accepted).2.copied = service.copied := by
  unfold markFragReceived
  rw [if_neg fun missing => by simp [begun missing.1] at missing]
  exact ⟨rfl, rfl⟩

theorem copied_abortIfTieBroken : service.abortIfTieBroken.copied = service.copied :=
  congrArg Reception.copied (abortIfTieBroken_keeps service).reception

theorem rcb_abortIfTieBroken : service.abortIfTieBroken.rcb = service.rcb := by
  unfold abortIfTieBroken
  split <;> rfl

theorem copied_receive_first (fits : Fits service.rcb frame commandFirstFragment 4)
    (closed : zwaveCrc16 0x1D0F frame = 0) :
    (service.receive frame frame.length now accepted retried).copied =
      List.range (frame.length - 6) := by
  rw [← rcb_abortIfTieBroken] at fits
  have payload := fits.payload
  unfold receive receiveFirstFragment
  rw [if_neg (not_not_intro fits.commandClass), if_pos fits.command, if_neg (by omega),
    List.take_length, if_neg (not_not_intro closed),
    if_neg fun other => fits.session.elim other.1 other.2, if_neg (Nat.not_lt.mpr fits.size)]
  extract_lets size timed bytes begun marked result
  obtain ⟨isMarked, copied⟩ : marked.1 = false ∧ result.copied = begun.copied :=
    markFragReceived_of_begun _ fun missing => absurd rfl missing
  have isLength : bytes.length = frame.length - 6 := length_take_drop (by omega)
  have copied : result.copied = List.range (frame.length - 6) := by
    rw [copied, ← isLength]
    rfl
  rw [isMarked, if_neg Bool.false_ne_true]
  split
  · rw [copied_sendFragCompleteCmd, copied_postEvent, copied]
  · exact copied

theorem copied_receive_subsequent (fits : FitsSubsequent service.rcb frame)
    (closed : zwaveCrc16 0x1D0F frame = 0) :
    (service.receive frame frame.length now accepted retried).copied =
      service.copied ++ List.range' (elevenBits (byteAt frame 3) (byteAt frame 4))
        (frame.length - 7) := by
  rw [← rcb_abortIfTieBroken] at fits
  have payload := fits.payload
  have other : ¬ commandSubsequentFragment = commandFirstFragment := by decide
  unfold receive
  rw [if_neg (not_not_intro fits.commandClass), fits.command, if_neg other, if_pos rfl]
  unfold receiveSubsequentFragment
  extract_lets started received offset length size _ sized _ timed marked result rcb resized copied
  have incomplete : ¬ started.rcb.recvFragComplList.getD received 0 = 1 := fits.incomplete
  have session : ¬ started.isOtherSession received :=
    fun other => fits.session.elim other.1 other.2
  have fitting : offset + length < payloadSizeMax := fits.inside
  rw [if_neg (by omega), List.take_length, if_neg (not_not_intro closed), if_neg incomplete,
    if_neg session, if_neg (by omega), if_neg (Nat.not_lt.mpr fits.size)]
  obtain ⟨isMarked, isResult⟩ : marked.1 = false ∧ result.copied = timed.copied :=
    markFragReceived_of_begun _ fits.begun
  have isLength : ((frame.drop 5).take length).length = length := length_take_drop (by omega)
  have isCopied : copied.copied = service.copied ++ List.range' offset length := by
    show result.copied ++ List.range' offset ((frame.drop 5).take length).length = _
    rw [isResult, isLength]
    exact congrArg (· ++ _) copied_abortIfTieBroken
  rw [isMarked, if_neg Bool.false_ne_true, if_pos ⟨by omega, fitting⟩]
  split
  · rw [copied_findMissing, copied_postEvent, isCopied]
  · exact isCopied

theorem accepts_of_closed (closed : zwaveCrc16 0x1D0F frame = 0) : service.Accepts frame where
  first fits _ _ _ := copied_receive_first fits closed
  subsequent fits _ _ _ := copied_receive_subsequent fits closed

theorem discards_of_corrupt (corrupt : zwaveCrc16 0x1D0F frame ≠ 0)
    (checked : ¬ IsUnchecked frame) : service.Discards frame := by
  intro now accepted retried
  unfold IsUnchecked at checked
  simp only [List.mem_cons, List.not_mem_nil, or_false, not_or] at checked
  unfold receive
  by_cases other : byteAt frame 0 ≠ commandClassTransportServiceV2
  · exact .inl (if_pos other)
  rw [if_neg other, if_neg checked.1, if_neg checked.2.1, if_neg checked.2.2]
  split
  · right
    unfold receiveFirstFragment
    extract_lets started
    rw [List.take_length, if_pos corrupt, ite_self]
  split
  · right
    unfold receiveSubsequentFragment
    extract_lets started
    rw [List.take_length, if_pos corrupt, ite_self]
  · exact .inl rfl

/-- The checksum of a message and of the message with it, and what it makes of
the frames that `add_crc` closed. -/
theorem checksum_guards_fragments (service : Service) (seed : UInt16)
    (data rest received : List UInt8) :
    zwaveCrc16 seed (data ++ bigEndian (zwaveCrc16 seed data)) = 0 ∧
      zwaveCrc16 seed (data ++ rest) = zwaveCrc16 (zwaveCrc16 seed data) rest ∧
      (DifferInBurst data rest -> zwaveCrc16 seed data ≠ zwaveCrc16 seed rest) ∧
      service.Accepts (addCrc data) ∧
      (DifferInBurst (addCrc data) received -> ¬ IsUnchecked received ->
        service.Discards received) := by
  refine ⟨zwaveCrc16_append_own seed data, List.foldl_append, fun burst => zwaveCrc16_ne burst seed,
    accepts_of_closed (zwaveCrc16_addCrc data), fun burst checked => ?_⟩
  have differs := zwaveCrc16_ne burst 0x1D0F
  rw [zwaveCrc16_addCrc] at differs
  exact discards_of_corrupt differs.symm checked

/-- A datagram of one byte, before its checksum is added. -/
def oneByte : List UInt8 := [0x55, 0xC0, 0x01, 0x00, 0x07]

/-- The byte is copied, and the fragment is discarded when a bit of it is wrong. -/
theorem checksum_guards_one_byte :
    (unused.receive (addCrc oneByte) (addCrc oneByte).length 0 true true).copied =
        List.range ((addCrc oneByte).length - 6) ∧
      unused.Discards ((addCrc oneByte).set 4 0x06) := by
  have guards := checksum_guards_fragments unused 0 oneByte [] ((addCrc oneByte).set 4 0x06)
  obtain ⟨-, -, -, accepts, discards⟩ := guards
  refine ⟨accepts.first ⟨rfl, rfl, by decide +kernel, by decide +kernel, by decide⟩ 0 true true,
    discards ⟨(messageBits oneByte).take 39, [true], [false],
      (messageBits (addCrc oneByte)).drop 40,
      by decide +kernel, by decide +kernel, rfl, by decide, by decide⟩ ?_⟩
  unfold IsUnchecked
  decide +kernel

/-- Two wrong bits make the fragment a Segment Wait, which arms a timer. -/
theorem burst_is_obeyed :
    ¬ ∀ (service : Service) (data received : List UInt8),
      DifferInBurst (addCrc data) received -> service.Discards received := by
  intro discards
  have discarded := discards unused oneByte ((addCrc oneByte).set 1 0xF0)
    ⟨(messageBits oneByte).take 10, [false, false], [true, true],
      (messageBits (addCrc oneByte)).drop 12, by decide +kernel, by decide +kernel, rfl, by decide,
      by decide⟩ 0 true true
  revert discarded
  decide +kernel

end Service

end TransportService
