import Zpc.TransportService.Effects
import Zpc.TransportService.Coverage
import Zpc.TransportService.Checksum

/-!
# Reassembly of a datagram

The receiver marks the bytes of a fragment before it copies them, and leaves a
fragment that ends at the last byte of its buffer uncopied.  Below that size
every marked byte is the byte of the datagram, whatever fragments arrive in
whatever order, and nothing is handed over while one of them is missing.
-/

namespace TransportService

open Foundation

/-! ## The bit array and the buffer -/

/-- Number of bytes the bit array has bits for. -/
def markedBytes : Nat := 208

variable {bitmask : List Nat} {offset : Nat} {buffer bytes : List UInt8}

theorem isByteReceived_setByteReceived (inside : offset / 8 < bitmask.length) (other : Nat) :
    isByteReceived (setByteReceived bitmask offset) other =
      (isByteReceived bitmask other || decide (other = offset)) := by
  unfold isByteReceived setByteReceived
  rw [List.getD_eq_getElem?_getD, List.getD_eq_getElem?_getD, List.getElem?_modify]
  by_cases sameByte : offset / 8 = other / 8
  · rw [← sameByte, List.getElem?_eq_getElem inside]
    simp only [if_true, Option.map_eq_map, Option.map_some, Option.getD_some, Nat.testBit_or,
      Nat.one_shiftLeft, Nat.testBit_two_pow]
    congr 1
    rw [decide_eq_decide]
    omega
  · have differs : other ≠ offset := by
      rintro rfl
      exact sameByte rfl
    simp only [if_neg sameByte, decide_eq_false differs, Bool.or_false]
    simp

theorem length_setByteReceived (bitmask : List Nat) (offset : Nat) :
    (setByteReceived bitmask offset).length = bitmask.length :=
  List.length_modify _ _ _

theorem isByteReceived_markBytes {size : Nat} (inside : offset + size ≤ payloadSizeMax)
    (length : bitmask.length = 26) (other : Nat) :
    isByteReceived (markBytes offset size bitmask) other =
      (isByteReceived bitmask other || decide (offset ≤ other ∧ other < offset + size)) := by
  induction size generalizing offset bitmask with
  | zero =>
    have nothing : ¬ (offset ≤ other ∧ other < offset + 0) := by omega
    rw [decide_eq_false nothing, Bool.or_false]
    rfl
  | succ size ih =>
    unfold markBytes
    have notBehind : ¬ payloadSizeMax < offset := by omega
    have hasBit : offset / 8 < bitmask.length := by
      unfold payloadSizeMax at inside
      omega
    rw [if_neg notBehind,
      ih (by omega) ((length_setByteReceived _ _).trans length),
      isByteReceived_setByteReceived hasBit, Bool.or_assoc, ← Bool.decide_or]
    congr 1
    rw [decide_eq_decide]
    omega

theorem length_markBytes (offset size : Nat) (bitmask : List Nat) :
    (markBytes offset size bitmask).length = bitmask.length := by
  induction size generalizing offset bitmask with
  | zero => rfl
  | succ size ih =>
    unfold markBytes
    split
    · exact length_setByteReceived _ _
    · rw [ih, length_setByteReceived]

theorem isByteReceived_replicate (offset : Nat) :
    isByteReceived (List.replicate 26 0) offset = false := by
  unfold isByteReceived
  rw [List.getD_eq_getElem?_getD, List.getElem?_replicate]
  split <;> simp

theorem length_copyBytes (inside : offset + bytes.length ≤ buffer.length) :
    (copyBytes buffer offset bytes).length = buffer.length := by
  unfold copyBytes
  simp only [List.length_append, List.length_take, List.length_drop]
  omega

theorem getElem?_copyBytes (inside : offset + bytes.length ≤ buffer.length) (i : Nat) :
    (copyBytes buffer offset bytes)[i]? =
      if offset ≤ i ∧ i < offset + bytes.length then bytes[i - offset]? else buffer[i]? := by
  unfold copyBytes
  have taken : (buffer.take offset).length = offset := by
    rw [List.length_take]
    omega
  rw [List.append_assoc, List.getElem?_append, taken]
  split
  next before => rw [if_neg (by omega), List.getElem?_take_of_lt before]
  next notBefore =>
    rw [List.getElem?_append]
    split
    next within => rw [if_pos (by omega)]
    next behind =>
      rw [if_neg (by omega), List.getElem?_drop]
      congr 1
      omega

theorem isByteReceived_of_nothing_missing {service : Service}
    (nothing : service.getNextMissingOffset = 0)
    (length : service.rcb.bytesRecvdBitmask.length = 26) {i : Nat} (positive : i ≠ 0)
    (inside : i < service.rcb.datagramSize) (small : i < markedBytes) :
    isByteReceived service.rcb.bytesRecvdBitmask i = true := by
  by_contra unmarked
  rw [Bool.not_eq_true] at unmarked
  unfold Service.getNextMissingOffset Service.firstUnmarked at nothing
  have isUnmarked : (i != 0 && !isByteReceived service.rcb.bytesRecvdBitmask i) = true := by
    simp [positive, unmarked]
  unfold markedBytes at small
  split at nothing
  next offset found =>
    split at nothing
    next behind =>
      -- The first unmarked byte lies behind the datagram, hence behind `i`.
      have earlier := (List.find?_range_eq_some.mp found).2.2 i (by omega)
      rw [isUnmarked] at earlier
      cases earlier
    next =>
      have isFirst := List.find?_some found
      rw [nothing] at isFirst
      cases isFirst
  next notFound =>
    have marked := List.find?_range_eq_none.mp notFound i (by omega)
    rw [isUnmarked] at marked
    cases marked

/-! ## What is being assembled -/

/-- The whole datagram, copied byte by byte. -/
structure Delivery.IsWhole (delivery : Delivery) (datagram : List UInt8) : Prop where
  same : delivery.datagram = datagram
  copied : ∀ i, i < datagram.length -> i ∈ delivery.copied

/-- Every marked byte is the byte of the datagram and was copied. -/
structure Reception.Covers (reception : Reception) (datagram : List UInt8) : Prop where
  size : reception.datagramSize = datagram.length
  bitmask : reception.bytesRecvdBitmask.length = 26
  first : isByteReceived reception.bytesRecvdBitmask 0 = true
  bytes : ∀ i, isByteReceived reception.bytesRecvdBitmask i = true ->
    i < datagram.length ∧ reception.datagramData[i]? = datagram[i]? ∧ i ∈ reception.copied

/-- A session that is being assembled covers the datagram as far as its bytes
are marked, and what was handed over since was the datagram. -/
structure Reception.Assembles
    (reception : Reception)
    (datagram : List UInt8)
    (session before : Nat) : Prop where
  buffer : reception.datagramData.length = payloadSizeMax
  fresh : reception.flagInitializeOnce = true -> reception.rxTimer = none
  covers : reception.flagInitializeOnce = false -> reception.sessionId ≠ noSessionId ->
    reception.sessionId = session ∧ reception.Covers datagram
  earlier : before ≤ reception.delivered.length
  whole : ∀ delivery ∈ reception.delivered.drop before, delivery.IsWhole datagram

namespace Service

variable
  {service : Service}
  {datagram : List UInt8}
  {session before : Nat}

theorem discard_assembles (assembles : service.reception.Assembles datagram session before) :
    service.discardAllReceivedFragments.reception.Assembles datagram session before where
  buffer := List.length_replicate
  fresh := assembles.fresh
  covers _ underway := absurd rfl underway
  earlier := assembles.earlier
  whole := assembles.whole

theorem Sends.assembles {after : Service} (sends : service.Sends after)
    (assembles : service.reception.Assembles datagram session before) :
    after.reception.Assembles datagram session before := by
  rw [sends.reception]
  exact assembles

theorem deliver_isWhole (covers : service.reception.Covers datagram)
    (complete : ∀ i, i < datagram.length -> isByteReceived service.rcb.bytesRecvdBitmask i = true)
    (source dest : Nat) :
    Delivery.IsWhole
      ⟨source, dest, service.rcb.datagramData.take service.rcb.datagramSize, service.copied⟩
      datagram := by
  constructor
  · have size : service.rcb.datagramSize = datagram.length := covers.size
    apply List.ext_getElem?
    intro i
    rw [size, List.getElem?_take]
    split
    next inside => exact (covers.bytes i (complete i inside)).2.1
    next outside => rw [List.getElem?_eq_none (Nat.not_lt.mp outside)]
  · intro i inside
    exact (covers.bytes i (complete i inside)).2.2

theorem sendFragCompleteCmd_reception (isSession : service.rcb.cmn.sessionId ≤ 0x0f)
    (accepted : Bool) :
    (service.sendFragCompleteCmd accepted).reception =
      { service.reception with
        sessionId := noSessionId
        rxTimer := none
        delivered := service.delivered ++
          [⟨service.rcb.cmn.source, service.rcb.cmn.dest,
            service.rcb.datagramData.take service.rcb.datagramSize, service.copied⟩] } := by
  unfold sendFragCompleteCmd
  rw [if_neg (Nat.not_lt.mpr isSession), (postEvent_keeps _ .success).reception]
  cases accepted <;> rfl

section

variable (assembles : service.reception.Assembles datagram session before)
include assembles

section

variable (initialized : service.flagInitializeOnce = false)

include initialized

theorem sendFragCompleteCmd_assembles
    (complete : service.rcb.cmn.sessionId ≠ noSessionId -> ∀ i, i < datagram.length ->
      isByteReceived service.rcb.bytesRecvdBitmask i = true)
    (accepted : Bool) :
    (service.sendFragCompleteCmd accepted).reception.Assembles datagram session before := by
  by_cases isSession : service.rcb.cmn.sessionId ≤ 0x0f
  · rw [sendFragCompleteCmd_reception isSession]
    have underway : service.rcb.cmn.sessionId ≠ noSessionId := by
      unfold noSessionId
      omega
    obtain ⟨_, covers⟩ := assembles.covers initialized underway
    refine ⟨assembles.buffer, fun _ => rfl, fun _ ended => absurd rfl ended, ?_, ?_⟩
    · have earlier := assembles.earlier
      rw [List.length_append]
      exact Nat.le_trans earlier (Nat.le_add_right _ _)
    · intro delivery mem
      rcases List.mem_append.mp
        (List.drop_append_of_le_length assembles.earlier ▸ mem) with old | new
      · exact assembles.whole delivery old
      · rw [List.mem_singleton.mp new]
        exact deliver_isWhole covers (complete underway) _ _
  · unfold sendFragCompleteCmd
    rw [if_pos (by omega)]
    exact assembles

theorem setRxTimer_assembles (rxTimer : Option Nat) :
    { service.reception with rxTimer := rxTimer }.Assembles datagram session before where
  buffer := assembles.buffer
  fresh flag := by
    rw [show service.flagInitializeOnce = true from flag] at initialized
    cases initialized
  covers flag underway :=
    let ⟨isSession, covers⟩ := assembles.covers flag underway
    ⟨isSession, covers.size, covers.bitmask, covers.first, covers.bytes⟩
  earlier := assembles.earlier
  whole := assembles.whole

theorem giveUpRequest_assembles :
    service.giveUpRequest.reception.Assembles datagram session before := by
  refine discard_assembles ((postEvent_keeps _ _).assembles ?_)
  exact setRxTimer_assembles assembles initialized none

theorem sendFragReqCmd_assembles (accepted retried : Bool) :
    (service.sendFragReqCmd accepted retried).reception.Assembles datagram session before := by
  unfold sendFragReqCmd
  extract_lets offset sessionId asked request _ built offered again asking posted
  have asks : asked.reception.Assembles datagram session before := assembles
  split
  · exact (postEvent_keeps asked .success).assembles asks
  split
  · exact asks
  have offers : built.Keeps offered := lowerLayerSendData_keeps _ _ _
  have offersAgain : offered.Keeps again := lowerLayerSendData_keeps _ _ _
  have assemblesOffered : offered.reception.Assembles datagram session before :=
    offers.assembles assembles
  have flagOffered : offered.flagInitializeOnce = false :=
    (congrArg Reception.flagInitializeOnce offers.reception).trans initialized
  have asksFor : asking.reception.Assembles datagram session before ∧
      asking.flagInitializeOnce = false := by
    have flagAgain : again.flagInitializeOnce = false :=
      (congrArg Reception.flagInitializeOnce offersAgain.reception).trans flagOffered
    dsimp only [asking]
    split
    · exact ⟨assemblesOffered, flagOffered⟩
    split
    · exact ⟨offersAgain.assembles assemblesOffered, flagAgain⟩
    · refine ⟨giveUpRequest_assembles (offersAgain.assembles assemblesOffered) flagAgain, ?_⟩
      exact (congrArg Reception.flagInitializeOnce (postEvent_keeps _ _).reception).trans flagAgain
  have posts : asking.Keeps posted := postEvent_keeps _ _
  exact setRxTimer_assembles (posts.assembles asksFor.1)
    ((congrArg Reception.flagInitializeOnce posts.reception).trans asksFor.2) _

end

theorem findMissing_assembles (small : datagram.length ≤ payloadSizeMax)
    (initialized : service.flagInitializeOnce = false) (accepted retried : Bool) :
    (service.findMissing accepted retried).reception.Assembles datagram session before := by
  have posts (event : Event) := postEvent_keeps service event
  have stillInitialized (event : Event) : (service.postEvent event).flagInitializeOnce = false :=
    (congrArg Reception.flagInitializeOnce (posts event).reception).trans initialized
  unfold findMissing
  split
  · split
    · exact discard_assembles assembles
    · exact sendFragReqCmd_assembles ((posts _).assembles assembles) (stillInitialized _)
        accepted retried
  next nothing =>
    rw [Decidable.not_not] at nothing
    split
    · exact assembles
    · refine sendFragCompleteCmd_assembles ((posts _).assembles assembles) (stillInitialized _)
        ?_ accepted
      rw [rcb_postEvent]
      intro underway i inside
      obtain ⟨_, covers⟩ := assembles.covers initialized underway
      by_cases isFirst : i = 0
      · rw [isFirst]
        exact covers.first
      · refine isByteReceived_of_nothing_missing nothing covers.bitmask isFirst ?_ ?_
        · rw [show service.rcb.datagramSize = _ from covers.size]
          exact inside
        · unfold markedBytes
          unfold payloadSizeMax at small
          omega

theorem rxTimerExpired_assembles (small : datagram.length ≤ payloadSizeMax)
    (armed : service.rcb.rxTimer.isSome = true) (accepted retried : Bool) :
    (service.rxTimerExpired accepted retried).reception.Assembles datagram session before := by
  have initialized : service.flagInitializeOnce = false := by
    by_contra flag
    rw [Bool.not_eq_false] at flag
    rw [show service.rcb.rxTimer = none from assembles.fresh flag] at armed
    cases armed
  unfold rxTimerExpired
  extract_lets _ stopped posted
  have posts : stopped.Keeps posted := postEvent_keeps _ _
  have assemblesPosted : posted.reception.Assembles datagram session before :=
    posts.assembles (setRxTimer_assembles assembles initialized none)
  split
  · exact discard_assembles assemblesPosted
  · exact findMissing_assembles assemblesPosted small
      ((congrArg Reception.flagInitializeOnce posts.reception).trans initialized) accepted retried

end

/-! ## Fragments -/

/-- A First Fragment of a datagram whose checksum is right. -/
structure FirstFragmentOf
    (datagram : List UInt8)
    (session : Nat)
    (frame : List UInt8) : Prop where
  command : byteAt frame 1 &&& 0xf8 = commandFirstFragment
  size : elevenBits (byteAt frame 1) (byteAt frame 2) = datagram.length
  sessionId : sessionIdOf (byteAt frame 3) = session
  checksum : zwaveCrc16 0x1D0F frame = 0
  long : 6 < frame.length
  inside : frame.length - 6 ≤ datagram.length
  payload : (frame.drop 4).take (frame.length - 6) = datagram.take (frame.length - 6)

/-- A Subsequent Fragment of a datagram whose checksum is right. -/
structure SubsequentFragmentOf
    (datagram : List UInt8)
    (session : Nat)
    (frame : List UInt8) : Prop where
  command : byteAt frame 1 &&& 0xf8 = commandSubsequentFragment
  size : elevenBits (byteAt frame 1) (byteAt frame 2) = datagram.length
  sessionId : sessionIdOf (byteAt frame 3) = session
  checksum : zwaveCrc16 0x1D0F frame = 0
  long : 7 < frame.length
  inside : elevenBits (byteAt frame 3) (byteAt frame 4) + (frame.length - 7) ≤ datagram.length
  payload : (frame.drop 5).take (frame.length - 7) =
    datagramBytes datagram (elevenBits (byteAt frame 3) (byteAt frame 4)) (frame.length - 7)

/-- A fragment of a datagram. -/
def FragmentOf (datagram : List UInt8) (session : Nat) (frame : List UInt8) : Prop :=
  FirstFragmentOf datagram session frame ∨ SubsequentFragmentOf datagram session frame

variable {frame payload : List UInt8} {length : Nat} {reception : Reception}

theorem length_take_drop {header : Nat} (inside : header + length ≤ frame.length) :
    ((frame.drop header).take length).length = length := by
  rw [List.length_take, List.length_drop]
  omega

theorem covers_begin (isLength : payload.length = length) (positive : 0 < length)
    (inside : length ≤ datagram.length) (isPayload : payload = datagram.take length)
    (small : datagram.length ≤ payloadSizeMax) (isBuffer : buffer.length = payloadSizeMax)
    (size : reception.datagramSize = datagram.length)
    (bitmask : reception.bytesRecvdBitmask = markBytes 0 length (List.replicate 26 0))
    (data : reception.datagramData = copyBytes buffer 0 payload)
    (copied : reception.copied = List.range payload.length) :
    reception.Covers datagram ∧
      ∀ i, i < length -> isByteReceived reception.bytesRecvdBitmask i = true := by
  have marked (i : Nat) : isByteReceived reception.bytesRecvdBitmask i = decide (i < length) := by
    rw [bitmask, isByteReceived_markBytes (by omega) List.length_replicate,
      isByteReceived_replicate, Bool.false_or]
    simp
  refine ⟨⟨size, ?_, ?_, fun i isMarked => ?_⟩, fun i inFragment => ?_⟩
  · rw [bitmask, length_markBytes, List.length_replicate]
  · rw [marked]
    exact decide_eq_true positive
  · rw [marked, decide_eq_true_eq] at isMarked
    refine ⟨by omega, ?_, ?_⟩
    · rw [data, getElem?_copyBytes (by omega), if_pos (by omega), isPayload, Nat.sub_zero,
        List.getElem?_take_of_lt isMarked]
    · rw [copied, List.mem_range]
      omega
  · rw [marked]
    exact decide_eq_true inFragment

theorem assembles_ite {condition : Prop} [Decidable condition] {first second : Service}
    (holds : condition -> first.reception.Assembles datagram session before)
    (fails : ¬condition -> second.reception.Assembles datagram session before) :
    (if condition then first else second).reception.Assembles datagram session before := by
  split
  next isTrue => exact holds isTrue
  next isFalse => exact fails isFalse

theorem receiveFirstFragment_assembles
    (assembles : service.reception.Assembles datagram session before)
    (small : datagram.length ≤ payloadSizeMax) (initialized : service.flagInitializeOnce = false)
    (fragment : FirstFragmentOf datagram session frame) (accepted : Bool) :
    (service.receiveFirstFragment frame frame.length accepted).reception.Assembles datagram
      session before := by
  unfold receiveFirstFragment
  extract_lets started received size _ timed payload begun marked result
  have starts : service.Keeps started := abortIfTieBroken_keeps service
  have assemblesStarted := starts.assembles assembles
  have posts (event : Event) := (postEvent_keeps started event).assembles assemblesStarted
  refine assembles_ite (fun _ => posts _) fun _ => ?_
  refine assembles_ite (fun _ => posts _) fun _ => ?_
  refine assembles_ite (fun _ => posts _) fun _ => ?_
  refine assembles_ite (fun _ => posts _) fun _ => ?_
  have inside := fragment.inside
  have flag : started.flagInitializeOnce = false :=
    (congrArg Reception.flagInitializeOnce starts.reception).trans initialized
  have payloadLength : payload.length = frame.length - 6 := length_take_drop (by omega)
  have isResult : result.reception =
      { started.reception with
        sessionId := received
        datagramSize := size
        bytesRecvdBitmask := markBytes 0 (frame.length - 6) (List.replicate 26 0)
        datagramData := copyBytes started.rcb.datagramData 0 payload
        copied := List.range payload.length
        rxTimer := some fragmentRxTimeout } := by
    rfl
  obtain ⟨covers, complete⟩ : result.reception.Covers datagram ∧ ∀ i, i < frame.length - 6 ->
      isByteReceived result.reception.bytesRecvdBitmask i = true := by
    refine covers_begin payloadLength (by omega) inside fragment.payload small
      assemblesStarted.buffer ?_ ?_ ?_ ?_
    · rw [isResult]
      exact fragment.size
    · rw [isResult]
    · rw [isResult]
      rfl
    · rw [isResult]
  have flagResult : result.flagInitializeOnce = false := by
    have same := congrArg Reception.flagInitializeOnce isResult
    exact same.trans flag
  have assemblesResult : result.reception.Assembles datagram session before := by
    refine ⟨?_, fun fresh => ?_, fun _ _ => ⟨?_, covers⟩, ?_, ?_⟩
    · rw [isResult]
      have buffer : started.rcb.datagramData.length = payloadSizeMax := assemblesStarted.buffer
      exact (length_copyBytes (by omega)).trans buffer
    · rw [show result.flagInitializeOnce = true from fresh] at flagResult
      cases flagResult
    · rw [isResult]
      exact fragment.sessionId
    · rw [isResult]
      exact assemblesStarted.earlier
    · rw [isResult]
      exact assemblesStarted.whole
  split
  · exact assemblesResult
  split
  next whole =>
    refine sendFragCompleteCmd_assembles ((postEvent_keeps _ _).assembles assemblesResult)
      ((congrArg Reception.flagInitializeOnce (postEvent_keeps _ _).reception).trans flagResult)
      ?_ accepted
    rw [rcb_postEvent]
    intro _ i inDatagram
    refine complete i ?_
    have isSize : result.rcb.datagramSize = datagram.length := covers.size
    have isLength : result.rcb.curRecvdDataSize = payload.length := by
      rfl
    omega
  · exact assemblesResult

theorem Covers.extend (covers : reception.Covers datagram)
    (buffer : reception.datagramData.length = payloadSizeMax) (isLength : payload.length = length)
    (inside : offset + length ≤ datagram.length)
    (isPayload : payload = datagramBytes datagram offset length)
    (fits : offset + length < payloadSizeMax) {after : Reception}
    (size : after.datagramSize = datagram.length)
    (bitmask : after.bytesRecvdBitmask = markBytes offset length reception.bytesRecvdBitmask)
    (data : after.datagramData = copyBytes reception.datagramData offset payload)
    (copied : after.copied = reception.copied ++ List.range' offset payload.length) :
    after.Covers datagram := by
  have marked (i : Nat) : isByteReceived after.bytesRecvdBitmask i =
      (isByteReceived reception.bytesRecvdBitmask i ||
        decide (offset ≤ i ∧ i < offset + length)) := by
    rw [bitmask, isByteReceived_markBytes (by omega) covers.bitmask]
  refine ⟨size, ?_, ?_, fun i isMarked => ?_⟩
  · rw [bitmask, length_markBytes]
    exact covers.bitmask
  · rw [marked, covers.first, Bool.true_or]
  · rw [marked, Bool.or_eq_true, decide_eq_true_eq] at isMarked
    rw [data, getElem?_copyBytes (by omega), copied, List.mem_append, List.mem_range'_1, isLength]
    by_cases inFragment : offset ≤ i ∧ i < offset + length
    · refine ⟨by omega, ?_, .inr inFragment⟩
      rw [if_pos inFragment, isPayload]
      unfold datagramBytes
      rw [List.getElem?_take_of_lt (by omega), List.getElem?_drop]
      congr 1
      omega
    · rw [if_neg inFragment]
      have earlier := covers.bytes i (isMarked.resolve_right inFragment)
      exact ⟨earlier.1, earlier.2.1, .inl earlier.2.2⟩

section

variable (assembles : service.reception.Assembles datagram session before)
include assembles

theorem receiveSubsequentFragment_assembles
    (small : datagram.length < payloadSizeMax) (initialized : service.flagInitializeOnce = false)
    (fragment : SubsequentFragmentOf datagram session frame) (accepted retried : Bool) :
    (service.receiveSubsequentFragment frame frame.length accepted retried).reception.Assembles
      datagram session before := by
  unfold receiveSubsequentFragment
  extract_lets started received offset length size _ sized _ timed marked result rcb resized copied
  have starts : service.Keeps started := abortIfTieBroken_keeps service
  have assemblesStarted := starts.assembles assembles
  have posts (event : Event) := (postEvent_keeps started event).assembles assemblesStarted
  refine assembles_ite (fun _ => posts _) fun _ => ?_
  refine assembles_ite (fun _ => posts _) fun _ => ?_
  refine assembles_ite
    (fun _ => (dropWhileReceiving_keeps started).assembles assemblesStarted) fun _ => ?_
  refine assembles_ite (fun _ => posts _) fun _ => ?_
  have assemblesSized : sized.reception.Assembles datagram session before := assemblesStarted
  refine assembles_ite
    (fun _ => (dropWhileReceiving_keeps sized).assembles assemblesSized) fun _ => ?_
  refine assembles_ite (fun _ => (postEvent_keeps sized _).assembles assemblesSized) fun _ => ?_
  have inside : offset + length ≤ datagram.length := fragment.inside
  have flag : started.flagInitializeOnce = false :=
    (congrArg Reception.flagInitializeOnce starts.reception).trans initialized
  have assemblesTimed : timed.reception.Assembles datagram session before :=
    setRxTimer_assembles assemblesSized flag (some fragmentRxTimeout)
  by_cases missing : offset ≠ 0 ∧ isByteReceived timed.rcb.bytesRecvdBitmask 0 = false
  · have isMarked : marked = (true,
        (timed.postEvent .subseqDiffSession).requestFragWait accepted) := if_pos missing
    dsimp only [result]
    rw [isMarked]
    exact ((requestFragWait_keeps _ _).after (postEvent_keeps _ _)).assembles assemblesTimed
  · have isMarked : marked = (false,
        { timed with
          rcb :=
            { timed.rcb with
              bytesRecvdBitmask :=
                markBytes offset length timed.rcb.bytesRecvdBitmask } }) := if_neg missing
    have payloadLength : ((frame.drop 5).take length).length = length := length_take_drop (by omega)
    have isCopied : copied.reception =
        { timed.reception with
          datagramSize := size
          bytesRecvdBitmask := markBytes offset length timed.rcb.bytesRecvdBitmask
          datagramData := copyBytes timed.rcb.datagramData offset ((frame.drop 5).take length)
          copied := timed.copied ++ List.range' offset ((frame.drop 5).take length).length } := by
      dsimp only [copied, resized, rcb, result]
      rw [isMarked]
      rfl
    have buffer : timed.rcb.datagramData.length = payloadSizeMax := assemblesTimed.buffer
    have flagCopied : copied.flagInitializeOnce = false :=
      (congrArg Reception.flagInitializeOnce isCopied).trans flag
    have assemblesCopied : copied.reception.Assembles datagram session before := by
      refine ⟨?_, fun fresh => ?_, fun _ underway => ?_, ?_, ?_⟩
      · rw [isCopied]
        exact (length_copyBytes (by omega)).trans buffer
      · rw [show copied.flagInitializeOnce = true from fresh] at flagCopied
        cases flagCopied
      · rw [isCopied] at underway
        obtain ⟨isSession, covers⟩ := assemblesTimed.covers flag underway
        refine ⟨?_, Covers.extend covers buffer payloadLength inside fragment.payload (by omega)
          ?_ ?_ ?_ ?_⟩
        · rw [isCopied]
          exact isSession
        · rw [isCopied]
          exact fragment.size
        all_goals
          rw [isCopied]
          rfl
      · rw [isCopied]
        exact assemblesTimed.earlier
      · rw [isCopied]
        exact assemblesTimed.whole
    rw [show marked.1 = false from congrArg Prod.fst isMarked, if_neg Bool.false_ne_true]
    -- The fragment ends before the last byte of the buffer.
    rw [if_pos ⟨by omega, by omega⟩]
    split
    · refine findMissing_assembles ((postEvent_keeps _ _).assembles assemblesCopied)
        (Nat.le_of_lt small) ?_ accepted retried
      exact (congrArg Reception.flagInitializeOnce (postEvent_keeps _ _).reception).trans flagCopied
    · exact assemblesCopied

theorem initializeOnce_assembles :
    service.initializeOnce.reception.Assembles datagram session before ∧
      service.initializeOnce.flagInitializeOnce = false := by
  unfold initializeOnce
  split
  · refine ⟨⟨List.length_replicate, nofun, fun _ underway => absurd rfl underway,
      assembles.earlier, assembles.whole⟩, rfl⟩
  next flag =>
    rw [Bool.not_eq_true] at flag
    exact ⟨assembles, flag⟩

theorem processFrame_assembles
    (small : datagram.length < payloadSizeMax) (fragment : FragmentOf datagram session frame)
    (source dest : Nat) (rxType : ReceiveType) (now : Nat) (accepted retried : Bool) :
    (service.processFrame source dest rxType frame frame.length now accepted
      retried).reception.Assembles datagram session before := by
  unfold processFrame
  extract_lets initialized
  obtain ⟨assemblesInitialized, flag⟩ : initialized.reception.Assembles datagram session before ∧
      initialized.flagInitializeOnce = false :=
    initializeOnce_assembles (service.noticeFrame_keeps.assembles assembles)
  generalize addressed :
    ({ initialized with
      rcb :=
        { initialized.rcb with
          cmn := { initialized.rcb.cmn with source := source, dest := dest }
          rxType := rxType } } : Service) = receiver
  have assemblesReceiver : receiver.reception.Assembles datagram session before := by
    rw [← addressed]
    exact assemblesInitialized
  have flagReceiver : receiver.flagInitializeOnce = false := by
    rw [← addressed]
    exact flag
  unfold receive
  extract_lets command
  split
  · exact assemblesReceiver
  rcases fragment with first | subsequent
  · rw [if_pos first.command]
    exact receiveFirstFragment_assembles assemblesReceiver (Nat.le_of_lt small) flagReceiver first
      accepted
  · have notFirst : ¬ command = commandFirstFragment := by
      dsimp only [command]
      rw [subsequent.command]
      decide
    rw [if_neg notFirst, if_pos subsequent.command]
    exact receiveSubsequentFragment_assembles assemblesReceiver small flagReceiver subsequent
      accepted retried

theorem transportServiceCommandHandler_assembles
    (small : datagram.length < payloadSizeMax) (fragment : FragmentOf datagram session frame)
    (source dest : Nat) (rxType : ReceiveType) (now : Nat) (accepted retried : Bool) :
    (service.transportServiceCommandHandler source dest rxType frame frame.length now accepted
      retried).2.reception.Assembles datagram session before := by
  unfold transportServiceCommandHandler
  extract_lets tied _ noted
  have ties : service.Keeps tied := (breakTie_keeps _ _ _).after (armResetTimer_keeps _)
  have notes : tied.Keeps noted := { Keeps.refl _ with }
  have assemblesTied := ties.assembles assembles
  have assemblesNoted := notes.assembles assemblesTied
  split
  · exact assemblesTied
  split
  · exact assemblesTied
  split
  · split
    · exact assemblesNoted
    · exact ((requestFragWait_keeps _ _).after (postEvent_keeps _ _)).assembles assemblesNoted
  split
  · exact (postEvent_keeps _ _).assembles assemblesNoted
  split
  · split
    · exact (postEvent_keeps _ _).assembles assemblesNoted
    · exact ((requestFragWait_keeps _ _).after (postEvent_keeps _ _)).assembles assemblesNoted
  · exact processFrame_assembles assemblesNoted small fragment source dest rxType now accepted
      retried

end

theorem FragmentOf.length_le (fragment : FragmentOf datagram session frame)
    (small : datagram.length ≤ payloadSizeMax) : frame.length % 2 ^ 8 = frame.length := by
  unfold payloadSizeMax at small
  rcases fragment with first | subsequent
  · have inside := first.inside
    omega
  · have inside := subsequent.inside
    omega

end Service

namespace Wrapper

open Service (FragmentOf byteAt firstFragment subsequentFragment)

/-- No datagram is being assembled. -/
structure AwaitsFirstFragment (wrapper : Wrapper) : Prop where
  buffer : wrapper.service.rcb.datagramData.length = payloadSizeMax
  fresh : wrapper.service.flagInitializeOnce = true -> wrapper.service.rcb.rxTimer = none
  noSession : wrapper.service.flagInitializeOnce = false ->
    wrapper.service.rcb.cmn.sessionId = noSessionId

/-- The received frames are fragments of one datagram, from one node and of one
session. -/
def ReceivesOnly (datagram : List UInt8) (source session : Nat) : Action -> Prop
  | .frameReceived from' _ _ frame _ _ _ => from' = source ∧ FragmentOf datagram session frame
  | _ => True

/-- From whatever state in which no datagram is being assembled, whatever
fragments of the datagram are received and whatever else happens, nothing but the
whole datagram is handed over. -/
def ReassemblesOnly (datagram : List UInt8) : Prop :=
  ∀ (start : Wrapper), start.AwaitsFirstFragment ->
    ∀ (source session : Nat) (actions : List Action),
      (∀ action ∈ actions, ReceivesOnly datagram source session action) ->
        ∀ delivery ∈ (run step start actions).service.delivered.drop
            start.service.delivered.length,
          delivery.IsWhole datagram

variable (service : Service) (payload : List UInt8) (now : Nat) (accepted : Bool)
  {datagram frame : List UInt8} {size offset length : Nat}

theorem takeRequest_reception (maxFrameLen : Nat) (onSendComplete : Option Nat) :
    (service.takeRequest payload maxFrameLen onSendComplete).reception = service.reception := by
  unfold Service.takeRequest Service.armResetTimer Service.reception
  split <;> dsimp only

theorem sendFirstFrag_reception :
    (service.sendFirstFrag now accepted).reception = service.reception := by
  obtain ⟨begun, _, reception, _, _, sends⟩ := service.sendFirstFrag_keeps now accepted
  exact sends.reception.trans reception

theorem transportServiceSendData_reception (source dest : Nat) (payload : List UInt8)
    (maxFrameLen : Nat) (onSendComplete : Option Nat) (now : Nat) (accepted : Bool) :
    (service.transportServiceSendData source dest payload maxFrameLen onSendComplete now
      accepted).2.reception = service.reception := by
  unfold Service.transportServiceSendData
  extract_lets taken begun
  have takes : taken.reception = service.reception := takeRequest_reception _ _ _ _
  have begins : begun.reception = service.reception := takes
  have sends (event : Event) :
      ((begun.postEvent event).sendFirstFrag now accepted).reception = service.reception :=
    (sendFirstFrag_reception _ now accepted).trans
      ((Service.postEvent_keeps begun event).reception.trans begins)
  split
  · exact takes
  split
  · exact takes
  split
  · exact takes
  split
  · exact sends _
  · exact sends _
  · exact begins

theorem sendData_reception (wrapper : Wrapper) (env : Surroundings) (request : SendRequest)
    (now : Nat) (accepted : Bool) :
    (wrapper.zwaveTransportServiceSendData env request now
      accepted).2.service.reception = wrapper.service.reception := by
  unfold zwaveTransportServiceSendData
  extract_lets number taken answer settled recorded
  have answers : answer.2.reception = wrapper.service.reception :=
    transportServiceSendData_reception _ _ _ _ _ _ _ _
  split
  · rfl
  split
  · rfl
  split <;> exact answers

/-- Every reception from the sender alone goes on assembling its datagram. -/
theorem step_assembles {wrapper : Wrapper} {source session before : Nat}
    (assembles : wrapper.service.reception.Assembles datagram session before)
    (small : datagram.length < payloadSizeMax) {action : Action}
    (receives : ReceivesOnly datagram source session action) :
    (wrapper.step action).service.reception.Assembles datagram session before := by
  cases action with
  | sendData env request now accepted =>
    unfold step
    rw [sendData_reception]
    exact assembles
  | lowerLayerCompletion status now accepted =>
    unfold step
    dsimp only
    split
    · unfold onZwaveTxSendDataComplete
      extract_lets outcome
      split
      · exact assembles
      · exact (Service.transportServiceSenddataCb_keeps _ now accepted).assembles assembles
      · exact (Service.tempCallbackLastFrag_keeps _ outcome accepted).assembles assembles
      · exact (Service.tempCallbackReplyFragReq_keeps _ outcome).assembles assembles
    · exact assembles
  | frameReceived from' dest rxType frame now accepted retried =>
    unfold step zwaveTransportServiceOnFrameReceived
    dsimp only
    rw [receives.2.length_le (Nat.le_of_lt small)]
    split
    · exact assembles
    split
    · exact assembles
    · exact Service.transportServiceCommandHandler_assembles assembles small receives.2 from' dest
        rxType now accepted retried
  | timerExpiration timer now accepted retried =>
    unfold step
    dsimp only
    split
    next armed =>
      cases timer with
      | reset => exact Service.discard_assembles assembles
      | waitRestart =>
        unfold timerExpired
        extract_lets _ _ stopped
        show (stopped.sendFirstFrag now accepted).reception.Assembles datagram session before
        rw [sendFirstFrag_reception]
        exact assembles
      | btwn2Frags => exact (Service.sendSubseqFrag_keeps _ accepted).assembles assembles
      | fc => exact (Service.fcTimerExpired_keeps _ accepted).assembles assembles
      | rx =>
        exact Service.rxTimerExpired_assembles assembles (Nat.le_of_lt small) armed accepted
          retried
    next => exact assembles

theorem reassemblesOnly_of_short (small : datagram.length < payloadSizeMax) :
    ReassemblesOnly datagram := by
  intro start awaits source session actions receives
  have assembles : start.service.reception.Assembles datagram session
      start.service.delivered.length := by
    refine ⟨awaits.buffer, awaits.fresh, fun flag underway => ?_, Nat.le_refl _, ?_⟩
    · exact absurd (awaits.noSession flag) underway
    · intro delivery mem
      rw [show start.service.reception.delivered.drop start.service.delivered.length = [] from
        List.drop_length] at mem
      cases mem
  have result := run_invariant_of_mem
    (fun wrapper : Wrapper => wrapper.service.reception.Assembles datagram session
      start.service.delivered.length)
    actions
    (fun wrapper action mem assembles => step_assembles assembles small (receives action mem))
    assembles
  exact result.whole

/-! ## A datagram that fills the buffer -/

/-- A First Fragment of session zero as the receiver reads it. -/
structure ReadsFirst (frame payload : List UInt8) (size : Nat) : Prop where
  commandClass : byteAt frame 0 = 0x55
  command : byteAt frame 1 = 0xC0
  size : byteAt frame 2 = size
  session : byteAt frame 3 = 0
  length : frame.length = payload.length + 6
  checksum : zwaveCrc16 0x1D0F frame = 0
  payload : (frame.drop 4).take payload.length = payload

/-- A Subsequent Fragment of session zero as the receiver reads it. -/
structure ReadsSubsequent (frame payload : List UInt8) (size offset : Nat) : Prop where
  commandClass : byteAt frame 0 = 0x55
  command : byteAt frame 1 = 0xE0
  size : byteAt frame 2 = size
  session : byteAt frame 3 = 0
  offset : byteAt frame 4 = offset
  length : frame.length = payload.length + 7
  checksum : zwaveCrc16 0x1D0F frame = 0
  payload : (frame.drop 5).take payload.length = payload

theorem byteAt_addCrc {header payload : List UInt8} {index : Nat} (inside : index < header.length) :
    byteAt (addCrc (header ++ payload)) index = byteAt header index := by
  unfold byteAt
  rw [getD_addCrc_of_lt _ (by rw [List.length_append]; omega), List.getD_append _ _ _ _ inside]

theorem take_addCrc (header payload : List UInt8) :
    ((addCrc (header ++ payload)).drop header.length).take payload.length = payload := by
  have split := addCrc_split header payload
  rwa [Service.length_addCrc_append, Nat.add_sub_cancel_right] at split

theorem firstFragment_reads (small : size ≤ payloadSizeMax) (payload : List UInt8) :
    ReadsFirst (firstFragment size 0 payload) payload size := by
  unfold firstFragment
  rw [high_bits small]
  constructor
  · exact byteAt_addCrc (by simp)
  · exact byteAt_addCrc (by simp)
  · exact (byteAt_addCrc (by simp)).trans (low_byte small)
  · exact byteAt_addCrc (by simp)
  · exact Service.length_addCrc_append _ _
  · exact zwaveCrc16_addCrc _
  · exact take_addCrc [_, _, _, _] payload

theorem subsequentFragment_reads (small : size ≤ payloadSizeMax) (inside : offset ≤ payloadSizeMax)
    (payload : List UInt8) :
    ReadsSubsequent (subsequentFragment size 0 offset payload) payload size offset := by
  unfold subsequentFragment
  rw [high_bits small, high_bits inside]
  constructor
  · exact byteAt_addCrc (by simp)
  · exact byteAt_addCrc (by simp)
  · exact (byteAt_addCrc (by simp)).trans (low_byte small)
  · exact byteAt_addCrc (by simp)
  · exact (byteAt_addCrc (by simp)).trans (low_byte inside)
  · exact Service.length_addCrc_append _ _
  · exact zwaveCrc16_addCrc _
  · exact take_addCrc [_, _, _, _, _] payload

/-- Two halves of a datagram are received, and the timer of the receiver
expires. -/
def twoHalvesRun (first second : List UInt8) : List Action :=
  [.frameReceived 5 1 .singlecast first 0 true true,
    .frameReceived 5 1 .singlecast second 0 true true, .timerExpiration .rx 0 true true]

theorem twoHalvesRun_delivered {first second firstPayload secondPayload : List UInt8}
    (readsFirst : ReadsFirst first firstPayload payloadSizeMax)
    (readsSecond : ReadsSubsequent second secondPayload payloadSizeMax 100)
    (firstHalf : firstPayload.length = 100) (secondHalf : secondPayload.length = 100) :
    (run step initial (twoHalvesRun first second)).service.delivered =
      [⟨5, 1, (copyBytes (List.replicate payloadSizeMax 0) 0 firstPayload).take payloadSizeMax,
        List.range 100⟩] := by
  obtain ⟨class₁, command₁, size₁, session₁, length₁, checksum₁, payload₁⟩ := readsFirst
  obtain ⟨class₂, command₂, size₂, session₂, offset₂, length₂, checksum₂, _⟩ := readsSecond
  rw [firstHalf] at length₁ payload₁
  rw [secondHalf] at length₂
  have taken₁ : first.take 106 = first := List.take_of_length_le length₁.le
  have taken₂ : second.take 107 = second := List.take_of_length_le length₂.le
  have begun : isByteReceived (markBytes 0 100 (List.replicate 26 0)) 0 = true := by
    decide +kernel
  have nothingMissing : Service.firstUnmarked
      (markBytes 100 100 (markBytes 0 100 (List.replicate 26 0))) = some 200 := by
    decide +kernel
  simp [twoHalvesRun, step, zwaveTransportServiceOnFrameReceived, isKnownCommand, settle,
    initial, isArmed, timerExpired, Service.transportServiceCommandHandler, Service.unused,
    Service.armResetTimer, Service.breakTie, State.isSending, Service.isThirdNode,
    Service.processFrame, Service.noticeFrame, Service.initializeOnce, Service.receive,
    Service.receiveFirstFragment, Service.receiveSubsequentFragment, Service.postEvent,
    findTransition, trans, commandClassTransportServiceV2, commandFirstFragment,
    commandSubsequentFragment, noSessionId, payloadSizeMax, Service.abortIfTieBroken,
    Service.isOtherSession, Service.sessionIdOf, Service.elevenBits, Service.markFragReceived,
    Service.beginReception, Service.rxTimerExpired, Service.findMissing,
    Service.getNextMissingOffset, Service.sendFragCompleteCmd, Service.lowerLayerSendData,
    Service.deliver, -List.reduceReplicate, class₁, command₁, size₁, session₁, length₁,
    checksum₁, payload₁, firstHalf, taken₁, class₂, command₂, size₂, session₂, offset₂, length₂,
    checksum₂, taken₂, begun, nothingMissing]

theorem ReadsFirst.fragmentOf (reads : ReadsFirst frame (datagram.take length) datagram.length)
    (positive : 0 < length) (inside : length ≤ datagram.length) : FragmentOf datagram 0 frame := by
  have payloadLength : (datagram.take length).length = length := by
    rw [List.length_take]
    omega
  have frameLength := reads.length
  have isPayload := reads.payload
  rw [payloadLength] at frameLength isPayload
  have bytes : frame.length - 6 = length := by omega
  refine .inl ⟨?_, ?_, ?_, reads.checksum, by omega, by omega, ?_⟩
  · rw [reads.command]
    rfl
  · rw [reads.command, reads.size]
    exact Nat.zero_add _
  · rw [reads.session]
    rfl
  · rw [bytes]
    exact isPayload

theorem ReadsSubsequent.fragmentOf
    (reads : ReadsSubsequent frame (Service.datagramBytes datagram offset length)
      datagram.length offset)
    (positive : 0 < length)
    (inside : offset + length ≤ datagram.length) :
    FragmentOf datagram 0 frame := by
  have frameLength := reads.length
  have isPayload := reads.payload
  rw [Service.length_datagramBytes inside] at frameLength isPayload
  have bytes : frame.length - 7 = length := by omega
  have isOffset : Service.elevenBits (byteAt frame 3) (byteAt frame 4) = offset := by
    rw [reads.session, reads.offset]
    exact Nat.zero_add _
  refine .inr ⟨?_, ?_, ?_, reads.checksum, by omega, ?_, ?_⟩
  · rw [reads.command]
    rfl
  · rw [reads.command, reads.size]
    exact Nat.zero_add _
  · rw [reads.session]
    rfl
  · rw [isOffset, bytes]
    exact inside
  · rw [isOffset, bytes]
    exact isPayload

theorem initial_awaitsFirstFragment : initial.AwaitsFirstFragment :=
  ⟨List.length_replicate, fun _ => rfl, nofun⟩

theorem not_reassemblesOnly_of_full (full : datagram.length = payloadSizeMax) :
    ¬ ReassemblesOnly datagram := by
  intro reassembles
  have isSize : datagram.length = 200 := full
  have readsFirst := firstFragment_reads full.le (datagram.take 100)
  have readsSecond := subsequentFragment_reads full.le (show 100 ≤ payloadSizeMax by decide)
    (Service.datagramBytes datagram 100 100)
  have fragments : ∀ action ∈ twoHalvesRun (firstFragment datagram.length 0 (datagram.take 100))
      (subsequentFragment datagram.length 0 100 (Service.datagramBytes datagram 100 100)),
      ReceivesOnly datagram 5 0 action := by
    unfold twoHalvesRun
    simp only [List.forall_mem_cons]
    refine ⟨⟨rfl, readsFirst.fragmentOf (by decide) (by omega)⟩,
      ⟨rfl, readsSecond.fragmentOf (by decide) (by omega)⟩, trivial, nofun⟩
  have delivered := twoHalvesRun_delivered (full ▸ readsFirst) (full ▸ readsSecond)
    (by rw [List.length_take]; omega) (Service.length_datagramBytes (by omega))
  have whole := reassembles initial initial_awaitsFirstFragment 5 0 _ fragments
  rw [full, delivered] at whole
  have copied : 150 ∈ List.range 100 := (whole _ List.mem_cons_self).copied 150 (by omega)
  revert copied
  decide

/-- Exactly the datagrams that are shorter than the buffer are reassembled
faithfully. -/
theorem reassemblesOnly_iff {datagram : List UInt8} (small : datagram.length ≤ payloadSizeMax) :
    ReassemblesOnly datagram ↔ datagram.length < payloadSizeMax := by
  constructor
  · intro reassembles
    by_contra long
    exact not_reassemblesOnly_of_full (Nat.le_antisymm small (Nat.not_lt.mp long)) reassembles
  · exact reassemblesOnly_of_short

theorem reassemblesOnly_three_bytes : ReassemblesOnly [1, 2, 3] :=
  (reassemblesOnly_iff (by decide)).mpr (by decide)

/-- Two hundred bytes, received in two halves: the second half is handed over as
zeros. -/
theorem last_half_is_not_copied :
    ¬ ReassemblesOnly (List.replicate payloadSizeMax 0xff) ∧
      (run step initial
        (twoHalvesRun (firstFragment payloadSizeMax 0 (List.replicate 100 0xff))
          (subsequentFragment payloadSizeMax 0 100
            (List.replicate 100 0xff)))).service.delivered =
        [⟨5, 1, List.replicate 100 0xff ++ List.replicate 100 0, List.range 100⟩] := by
  refine ⟨not_reassemblesOnly_of_full List.length_replicate, ?_⟩
  rw [twoHalvesRun_delivered (firstFragment_reads (Nat.le_refl _) _)
    (subsequentFragment_reads (Nat.le_refl _) (by decide) _) List.length_replicate
    List.length_replicate]
  decide +kernel

end Wrapper

end TransportService
