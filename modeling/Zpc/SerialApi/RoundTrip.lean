import Zpc.SerialApi.FrameStream

/-!
# What is sent is what is received

Every frame that `zwapi_connection_tx` encodes is heard once and acknowledged
once, wherever the line is silent and whatever comes between two frames.  A frame
with an altered byte is answered with a NAK, or is cut differently and can then
not be reported as it arrived.
-/

namespace SerialApi

theorem foldl_xor (start : UInt8) (bytes : List UInt8) :
    bytes.foldl (fun sum byte => sum ^^^ byte) start =
      start ^^^ bytes.foldl (fun sum byte => sum ^^^ byte) 0 := by
  induction bytes generalizing start with
  | nil => simp
  | cons byte rest ih =>
    rw [List.foldl_cons, List.foldl_cons, ih (start ^^^ byte), ih (0 ^^^ byte)]
    simp [UInt8.xor_assoc]

theorem checksum_append_checksum (bytes : List UInt8) :
    checksum (bytes ++ [checksum bytes]) = 0 := by
  simp [checksum]

theorem checksum_middle (before after : List UInt8) (byte : UInt8) :
    checksum (before ++ byte :: after) = checksum (before ++ after) ^^^ byte := by
  simp only [checksum, List.foldl_append, List.foldl_cons]
  rw [foldl_xor _ after, foldl_xor (List.foldl _ _ _) after, UInt8.xor_assoc, UInt8.xor_assoc,
    UInt8.xor_comm byte]

theorem checksum_set_ne_zero {bytes : List UInt8} (valid : checksum bytes = 0) {index : Nat}
    (within : index < bytes.length) {value : UInt8} (altered : value ≠ bytes[index]) :
    checksum (bytes.set index value) ≠ 0 := by
  rw [List.set_eq_take_append_cons_drop, if_pos within, checksum_middle]
  have original := checksum_middle (bytes.take index) (bytes.drop (index + 1)) bytes[index]
  rw [List.cons_getElem_drop_succ, List.take_append_drop, valid] at original
  have rest := UInt8.xor_eq_zero_iff.mp original.symm
  intro vanishes
  exact altered (UInt8.xor_eq_zero_iff.mp vanishes ▸ rest)

/-- The bytes that some signals carry. -/
def bytesOf (signals : List Signal) : List UInt8 :=
  signals.filterMap fun
    | .byte value => some value
    | _ => none

@[simp] theorem bytesOf_nil : bytesOf [] = [] := rfl

@[simp] theorem bytesOf_byte (value : UInt8) (rest : List Signal) :
    bytesOf (.byte value :: rest) = value :: bytesOf rest := rfl

@[simp] theorem bytesOf_delay (duration : Nat) (rest : List Signal) :
    bytesOf (.delay duration :: rest) = bytesOf rest := rfl

/-- No silence is as long as the byte timeout, and the connection is kept. -/
def Prompt : Nat -> List Signal -> Prop
  | _, [] => True
  | _, .byte _ :: rest => Prompt 0 rest
  | waited, .delay duration :: rest =>
      waited + duration < rxByteTimeout ∧ Prompt (waited + duration) rest
  | _, .lost :: _ => False

/-- Signals that carry nothing. -/
structure Silent (signals : List Signal) : Prop where
  bytes : bytesOf signals = []
  kept : .lost ∉ signals

/-- Signals that do not start a frame. -/
structure Noise (signals : List Signal) : Prop where
  bytes : sof ∉ bytesOf signals
  kept : .lost ∉ signals

theorem Prompt.kept {waited : Nat} {signals : List Signal} (prompt : Prompt waited signals) :
    .lost ∉ signals := by
  fun_induction Prompt waited signals <;> simp_all

theorem readBytes_of_prompt (signals rest : List Signal) (clock waited : Nat)
    (prompt : Prompt waited signals) :
    ∃ left later, Silent left ∧
      readBytes (signals ++ rest) clock (bytesOf signals).length waited =
        ⟨bytesOf signals, false, left ++ rest, later⟩ := by
  induction signals generalizing clock waited with
  | nil => exact ⟨[], clock, ⟨rfl, by simp⟩, by simp [readBytes]⟩
  | cons signal signals ih =>
    cases signal with
    | byte value =>
      obtain ⟨left, later, silent, reads⟩ := ih clock 0 prompt
      refine ⟨left, later, silent, ?_⟩
      simp [readBytes, reads]
    | delay duration =>
      cases bytes : bytesOf signals with
      | nil =>
        exact ⟨.delay duration :: signals, clock, ⟨bytes, prompt.kept⟩, by simp [bytes, readBytes]⟩
      | cons value values =>
        obtain ⟨left, later, silent, reads⟩ := ih (clock + duration) (waited + duration) prompt.2
        refine ⟨left, later, silent, ?_⟩
        rw [bytes, List.length_cons] at reads
        simp [bytes, readBytes, prompt.1, reads]
    | lost => exact prompt.elim

namespace Connection

/-- The parser goes from one connection to another, reports the frames and
answers with the bytes. -/
structure Hears
    (connection : Connection)
    (frames : List (List UInt8))
    (answers : List UInt8)
    (later : Connection) : Prop where
  scan : connection.scan = (frames ++ later.scan.1, later.scan.2)
  outgoing : later.line.outgoing = connection.line.outgoing ++ answers

variable (connection : Connection)

theorem Hears.refl : connection.Hears [] [] connection :=
  ⟨by simp, by simp⟩

theorem Hears.trans {first second third : Connection} {frames frames' : List (List UInt8)}
    {answers answers' : List UInt8} (earlier : first.Hears frames answers second)
    (later : second.Hears frames' answers' third) :
    first.Hears (frames ++ frames') (answers ++ answers') third where
  scan := by rw [earlier.scan, later.scan, List.append_assoc]
  outgoing := by rw [later.outgoing, earlier.outgoing, List.append_assoc]

theorem hears_settle {connection : Connection} {byte : UInt8} {rest : List Signal}
    (incoming : connection.line.incoming = .byte byte :: rest) {answers : List UInt8}
    (outgoing : ((connection.expecting rest).settle byte).2.line.outgoing =
      connection.line.outgoing ++ answers) :
    connection.Hears
      (reported ((connection.expecting rest).settle byte).1
        ((connection.expecting rest).settle byte).2)
      answers ((connection.expecting rest).settle byte).2 :=
  ⟨scan_byte incoming, outgoing⟩

@[simp] theorem checkTimeouts_reported :
    reported (connection.checkTimeouts false).1 (connection.checkTimeouts false).2 = [] := by
  simp only [checkTimeouts, Bool.false_and, Bool.false_eq_true, if_false]
  split_ifs <;> rfl

theorem settle_hunt_of_ne_sof {connection : Connection} (hunts : connection.state = .sofHunt)
    {byte : UInt8} (other : byte ≠ sof) :
    reported (connection.settle byte).1 (connection.settle byte).2 = [] ∧
      (connection.settle byte).2.state = .sofHunt ∧
      (connection.settle byte).2.line = connection.line := by
  have taken : connection.takeByte byte = connection.hunt byte := by simp [takeByte, hunts]
  by_cases awaited : connection.ackNakNeeded = true
  · simp only [settle, taken, hunt, other, awaited, if_false, if_true]
    split_ifs <;> simp_all [reported]
  · simp [settle, taken, hunt, other, awaited, hunts]

theorem hears_noise (hunts : connection.state = .sofHunt) (noise rest : List Signal)
    (isNoise : Noise noise) (incoming : connection.line.incoming = noise ++ rest) :
    ∃ later : Connection, connection.Hears [] [] later ∧
      later.state = .sofHunt ∧ later.line.incoming = rest := by
  induction noise generalizing connection with
  | nil => exact ⟨connection, .refl connection, hunts, incoming⟩
  | cons signal noise ih =>
    have restNoise : Noise noise := by
      obtain ⟨bytes, kept⟩ := isNoise
      refine ⟨fun mem => bytes ?_, fun mem => kept (List.mem_cons_of_mem _ mem)⟩
      cases signal <;> simp_all [bytesOf]
    cases signal with
    | byte value =>
      have other : value ≠ sof := by
        rintro rfl
        exact isNoise.bytes (by simp)
      obtain ⟨unreported, state, line⟩ :=
        @settle_hunt_of_ne_sof (connection.expecting (noise ++ rest)) hunts value other
      have skips := @hears_settle connection value (noise ++ rest) incoming [] (by simp [line])
      rw [unreported] at skips
      obtain ⟨later, hears, ends⟩ := ih _ state restNoise (by simp [line])
      exact ⟨later, skips.trans hears, ends⟩
    | delay duration =>
      have skips : connection.Hears [] [] connection.elapse :=
        ⟨by simp [scan_elapse_incoming], by simp [elapse, Line.elapse, incoming]⟩
      obtain ⟨later, hears, ends⟩ := ih connection.elapse hunts restNoise
        (by simp [elapse, Line.elapse, incoming])
      exact ⟨later, skips.trans hears, ends⟩
    | lost => exact absurd (List.mem_cons_self) isNoise.kept

theorem hears_silent (silence rest : List Signal) (silent : Silent silence)
    (incoming : connection.line.incoming = silence ++ rest) :
    ∃ later : Connection, connection.Hears [] [] later ∧
      later.state = connection.state ∧ later.line.incoming = rest := by
  induction silence generalizing connection with
  | nil => exact ⟨connection, .refl connection, rfl, incoming⟩
  | cons signal silence ih =>
    cases signal with
    | byte value => exact absurd silent.bytes (by simp)
    | delay duration =>
      have restSilent : Silent silence :=
        ⟨silent.bytes, fun mem => silent.kept (List.mem_cons_of_mem _ mem)⟩
      have skips : connection.Hears [] [] connection.elapse :=
        ⟨by simp [scan_elapse_incoming], by simp [elapse, Line.elapse, incoming]⟩
      obtain ⟨later, hears, ends⟩ := ih connection.elapse restSilent
        (by simp [elapse, Line.elapse, incoming])
      exact ⟨later, skips.trans hears, ends⟩
    | lost => exact absurd (List.mem_cons_self) silent.kept

theorem hears_sof (hunts : connection.state = .sofHunt) (rest : List Signal)
    (incoming : connection.line.incoming = .byte sof :: rest) :
    ∃ later : Connection, connection.Hears [] [] later ∧
      later.state = .parseFrame ∧ later.line.incoming = rest := by
  have settled : (connection.expecting rest).settle sof =
      ((connection.expecting rest).hunt sof).2.checkTimeouts false := by
    simp [settle, takeByte, hunts, hunt]
  have starts := @hears_settle connection sof rest incoming [] (by simp [settled, hunt])
  rw [settled, checkTimeouts_reported] at starts
  exact ⟨_, starts, by simp [hunt], by simp [hunt]⟩

variable {length : UInt8}

theorem length_succ_toNat (small : length ≠ 255) : (length + 1).toNat = length.toNat + 1 := by
  have bound := length.toNat_lt
  have different : length.toNat ≠ 255 := fun equal => small (UInt8.toNat_inj.mp equal)
  rw [UInt8.toNat_add]
  simp only [UInt8.toNat_one]
  omega

theorem parse_of_prompt (connection : Connection) {length : UInt8} (large : frameLengthMin ≤ length)
    (small : length ≠ 255) {signals rest : List Signal}
    (incoming : connection.line.incoming = signals ++ rest)
    (announced : (bytesOf signals).length = length.toNat) (prompt : Prompt 0 signals) :
    ∃ (received : Connection) (left : List Signal), Silent left ∧
      connection.parse length = received.validate ∧
      received.rxBuffer.take (length.toNat + 1) = length :: bytesOf signals ∧
      received.rxBufferLength = length + 1 ∧
      received.line.incoming = left ++ rest ∧
      received.line.outgoing = connection.line.outgoing := by
  obtain ⟨left, later, silent, reads⟩ :=
    readBytes_of_prompt signals rest connection.line.clock 0 prompt
  have count := length_succ_toNat small
  rw [← incoming, announced] at reads
  have notSmall : ¬ length < frameLengthMin := by simpa using large
  refine ⟨{ connection with
      rxBufferLength := length + 1
      line := (connection.line.getBuffer length.toNat).2.2 }.write
      (length :: (connection.line.getBuffer length.toNat).1), left, silent, ?_, ?_, rfl, ?_, rfl⟩
  · simp only [parse, if_neg notSmall, count, Nat.add_sub_cancel, Line.getBuffer, reads, announced,
      lt_irrefl, if_false, Bool.false_eq_true]
  · simp [write, Line.getBuffer, reads, List.take_append_of_le_length announced.ge, announced]
  · simp [write, Line.getBuffer, reads]

theorem hears_body (parses : connection.state = .parseFrame) (large : frameLengthMin ≤ length)
    (small : length ≠ 255) {signals rest : List Signal}
    (incoming : connection.line.incoming = .byte length :: (signals ++ rest))
    (announced : (bytesOf signals).length = length.toNat) (prompt : Prompt 0 signals) :
    ∃ later : Connection, later.state = .sofHunt ∧ later.line.incoming = rest ∧
      if checksum (length :: bytesOf signals) = 0 then
        connection.Hears [(length :: bytesOf signals).take length.toNat] [ack] later
      else connection.Hears [] [nak] later := by
  obtain ⟨received, left, silent, parsed, buffer, bufferLength, leftOver, outgoing⟩ :=
    @parse_of_prompt (connection.expecting (signals ++ rest)) length large small signals rest rfl
      announced prompt
  have size := length_succ_toNat small
  have taken : (connection.expecting (signals ++ rest)).takeByte length = received.validate := by
    simp [takeByte, parses, parsed]
  have hears : ∃ next : Connection, next.state = .sofHunt ∧ next.line.incoming = left ++ rest ∧
      if checksum (length :: bytesOf signals) = 0 then
        connection.Hears [(length :: bytesOf signals).take length.toNat] [ack] next
      else connection.Hears [] [nak] next := by
    split_ifs with valid
    · let next : Connection :=
        { received with
          line := received.line.put [ack]
          rxBufferLength := length
          state := .sofHunt }
      have settled : (connection.expecting (signals ++ rest)).settle length =
          (.frameReceived, next) := by
        simp only [settle, taken, validate, bufferLength, size, buffer, valid, if_true]
        simp [next]
      have last : next.getLastRxFrame frameLengthMax =
          (length :: bytesOf signals).take length.toNat := by
        have bound : length.toNat ≤ frameLengthMax := Nat.le_of_lt_succ length.toNat_lt
        rw [← buffer, List.take_take, Nat.min_eq_left (Nat.le_succ _)]
        simp only [getLastRxFrame, next, Nat.min_eq_left bound]
      have answers := @hears_settle connection length (signals ++ rest) incoming [ack]
        (by simp [settled, next, Line.put, outgoing])
      simp only [settled, reported, if_true, last] at answers
      exact ⟨next, rfl, leftOver, answers⟩
    · let next : Connection := { received with line := received.line.put [nak], state := .sofHunt }
      have settled : (connection.expecting (signals ++ rest)).settle length =
          (.checksumError, next) := by
        simp only [settle, taken, validate, bufferLength, size, buffer, valid, if_false]
        simp [next, bufferLength]
      have answers := @hears_settle connection length (signals ++ rest) incoming [nak]
        (by simp [settled, next, Line.put, outgoing])
      simp only [settled, reported] at answers
      exact ⟨next, rfl, leftOver, answers⟩
  obtain ⟨next, hunts, nextIncoming, answer⟩ := hears
  obtain ⟨later, waits, state, ends⟩ := hears_silent next left rest silent nextIncoming
  refine ⟨later, by rw [state, hunts], ends, ?_⟩
  split_ifs with valid
  · rw [if_pos valid] at answer
    simpa using answer.trans waits
  · rw [if_neg valid] at answer
    simpa using answer.trans waits

end Connection

/-- The way the bytes of a frame arrive: after noise, with silences anywhere, but
without one that lets the read of the frame time out. -/
structure Arrival where
  noise : List Signal
  pause : List Signal
  length : UInt8
  rest : List Signal
  isNoise : Noise noise
  isSilent : Silent pause
  isPrompt : Prompt 0 rest

namespace Arrival

variable (arrival : Arrival)

/-- The signals of an arrival. -/
def signals : List Signal :=
  arrival.noise ++ .byte sof :: (arrival.pause ++ .byte arrival.length :: arrival.rest)

/-- The bytes after the start of the frame. -/
def body : List UInt8 := arrival.length :: bytesOf arrival.rest

theorem hears (large : frameLengthMin ≤ arrival.length) (small : arrival.length ≠ 255)
    (announced : arrival.body.length = arrival.length.toNat + 1) (connection : Connection)
    (hunts : connection.state = .sofHunt) (after : List Signal)
    (incoming : connection.line.incoming = arrival.signals ++ after) :
    ∃ later : Connection, later.state = .sofHunt ∧ later.line.incoming = after ∧
      if checksum arrival.body = 0 then
        connection.Hears [arrival.body.take arrival.length.toNat] [ack] later
      else connection.Hears [] [nak] later := by
  simp only [signals, List.append_assoc, List.cons_append] at incoming
  obtain ⟨huntsStill, passes, state, ahead⟩ :=
    connection.hears_noise hunts _ _ arrival.isNoise incoming
  obtain ⟨started, starts, state, ahead⟩ := huntsStill.hears_sof state _ ahead
  obtain ⟨waited, waits, stateStill, ahead⟩ := started.hears_silent _ _ arrival.isSilent ahead
  obtain ⟨later, state, ahead, answer⟩ := waited.hears_body (stateStill.trans state) large small
    ahead (Nat.succ.inj announced) arrival.isPrompt
  have before := (passes.trans starts).trans waits
  refine ⟨later, state, ahead, ?_⟩
  unfold body
  split_ifs with valid
  · rw [if_pos valid] at answer
    exact before.trans answer
  · rw [if_neg valid] at answer
    exact before.trans answer

end Arrival

/-- A frame that `zwapi_connection_tx` encodes, and the way it arrives. -/
structure Feed extends Arrival where
  command : UInt8
  type : UInt8
  payload : List UInt8
  fits : payload.length ≤ 250
  encoded : encode command type payload = sof :: toArrival.body

namespace Feed

/-- The frame as `zwapi_connection_get_last_rx_frame` is to return it. -/
def frame (feed : Feed) : List UInt8 := frameOf feed.command feed.type feed.payload

theorem body_eq (feed : Feed) : feed.body = feed.frame ++ [checksum feed.frame] := by
  have encoded := feed.encoded
  rw [encode, List.cons.injEq] at encoded
  exact encoded.2.symm

end Feed

theorem frameOf_length_toNat {command type : UInt8} {payload : List UInt8}
    (fits : payload.length ≤ 250) :
    (UInt8.ofNat payload.length + 3).toNat = (frameOf command type payload).length := by
  simp [frameOf]
  omega

theorem announces_of_encoded {arrival : Arrival} {command type : UInt8} {payload : List UInt8}
    (fits : payload.length ≤ 250) (length : arrival.length = UInt8.ofNat payload.length + 3)
    (size : arrival.body.length = (frameOf command type payload).length + 1) :
    frameLengthMin ≤ arrival.length ∧ arrival.length ≠ 255 ∧
      arrival.body.length = arrival.length.toNat + 1 := by
  have announced := @frameOf_length_toNat command type payload fits
  rw [← length] at announced
  have count : (frameOf command type payload).length = payload.length + 3 := by simp [frameOf]
  refine ⟨?_, ?_, by rw [size, announced]⟩
  · rw [UInt8.le_iff_toNat_le, announced]
    exact Nat.le_add_left 3 _
  · intro large
    rw [large] at announced
    have : (255 : UInt8).toNat = 255 := rfl
    omega

namespace Connection

theorem hears_feed (feed : Feed) (connection : Connection) (hunts : connection.state = .sofHunt)
    (after : List Signal) (incoming : connection.line.incoming = feed.signals ++ after) :
    ∃ later : Connection, later.state = .sofHunt ∧ later.line.incoming = after ∧
      connection.Hears [feed.frame] [ack] later := by
  have body := feed.body_eq
  have length : feed.length = UInt8.ofNat feed.payload.length + 3 := by
    have heads := congrArg List.head? body
    simpa [Arrival.body, Feed.frame, frameOf] using heads
  obtain ⟨large, small, announced⟩ := @announces_of_encoded feed.toArrival feed.command feed.type
    feed.payload feed.fits length (by rw [body]; simp [Feed.frame])
  obtain ⟨later, state, ahead, answer⟩ :=
    feed.toArrival.hears large small announced connection hunts after incoming
  refine ⟨later, state, ahead, ?_⟩
  have whole : feed.body.take feed.length.toNat = feed.frame := by
    have size : feed.length.toNat = feed.frame.length := by
      rw [length]
      exact frameOf_length_toNat feed.fits
    rw [body, size, List.take_left]
  rwa [if_pos (by rw [body]; exact checksum_append_checksum _), whole] at answer

theorem hears_feeds (feeds : List Feed) (connection : Connection)
    (hunts : connection.state = .sofHunt) (after : List Signal)
    (incoming : connection.line.incoming = feeds.flatMap (fun feed => feed.signals) ++ after) :
    ∃ later : Connection, later.state = .sofHunt ∧ later.line.incoming = after ∧
      connection.Hears (feeds.map Feed.frame) (List.replicate feeds.length ack) later := by
  induction feeds generalizing connection with
  | nil => exact ⟨connection, hunts, incoming, .refl connection⟩
  | cons feed feeds ih =>
    rw [List.flatMap_cons, List.append_assoc] at incoming
    obtain ⟨next, state, ahead, first⟩ := hears_feed feed connection hunts _ incoming
    obtain ⟨later, state, ahead, others⟩ := ih next state ahead
    exact ⟨later, state, ahead, first.trans others⟩

theorem Hears.listen {connection later : Connection} {frames : List (List UInt8)}
    {answers : List UInt8} (hears : connection.Hears frames answers later)
    (ended : later.line.incoming = []) : connection.listen = (frames, later) := by
  rw [listen_eq_scan, hears.scan, scan_nil ended, List.append_nil]

theorem hears_altered {arrival : Arrival} {command type : UInt8} {payload : List UInt8}
    (fits : payload.length ≤ 250) {index : Nat} (afterLength : index ≠ 0)
    (within : index < (encode command type payload).tail.length) {value : UInt8}
    (differs : value ≠ (encode command type payload).tail[index])
    (altered : arrival.body = (encode command type payload).tail.set index value)
    (connection : Connection) (hunts : connection.state = .sofHunt) (after : List Signal)
    (incoming : connection.line.incoming = arrival.signals ++ after) :
    ∃ later : Connection, later.state = .sofHunt ∧ later.line.incoming = after ∧
      connection.Hears [] [nak] later := by
  have length : arrival.length = UInt8.ofNat payload.length + 3 := by
    obtain ⟨index, rfl⟩ := Nat.exists_eq_succ_of_ne_zero afterLength
    have heads := congrArg List.head? altered
    simpa [Arrival.body, encode, frameOf] using heads
  obtain ⟨large, small, announced⟩ := @announces_of_encoded arrival command type payload fits
    length (by rw [altered]; simp [encode])
  obtain ⟨later, state, ahead, answer⟩ :=
    arrival.hears large small announced connection hunts after incoming
  refine ⟨later, state, ahead, ?_⟩
  have valid : checksum (encode command type payload).tail = 0 := checksum_append_checksum _
  rwa [if_neg (by rw [altered]; exact checksum_set_ne_zero valid within differs)] at answer

variable (connection : Connection)

theorem validate_announces {length : UInt8} {bytes rest : List UInt8}
    (buffer : connection.rxBuffer = length :: bytes ++ rest)
    (bufferLength : connection.rxBufferLength = length + 1) (large : frameLengthMin ≤ length)
    (complete : (length + 1).toNat - 1 ≤ bytes.length)
    (received : connection.validate.1 = .frameReceived) :
    (connection.validate.2.getLastRxFrame frameLengthMax).head? = some length ∧
      (connection.validate.2.getLastRxFrame frameLengthMax).length = length.toNat := by
  have valid : checksum (connection.rxBuffer.take connection.rxBufferLength.toNat) = 0 := by
    unfold validate at received
    split_ifs at received
    assumption
  have small : length ≠ 255 := by
    rintro rfl
    have wraps : ((255 : UInt8) + 1).toNat = 0 := by decide
    rw [bufferLength, wraps, List.take_zero] at valid
    exact absurd valid (by decide)
  have size := length_succ_toNat small
  have bound : length.toNat ≤ frameLengthMax := Nat.le_of_lt_succ length.toNat_lt
  have positive : 3 ≤ length.toNat := UInt8.le_iff_toNat_le.mp large
  have last : connection.validate.2.getLastRxFrame frameLengthMax =
      (length :: bytes).take length.toNat := by
    have within : length.toNat ≤ (length :: bytes).length := by
      rw [List.length_cons]
      omega
    unfold validate
    rw [if_pos valid]
    simp only [getLastRxFrame, bufferLength, UInt8.add_sub_cancel, Nat.min_eq_left bound, buffer]
    exact List.take_append_of_le_length within
  rw [last]
  constructor
  · obtain ⟨count, equal⟩ := Nat.exists_eq_succ_of_ne_zero (by omega : length.toNat ≠ 0)
    simp [equal]
  · rw [List.length_take, List.length_cons]
    omega

theorem hunt_ne_frameReceived (byte : UInt8) : (connection.hunt byte).1 ≠ .frameReceived := by
  unfold hunt
  split_ifs <;> simp

theorem checkTimeouts_ne_frameReceived (isActive : Bool) :
    (connection.checkTimeouts isActive).1 ≠ .frameReceived := by
  unfold checkTimeouts
  extract_lets
  split_ifs <;> simp

theorem parses_of_settle {byte : UInt8} (received : (connection.settle byte).1 = .frameReceived) :
    connection.state = .parseFrame ∧ connection.settle byte = connection.parse byte := by
  by_cases idle : (connection.takeByte byte).1 = .idle
  · rw [settle, if_pos idle] at received
    exact absurd received (checkTimeouts_ne_frameReceived _ _)
  rw [settle, if_neg idle] at received ⊢
  cases state : connection.state with
  | sofHunt =>
    rw [takeByte, state] at received
    exact absurd received (hunt_ne_frameReceived _ _)
  | parseFrame => exact ⟨rfl, by simp [takeByte, state]⟩

theorem settle_announces (byte : UInt8) (received : (connection.settle byte).1 = .frameReceived) :
    ∃ length : UInt8, frameLengthMin ≤ length ∧
      ((connection.settle byte).2.getLastRxFrame frameLengthMax).head? = some length ∧
      ((connection.settle byte).2.getLastRxFrame frameLengthMax).length = length.toNat := by
  have isParsed := (parses_of_settle connection received).2
  rw [isParsed] at received ⊢
  unfold parse at received ⊢
  extract_lets at received ⊢
  split_ifs at received ⊢ with small isLost short
  exact ⟨byte, UInt8.not_lt.mp small, validate_announces _ rfl rfl (UInt8.not_lt.mp small)
    (Nat.le_of_not_lt short) received⟩

variable {isActive : Bool}

theorem incoming_of_refreshLoop {iterations : Nat}
    (received : (refreshLoop (iterations + 1) isActive connection).1 = .frameReceived) :
    ∃ byte rest, connection.line.incoming = .byte byte :: rest := by
  rcases incoming : connection.line.incoming with _ | ⟨byte | _ | _, rest⟩
  case nil => simp [refreshLoop, Line.isFileAvailable, incoming] at received
  case cons.delay => simp [refreshLoop, Line.isFileAvailable, incoming] at received
  case cons.lost =>
    simp [refreshLoop, Line.isFileAvailable, incoming, Line.getBuffer, readBytes] at received
  case cons.byte => exact ⟨byte, rest, rfl⟩

theorem refreshLoop_received_length (iterations : Nat) (connection : Connection)
    (parses : isActive = true -> connection.state = .parseFrame)
    (received : (refreshLoop iterations isActive connection).1 = .frameReceived) :
    frameLengthMin.toNat ≤
      ((refreshLoop iterations isActive connection).2.getLastRxFrame frameLengthMax).length := by
  induction iterations generalizing isActive connection with
  | zero => simp [refreshLoop] at received
  | succ iterations ih =>
    obtain ⟨byte, rest, incoming⟩ := incoming_of_refreshLoop connection received
    rw [refreshLoop_byte incoming parses] at received ⊢
    split_ifs at received ⊢ with idle
    · exact ih _ (settle_state_of_nextActive connection rest parses) received
    · obtain ⟨length, large, -, size⟩ := settle_announces _ byte received
      rw [size]
      exact UInt8.le_iff_toNat_le.mp large

theorem refresh_received_length (received : connection.refresh.1 = .frameReceived) :
    frameLengthMin.toNat ≤ (connection.refresh.2.getLastRxFrame frameLengthMax).length :=
  refreshLoop_received_length _ connection (by simp) received

theorem scan_announces :
    ∀ frame ∈ connection.scan.1,
      ∃ length : UInt8, frame.head? = some length ∧ frame.length = length.toNat := by
  induction connection using scan.induct with
  | case1 connection incoming => simp [scan_nil incoming]
  | case2 connection _ incoming => simp [scan_lost incoming]
  | case3 connection _ _ incoming ih =>
    rw [scan_delay incoming]
    exact ih
  | case4 connection byte rest incoming settled ih =>
    rw [scan_byte incoming]
    intro frame mem
    obtain now | later := List.mem_append.mp mem
    · unfold reported at now
      split_ifs at now with received
      · rw [List.mem_singleton.mp now]
        obtain ⟨length, -, announces⟩ := settle_announces _ byte received
        exact ⟨length, announces⟩
      · exact absurd now (List.not_mem_nil)
    · exact ih frame later

/-- A frame is put on the line as it is encoded, unless it is too long or the line fails. -/
theorem outgoing_tx (command type : UInt8) (payload : List UInt8) (ackNeeded fails : Bool) :
    (connection.tx command type payload ackNeeded fails).2.line.outgoing =
      connection.line.outgoing ++
        if payload.length ≤ 250 ∧ fails = false then encode command type payload else [] := by
  unfold tx
  split
  · rename_i tooLong
    rw [if_neg fun sent => absurd sent.1 (Nat.not_le.mpr tooLong), List.append_nil]
  · split
    · rename_i isLost
      rw [if_neg (by simp [isLost]), List.append_nil]
    · rename_i fits goesOn
      have sent : payload.length ≤ 250 ∧ fails = false :=
        ⟨Nat.not_lt.mp fits, eq_false_of_ne_true goesOn⟩
      rw [if_pos sent]
      rfl

/-- Every frame that is encoded is heard once, in order, and acknowledged once.
A frame with an altered byte is refused; where its length was altered, the parser
may make other frames of it, but never the one that arrived. -/
theorem listen_roundTrip :
    (∀ (connection : Connection) (feeds : List Feed),
      connection.state = .sofHunt ->
      connection.line.incoming = feeds.flatMap (fun feed => feed.signals) ->
      connection.listen.1 = feeds.map Feed.frame ∧
        connection.listen.2.line.outgoing =
          connection.line.outgoing ++ List.replicate feeds.length ack ∧
        connection.listen.2.line.incoming = []) ∧
    (∀ (connection : Connection) (before after : List Feed) (arrival : Arrival)
        (command type : UInt8) (payload : List UInt8) (index : Nat)
        (within : index < (encode command type payload).tail.length) (value : UInt8),
      payload.length ≤ 250 ->
      value ≠ (encode command type payload).tail[index] ->
      arrival.body = (encode command type payload).tail.set index value ->
      connection.state = .sofHunt ->
      connection.line.incoming = before.flatMap (fun feed => feed.signals) ++
        (arrival.signals ++ after.flatMap (fun feed => feed.signals)) ->
      if index = 0 then arrival.body.dropLast ∉ connection.listen.1
      else connection.listen.1 = before.map Feed.frame ++ after.map Feed.frame) := by
  constructor
  · intro connection feeds hunts incoming
    rw [← List.append_nil (feeds.flatMap _)] at incoming
    obtain ⟨later, -, ended, hears⟩ := hears_feeds feeds connection hunts [] incoming
    rw [hears.listen ended]
    exact ⟨rfl, hears.outgoing, ended⟩
  · intro connection before after arrival command type payload index within value fits differs
      altered hunts incoming
    split_ifs with isLength
    · subst isLength
      intro mem
      rw [listen_eq_scan] at mem
      obtain ⟨length, head, size⟩ := scan_announces connection _ mem
      have count : (frameOf command type payload).length =
          (UInt8.ofNat payload.length + 3).toNat := (frameOf_length_toNat fits).symm
      have tail : (encode command type payload).tail =
          (UInt8.ofNat payload.length + 3) ::
            (type :: command :: payload ++ [checksum (frameOf command type payload)]) := rfl
      simp only [altered, tail, List.set_cons_zero, List.length_dropLast, List.length_cons,
        List.length_append] at head size
      apply differs
      simp only [tail, List.getElem_cons_zero]
      rw [List.dropLast_cons_of_ne_nil (by simp), List.head?_cons, Option.some.injEq] at head
      rw [head, ← UInt8.toNat_inj, ← count, ← size]
      simp [frameOf]
    · obtain ⟨refusing, state, ahead, first⟩ := hears_feeds before connection hunts _ incoming
      obtain ⟨going, state, ahead, refuses⟩ :=
        hears_altered fits isLength within differs altered refusing state _ ahead
      rw [← List.append_nil (after.flatMap _)] at ahead
      obtain ⟨later, -, ended, second⟩ := hears_feeds after going state [] ahead
      have hears := (first.trans refuses).trans second
      rw [hears.listen ended, List.append_nil]

end Connection

/-- A frame of one byte after a NAK, with silences. -/
def feedAfterNak : Feed where
  noise := [.byte nak, .delay 2000]
  pause := [.delay 3]
  length := 4
  rest := [.byte 0x00, .byte 0x15, .delay 1000, .byte 0x2A, .byte 0xC4]
  isNoise := ⟨by decide, by decide⟩
  isSilent := ⟨by decide, by decide⟩
  isPrompt := by simp [Prompt, rxByteTimeout]
  command := 0x15
  type := 0x00
  payload := [0x2A]
  fits := by decide
  encoded := by decide

/-- The same frame with another payload, and the checksum of the first one. -/
def arrivalAltered : Arrival :=
  { feedAfterNak.toArrival with
    rest := [.byte 0x00, .byte 0x15, .byte 0x2B, .byte 0xC4]
    isPrompt := by simp [Prompt] }

namespace Connection

theorem listen_roundTrip_feedAfterNak :
    (initial ⟨[feedAfterNak, feedAfterNak].flatMap (fun feed => feed.signals), [], 0⟩).listen.1 =
        [[4, 0, 0x15, 0x2A], [4, 0, 0x15, 0x2A]] ∧
      (initial ⟨[feedAfterNak].flatMap (fun feed => feed.signals) ++
        (arrivalAltered.signals ++ [feedAfterNak].flatMap (fun feed => feed.signals)),
        [], 0⟩).listen.1 = [[4, 0, 0x15, 0x2A]] ++ [[4, 0, 0x15, 0x2A]] := by
  refine ⟨(listen_roundTrip.1 _ [feedAfterNak, feedAfterNak] rfl rfl).1, ?_⟩
  have refused := listen_roundTrip.2
    (initial ⟨[feedAfterNak].flatMap (fun feed => feed.signals) ++
      (arrivalAltered.signals ++ [feedAfterNak].flatMap (fun feed => feed.signals)), [], 0⟩)
    [feedAfterNak] [feedAfterNak] arrivalAltered 0x15 0x00 [0x2A] 3 (by decide) 0x2B
    (by decide) (by decide) (by decide) rfl rfl
  exact refused

end Connection

end SerialApi
