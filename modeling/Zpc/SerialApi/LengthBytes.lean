import Zpc.SerialApi.RoundTrip

/-!
# Length bytes

A length byte decides how many bytes are asked of the line and how much of the receive buffer
is read.  The length of the buffer's contents, which is one larger, is kept in a byte.
-/

namespace SerialApi

/-- What the code does at a length byte: the length that is announced, the number of bytes that
are asked of the line, the bytes of the frame that are there then, and the number of bytes of
the receive buffer that are read for the log and the checksum. -/
structure BodyRead where
  announced : UInt8
  requested : Int
  received : List UInt8
  bufferRead : Nat
  deriving DecidableEq

/-- What is said of a body: the number of bytes is positive and leaves room for the length byte,
and no byte of the buffer is read that has not been received. -/
structure BodyRead.Safe (body : BodyRead) : Prop where
  positive : 0 < body.requested
  fits : 1 + body.requested ≤ frameLengthMax
  read : body.bufferRead ≤ body.received.length

/-- The frame that has been received: a length from `FRAME_LENGTH_MIN` to `FRAME_LENGTH_MAX - 1`,
all the bytes that it announces, and the right checksum.  The buffer has these bytes, and its
length leaves the checksum out. -/
structure BodyRead.IsFrame (body : BodyRead) (rxBuffer : List UInt8) (rxBufferLength : UInt8) :
    Prop where
  large : frameLengthMin.toNat ≤ body.announced.toNat
  small : body.announced.toNat ≤ frameLengthMax - 1
  first : body.received.head? = some body.announced
  complete : body.received.length = body.announced.toNat + 1
  valid : checksum body.received = 0
  buffered : rxBuffer.take body.received.length = body.received
  bufferLength : rxBufferLength = body.announced

namespace Connection

/-- The part of `zwapi_connection_refresh` that reads the body of a frame.  The number of bytes
is computed with an `int` from the byte that has the length. -/
def readBody (connection : Connection) (byte : UInt8) : Option BodyRead :=
  if byte < frameLengthMin then none
  else
    let rxBufferLength := byte + 1
    let requested : Int := (rxBufferLength.toNat : Int) - 1
    let read := connection.line.getBuffer requested.toNat
    let bytesRead : Int := if read.2.1 then -1 else read.1.length
    some
      { announced := byte
        requested := requested
        received := byte :: read.1
        bufferRead :=
          if bytesRead < 0 then 0
          else if bytesRead < requested then 0
          else rxBufferLength.toNat }

/-- The body that is read at a byte. -/
def bodyReadAt (connection : Connection) (byte : UInt8) : List BodyRead :=
  match connection.state with
  | .sofHunt => []
  | .parseFrame => (connection.readBody byte).toList

/-- The bodies that the loop of `zwapi_connection_refresh` reads. -/
def bodyReadsLoop : Nat -> Bool -> Connection -> List BodyRead
  | 0, _, _ => []
  | iterations + 1, rxIsActive, connection =>
      if connection.line.isFileAvailable then
        let read := connection.line.getBuffer 1
        let connection := { connection with line := read.2.2 }
        match read.1, read.2.1 with
        | _, true => []
        | [], false => []
        | byte :: _, false =>
            let isActive := connection.nextActive rxIsActive byte
            let taken := connection.takeByte byte
            connection.bodyReadAt byte ++
              if taken.1 = .idle then
                let checked := taken.2.checkTimeouts isActive
                if checked.1 = .idle then bodyReadsLoop iterations isActive checked.2 else []
              else []
      else []

/-- The bodies that `zwapi_connection_refresh` reads. -/
def bodyReads (connection : Connection) : List BodyRead :=
  bodyReadsLoop (connection.line.incoming.length + 1) false connection

theorem readBytes_length (signals : List Signal) (clock count waited : Nat) :
    (readBytes signals clock count waited).bytes.length ≤ count := by
  fun_induction readBytes signals clock count waited with
  | case1 => exact le_rfl
  | case2 | case5 | case6 => exact Nat.zero_le _
  | case3 value rest clock count waited reading ih => exact Nat.succ_le_succ ih
  | case4 duration rest clock count waited within ih => exact ih

theorem getBuffer_length (line : Line) (count : Nat) : (line.getBuffer count).1.length ≤ count :=
  readBytes_length _ _ _ _

theorem toNat_add_one (byte : UInt8) :
    (byte + 1).toNat = if byte = 255 then 0 else byte.toNat + 1 := by
  split
  next isLargest =>
    rw [isLargest]
    rfl
  next notLargest =>
    have small := byte.toNat_lt
    have differs : byte.toNat ≠ (255 : UInt8).toNat := fun same =>
      notLargest (UInt8.toNat_inj.mp same)
    change byte.toNat ≠ 255 at differs
    change (byte.toNat + 1) % 256 = byte.toNat + 1
    exact Nat.mod_eq_of_lt (by omega)

variable (iterations : Nat) {connection : Connection} {byte : UInt8} {body : BodyRead}
  {bytes : List UInt8} {isActive : Bool}

theorem safe_iff_of_readBody (isRead : connection.readBody byte = some body) :
    body.Safe ↔ body.announced ≠ 255 := by
  unfold readBody at isRead
  split at isRead
  next => cases isRead
  next large =>
    have isBody := Option.some.inj isRead
    have isMaximum : frameLengthMax = 255 := rfl
    have atLeast : 3 ≤ byte.toNat := UInt8.le_iff_toNat_le.mp (UInt8.not_lt.mp large)
    have below := byte.toNat_lt
    have isAnnounced : body.announced = byte := by rw [← isBody]
    have isRequested : body.requested = ((byte + 1).toNat : Int) - 1 := by rw [← isBody]
    rw [toNat_add_one] at isRequested
    rw [isAnnounced]
    constructor
    · intro safe isLargest
      have positive := safe.positive
      rw [if_pos isLargest] at isRequested
      omega
    · intro notLargest
      rw [if_neg notLargest] at isRequested
      have differs : byte.toNat ≠ 255 := fun same =>
        notLargest (UInt8.toNat_inj.mp (same.trans rfl))
      refine ⟨by omega, by omega, ?_⟩
      rw [← isBody]
      dsimp only
      rw [toNat_add_one, if_neg notLargest, List.length_cons]
      generalize connection.line.getBuffer _ = read
      by_cases isLost : read.2.1 = true
      · rw [if_pos isLost]
        exact Nat.zero_le _
      · rw [if_neg isLost, if_neg (by omega)]
        split <;> omega

theorem validate_frameReceived {length : UInt8} {rest : List UInt8}
    (buffer : connection.rxBuffer = length :: bytes ++ rest)
    (bufferLength : connection.rxBufferLength = length + 1)
    (complete : bytes.length = (length + 1).toNat - 1)
    (received : connection.validate.1 = .frameReceived) :
    length ≠ 255 ∧ bytes.length = length.toNat ∧ checksum (length :: bytes) = 0 ∧
      connection.validate.2.rxBuffer = length :: bytes ++ rest ∧
      connection.validate.2.rxBufferLength = length := by
  have valid : checksum (connection.rxBuffer.take connection.rxBufferLength.toNat) = 0 := by
    unfold validate at received
    split_ifs at received
    assumption
  have notLargest : length ≠ 255 := by
    intro isLargest
    rw [bufferLength, toNat_add_one, if_pos isLargest, List.take_zero] at valid
    exact absurd valid (by decide)
  rw [toNat_add_one, if_neg notLargest, Nat.add_sub_cancel] at complete
  have isTaken : connection.rxBuffer.take connection.rxBufferLength.toNat = length :: bytes := by
    rw [buffer, bufferLength, toNat_add_one, if_neg notLargest, ← complete]
    exact List.take_left' rfl
  refine ⟨notLargest, complete, isTaken ▸ valid, ?_, ?_⟩
  · unfold validate
    rw [if_pos valid]
    exact buffer
  · unfold validate
    rw [if_pos valid]
    rw [bufferLength, UInt8.add_sub_cancel]

theorem isFrame_of_parse (received : (connection.parse byte).1 = .frameReceived) :
    ∃ body, connection.readBody byte = some body ∧
      body.IsFrame (connection.parse byte).2.rxBuffer (connection.parse byte).2.rxBufferLength := by
  unfold parse at received ⊢
  unfold readBody
  split at received
  next => cases received
  next large =>
    rw [if_neg large, if_neg large]
    refine ⟨_, rfl, ?_⟩
    dsimp only at received ⊢
    split at received
    next => cases received
    next notLost =>
      split at received
      next => cases received
      next complete =>
        have isRequested : (((byte + 1).toNat : Int) - 1).toNat = (byte + 1).toNat - 1 := by omega
        have few := getBuffer_length connection.line ((byte + 1).toNat - 1)
        obtain ⟨notLargest, isLength, valid, isBuffer, isBufferLength⟩ :=
          validate_frameReceived rfl rfl (by omega) received
        have differs : byte.toNat ≠ 255 := fun same =>
          notLargest (UInt8.toNat_inj.mp (same.trans rfl))
        have isMaximum : frameLengthMax = 255 := rfl
        have below := byte.toNat_lt
        rw [if_neg notLost, if_neg complete]
        constructor <;> dsimp only <;> try rw [isRequested]
        · exact UInt8.le_iff_toNat_le.mp (UInt8.not_lt.mp large)
        · omega
        · rfl
        · rw [List.length_cons, isLength]
        · exact valid
        · rw [isBuffer]
          exact List.take_left' rfl
        · exact isBufferLength

theorem isFrame_of_settle (received : (connection.settle byte).1 = .frameReceived) :
    ∃ body, connection.bodyReadAt byte = [body] ∧
      body.IsFrame (connection.settle byte).2.rxBuffer
        (connection.settle byte).2.rxBufferLength := by
  obtain ⟨parses, isParsed⟩ := parses_of_settle _ received
  rw [isParsed] at received ⊢
  obtain ⟨body, isRead, isFrame⟩ := isFrame_of_parse received
  refine ⟨body, ?_, isFrame⟩
  rw [bodyReadAt, parses, isRead]
  rfl

theorem received_length_of_readBody (isRead : connection.readBody byte = some body) :
    body.received.length ≤ frameLengthMax := by
  unfold readBody at isRead
  split at isRead
  next => cases isRead
  next =>
    have isMaximum : frameLengthMax = 255 := rfl
    have few := getBuffer_length connection.line (((byte + 1).toNat : Int) - 1).toNat
    have below := (byte + 1).toNat_lt
    rw [← Option.some.inj isRead]
    rw [List.length_cons]
    omega

theorem mem_bodyReadAt (mem : body ∈ connection.bodyReadAt byte) :
    connection.readBody byte = some body := by
  unfold bodyReadAt at mem
  cases state : connection.state with
  | sofHunt =>
    rw [state] at mem
    cases mem
  | parseFrame =>
    rw [state] at mem
    exact Option.mem_toList.mp mem

theorem bodyReadsLoop_byte {rest : List Signal}
    (incoming : connection.line.incoming = .byte byte :: rest)
    (parses : isActive = true -> connection.state = .parseFrame) (iterations : Nat) :
    bodyReadsLoop (iterations + 1) isActive connection =
      (connection.expecting rest).bodyReadAt byte ++
        if ((connection.expecting rest).settle byte).1 = .idle then
          bodyReadsLoop iterations (connection.nextActive isActive byte)
            ((connection.expecting rest).settle byte).2
        else [] := by
  have available : connection.line.isFileAvailable = true := by
    simp [Line.isFileAvailable, incoming]
  have read : connection.line.getBuffer 1 =
      ([byte], false, { connection.line with incoming := rest }) := by
    simp [Line.getBuffer, incoming, readBytes]
  have sameTimeouts := checkTimeouts_nextActive connection rest parses byte
  simp only [bodyReadsLoop, available, read, if_true]
  change (connection.expecting rest).bodyReadAt byte ++
    (if ((connection.expecting rest).takeByte byte).1 = .idle then
      if (((connection.expecting rest).takeByte byte).2.checkTimeouts
          (connection.nextActive isActive byte)).1 = .idle then
        bodyReadsLoop iterations (connection.nextActive isActive byte)
          (((connection.expecting rest).takeByte byte).2.checkTimeouts
            (connection.nextActive isActive byte)).2
      else []
    else []) = _
  rw [sameTimeouts]
  unfold settle
  split_ifs <;> rfl

theorem exists_readBody_of_mem_bodyReadsLoop {iterations : Nat}
    (parses : isActive = true -> connection.state = .parseFrame)
    (mem : body ∈ bodyReadsLoop iterations isActive connection) :
    ∃ reading byte, readBody reading byte = some body := by
  induction iterations generalizing isActive connection with
  | zero => cases mem
  | succ iterations ih =>
    match incoming : connection.line.incoming with
    | [] => simp [bodyReadsLoop, Line.isFileAvailable, incoming] at mem
    | .delay _ :: _ => simp [bodyReadsLoop, Line.isFileAvailable, incoming] at mem
    | .lost :: _ =>
      simp [bodyReadsLoop, Line.isFileAvailable, incoming, Line.getBuffer, readBytes] at mem
    | .byte byte :: rest =>
      rw [bodyReadsLoop_byte incoming parses] at mem
      rcases List.mem_append.mp mem with isFirst | later
      · exact ⟨_, byte, mem_bodyReadAt isFirst⟩
      · split at later
        next => exact ih (settle_state_of_nextActive connection rest parses) later
        next => cases later

theorem isFrame_of_refreshLoop (connection : Connection)
    (parses : isActive = true -> connection.state = .parseFrame)
    (received : (refreshLoop iterations isActive connection).1 = .frameReceived) :
    ∃ body, (bodyReadsLoop iterations isActive connection).getLast? = some body ∧
      body.IsFrame (refreshLoop iterations isActive connection).2.rxBuffer
        (refreshLoop iterations isActive connection).2.rxBufferLength := by
  induction iterations generalizing isActive connection with
  | zero => simp [refreshLoop] at received
  | succ iterations ih =>
    obtain ⟨byte, rest, incoming⟩ := incoming_of_refreshLoop connection received
    rw [refreshLoop_byte incoming parses] at received ⊢
    rw [bodyReadsLoop_byte incoming parses]
    split_ifs at received ⊢ with idle
    · obtain ⟨body, isLast, isFrame⟩ := ih _
        (settle_state_of_nextActive connection rest parses) received
      refine ⟨body, ?_, isFrame⟩
      rw [List.getLast?_append, isLast, Option.some_or]
    · obtain ⟨body, isOnly, isFrame⟩ := isFrame_of_settle received
      refine ⟨body, ?_, isFrame⟩
      rw [isOnly]
      rfl

/-- What is said of a poll: the bodies are read safely and are in the buffer, and a frame is
reported only for a body that is one. -/
structure PollsSafely (connection : Connection) : Prop where
  safe : ∀ body ∈ connection.bodyReads, body.Safe
  inBuffer : ∀ body ∈ connection.bodyReads, body.received.length ≤ connection.rxBuffer.length
  frame : connection.refresh.1 = .frameReceived ->
    ∃ body, connection.bodyReads.getLast? = some body ∧
      body.IsFrame connection.refresh.2.rxBuffer connection.refresh.2.rxBufferLength

/-- No length byte of the poll has the value that one more than does not fit into a byte. -/
def NoLargestLength (connection : Connection) : Prop :=
  ∀ body ∈ connection.bodyReads, body.announced ≠ 255

theorem pollsSafely_iff (wholeBuffer : connection.rxBuffer.length = frameLengthMax) :
    connection.PollsSafely ↔ connection.NoLargestLength := by
  have inactive : false = true -> connection.state = .parseFrame := fun active => nomatch active
  constructor
  · intro polls body mem
    obtain ⟨reading, byte, isRead⟩ := exists_readBody_of_mem_bodyReadsLoop inactive mem
    exact (safe_iff_of_readBody isRead).mp (polls.safe body mem)
  · intro noLargest
    refine ⟨fun body mem => ?_, fun body mem => ?_, ?_⟩
    · obtain ⟨reading, byte, isRead⟩ := exists_readBody_of_mem_bodyReadsLoop inactive mem
      exact (safe_iff_of_readBody isRead).mpr (noLargest body mem)
    · obtain ⟨reading, byte, isRead⟩ := exists_readBody_of_mem_bodyReadsLoop inactive mem
      rw [wholeBuffer]
      exact received_length_of_readBody isRead
    · exact isFrame_of_refreshLoop _ connection inactive

theorem length_write (few : bytes.length ≤ connection.rxBuffer.length) :
    (connection.write bytes).rxBuffer.length = connection.rxBuffer.length := by
  unfold write
  rw [List.length_append, List.length_drop]
  omega

theorem validate_rxBuffer (connection : Connection) :
    connection.validate.2.rxBuffer = connection.rxBuffer := by
  unfold validate
  split_ifs <;> rfl

theorem length_parse (wholeBuffer : connection.rxBuffer.length = frameLengthMax) (byte : UInt8) :
    (connection.parse byte).2.rxBuffer.length = frameLengthMax := by
  have isMaximum : frameLengthMax = 255 := rfl
  have below := (byte + 1).toNat_lt
  unfold parse
  extract_lets read received
  have few : read.1.length ≤ (byte + 1).toNat - 1 := getBuffer_length connection.line _
  have isWhole : received.rxBuffer.length = frameLengthMax := by
    refine (length_write ?_).trans wholeBuffer
    rw [List.length_cons, wholeBuffer]
    omega
  split_ifs
  · exact wholeBuffer
  · exact isWhole
  · exact isWhole
  · rw [validate_rxBuffer]
    exact isWhole

theorem checkTimeouts_rxBuffer (connection : Connection) (isActive : Bool) :
    (connection.checkTimeouts isActive).2.rxBuffer = connection.rxBuffer := by
  unfold checkTimeouts
  extract_lets rxElapsed reset
  have same : reset.rxBuffer = connection.rxBuffer := by
    dsimp only [reset]
    split_ifs <;> rfl
  split_ifs <;> simp [same]

theorem length_settle (wholeBuffer : connection.rxBuffer.length = frameLengthMax) (byte : UInt8) :
    (connection.settle byte).2.rxBuffer.length = frameLengthMax := by
  have taken : (connection.takeByte byte).2.rxBuffer.length = frameLengthMax := by
    unfold takeByte
    split
    next =>
      unfold hunt
      split_ifs <;> exact wholeBuffer
    next => exact length_parse wholeBuffer byte
  unfold settle
  split_ifs
  · rw [checkTimeouts_rxBuffer]
    exact taken
  · exact taken

theorem length_refreshLoop (parses : isActive = true -> connection.state = .parseFrame)
    (wholeBuffer : connection.rxBuffer.length = frameLengthMax) :
    (refreshLoop iterations isActive connection).2.rxBuffer.length = frameLengthMax := by
  induction iterations generalizing isActive connection with
  | zero => exact wholeBuffer
  | succ iterations ih =>
    match incoming : connection.line.incoming with
    | [] => simpa [refreshLoop, Line.isFileAvailable, incoming] using wholeBuffer
    | .delay _ :: _ => simpa [refreshLoop, Line.isFileAvailable, incoming] using wholeBuffer
    | .lost :: _ => simpa [refreshLoop, Line.isFileAvailable, incoming, Line.getBuffer, readBytes]
    | .byte byte :: rest =>
      have wholeRest : (connection.expecting rest).rxBuffer.length = frameLengthMax := wholeBuffer
      have settled := length_settle wholeRest byte
      rw [refreshLoop_byte incoming parses]
      split_ifs
      · exact ih (settle_state_of_nextActive connection rest parses) settled
      · exact settled

end Connection

/-- What is done with the connection. -/
inductive ConnectionCall
  | refresh
  | tx (command type : UInt8) (payload : List UInt8) (ackNeeded fails : Bool)
  | restart (reopened : Option (List Signal))
  | elapse

namespace Connection

/-- The connection after a call. -/
def call (connection : Connection) : ConnectionCall -> Connection
  | .refresh => connection.refresh.2
  | .tx command type payload ackNeeded fails =>
      (connection.tx command type payload ackNeeded fails).2
  | .restart reopened => connection.restart reopened
  | .elapse => connection.elapse

/-- The connection as the polls of a run find it. -/
def polled : Connection -> List ConnectionCall -> List Connection
  | _, [] => []
  | connection, .refresh :: calls => connection :: polled (connection.call .refresh) calls
  | connection, other :: calls => polled (connection.call other) calls

variable {connection : Connection}

theorem length_call (wholeBuffer : connection.rxBuffer.length = frameLengthMax)
    (call : ConnectionCall) : (connection.call call).rxBuffer.length = frameLengthMax := by
  cases call with
  | refresh => exact length_refreshLoop _ (fun active => nomatch active) wholeBuffer
  | tx command type payload ackNeeded fails =>
    change (connection.tx command type payload ackNeeded fails).2.rxBuffer.length = _
    unfold tx
    split_ifs <;> exact wholeBuffer
  | restart | elapse => exact wholeBuffer

theorem length_of_mem_polled {poll : Connection} {calls : List ConnectionCall}
    (wholeBuffer : connection.rxBuffer.length = frameLengthMax)
    (isPolled : poll ∈ connection.polled calls) : poll.rxBuffer.length = frameLengthMax := by
  induction calls generalizing connection with
  | nil => cases isPolled
  | cons call calls ih =>
    have next := length_call wholeBuffer call
    cases call with
    | refresh =>
      rcases List.mem_cons.mp isPolled with isFirst | later
      · rw [isFirst]
        exact wholeBuffer
      · exact ih next later
    | tx | restart | elapse => exact ih next isPolled

/-- In every run all polls do what is said if and only if none of them comes upon a length byte
with the value 255. -/
theorem polls_safely_iff (line : Line) (calls : List ConnectionCall) :
    (∀ poll ∈ (initial line).polled calls, poll.PollsSafely) ↔
      ∀ poll ∈ (initial line).polled calls, poll.NoLargestLength := by
  have wholeBuffer : (initial line).rxBuffer.length = frameLengthMax := List.length_replicate
  exact forall₂_congr fun poll isPolled =>
    pollsSafely_iff (length_of_mem_polled wholeBuffer isPolled)

/-- After the start of a frame comes the length 255. -/
def largestLength : Line := ⟨[.byte sof, .byte 255], [], 0⟩

/-- The code asks the line for -1 bytes. -/
theorem not_pollsSafely_largestLength :
    ¬ ∀ poll ∈ (initial largestLength).polled [.refresh], poll.PollsSafely := by
  intro polls
  have isRead : (⟨255, -1, [255], 0⟩ : BodyRead) ∈ (initial largestLength).bodyReads := by
    decide +kernel
  have safe := (polls _ List.mem_cons_self).safe _ isRead
  exact absurd safe.positive (by decide)

end Connection

end SerialApi
