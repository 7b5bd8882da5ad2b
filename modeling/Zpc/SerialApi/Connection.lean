import Mathlib.Data.List.Basic

/-!
# The connection to the Z-Wave module

`zwapi_connection.c` turns the bytes of the serial line into frames and back.
The line is a list of signals: bytes, periods without a byte, and the loss of the
connection.  A read waits for the bytes it was asked for, but not longer than the
byte timeout for each of them; a poll takes only what has arrived.
-/

namespace SerialApi

def sof : UInt8 := 0x01

def ack : UInt8 := 0x06

def nak : UInt8 := 0x15

def can : UInt8 := 0x18

def frameLengthMin : UInt8 := 3

def frameLengthMax : Nat := 255

/-- `RX_ACK_TIMEOUT_DEFAULT`. -/
def rxAckTimeout : Nat := 1500

/-- `RX_BYTE_TIMEOUT_DEFAULT`. -/
def rxByteTimeout : Nat := 1500

/-- `zwapi_timestamp_t`, in milliseconds below the seconds. -/
structure Timestamp where
  seconds : Nat
  milliseconds : Nat
  deriving DecidableEq

/-- `zwapi_timestamp_get`.  Nothing is carried over into the seconds. -/
def timestampGet (clock period : Nat) : Timestamp where
  seconds := clock / 1000 + period / 1000
  milliseconds := clock % 1000 + period % 1000

/-- `zwapi_is_timestamp_elapsed`. -/
def isTimestampElapsed (clock : Nat) (timestamp : Timestamp) : Bool :=
  if timestamp.seconds = clock / 1000 then decide (timestamp.milliseconds < clock % 1000)
  else decide (timestamp.seconds < clock / 1000)

/-- What happens on the line. -/
inductive Signal
  | byte (value : UInt8)
  | delay (duration : Nat)
  | lost
  deriving DecidableEq

/-- The line: the signals to come, the bytes that were written, and the time. -/
structure Line where
  incoming : List Signal
  outgoing : List UInt8
  clock : Nat

/-- What a read returns: the bytes, whether the connection was lost, the signals
that are left and the time. -/
structure Reading where
  bytes : List UInt8
  isLost : Bool
  left : List Signal
  clock : Nat

/-- `zwapi_serial_get_buffer`, for a number of bytes, when the line has been
silent for a time already. -/
def readBytes : List Signal -> Nat -> Nat -> Nat -> Reading
  | signals, clock, 0, _ => ⟨[], false, signals, clock⟩
  | [], clock, _ + 1, waited => ⟨[], false, [], clock + (rxByteTimeout - waited)⟩
  | .byte value :: rest, clock, count + 1, _ =>
      let reading := readBytes rest clock count 0
      { reading with bytes := value :: reading.bytes }
  | .delay duration :: rest, clock, count + 1, waited =>
      if waited + duration < rxByteTimeout then
        readBytes rest (clock + duration) (count + 1) (waited + duration)
      else
        ⟨[], false, .delay (waited + duration - rxByteTimeout) :: rest,
          clock + (rxByteTimeout - waited)⟩
  | .lost :: rest, clock, _ + 1, _ => ⟨[], true, .lost :: rest, clock⟩

namespace Line

variable (line : Line)

def isFileAvailable : Bool :=
  match line.incoming with
  | .byte _ :: _ => true
  | .lost :: _ => true
  | _ => false

/-- `get_buffer`: the bytes, whether the connection was lost, and the line. -/
def getBuffer (count : Nat) : List UInt8 × Bool × Line :=
  let reading := readBytes line.incoming line.clock count 0
  (reading.bytes, reading.isLost, { line with incoming := reading.left, clock := reading.clock })

/-- `put_byte` and `put_buffer`. -/
def put (bytes : List UInt8) : Line :=
  { line with outgoing := line.outgoing ++ bytes }

/-- Time passes until something arrives. -/
def elapse : Line :=
  match line.incoming with
  | .delay duration :: rest => { line with incoming := rest, clock := line.clock + duration }
  | _ => line

end Line

/-- `zwapi_connection_state`. -/
inductive ParserState
  | sofHunt
  | parseFrame

/-- `zwapi_connection_status_t`. -/
inductive ConnectionStatus
  | idle
  | frameReceived
  | frameSent
  | checksumError
  | rxTimeout
  | txTimeout
  | txNak
  | txCan
  | connectionLost
  deriving DecidableEq

/-- The variables of the connection, and the line. -/
structure Connection where
  rxBuffer : List UInt8
  rxBufferLength : UInt8
  state : ParserState
  timeOutAck : Timestamp
  timeOutRx : Timestamp
  ackNakNeeded : Bool
  line : Line

/-- The checksum of a sequence of bytes. -/
def checksum (bytes : List UInt8) : UInt8 := bytes.foldl (fun sum byte => sum ^^^ byte) 0xFF

/-- The body of a frame without its checksum: length, type, command, payload. -/
def frameOf (command type : UInt8) (payload : List UInt8) : List UInt8 :=
  (UInt8.ofNat payload.length + 3) :: type :: command :: payload

/-- The buffer `zwapi_connection_tx` fills. -/
def encode (command type : UInt8) (payload : List UInt8) : List UInt8 :=
  sof :: (frameOf command type payload ++ [checksum (frameOf command type payload)])

namespace Connection

/-- The state after `zwapi_connection_init`. -/
def initial (line : Line) : Connection where
  rxBuffer := List.replicate frameLengthMax 0
  rxBufferLength := 0
  state := .sofHunt
  timeOutAck := timestampGet line.clock rxAckTimeout
  timeOutRx := timestampGet line.clock rxByteTimeout
  ackNakNeeded := false
  line := line

variable (connection : Connection)

/-- `zwapi_connection_restart`.  The port is opened again with the signals that
come then, or cannot be opened. -/
def restart (reopened : Option (List Signal)) : Connection :=
  { connection with
    rxBufferLength := 0
    state := .sofHunt
    ackNakNeeded := false
    timeOutAck := timestampGet connection.line.clock rxAckTimeout
    timeOutRx := timestampGet connection.line.clock rxByteTimeout
    line :=
      match reopened with
      | some signals => { connection.line with incoming := signals }.put [nak]
      | none => connection.line }

/-- `zwapi_connection_tx`.  The line may fail. -/
def tx (connection : Connection) (command type : UInt8) (payload : List UInt8)
    (ackNeeded fails : Bool) : ConnectionStatus × Connection :=
  if frameLengthMax - 5 < payload.length then (.txNak, connection)
  else if fails then (.connectionLost, { connection with ackNakNeeded := false })
  else
    (.idle,
      { connection with
        line := connection.line.put (encode command type payload)
        ackNakNeeded := ackNeeded
        timeOutAck :=
          if ackNeeded then timestampGet connection.line.clock rxAckTimeout
          else connection.timeOutAck })

/-- The first bytes of the receive buffer are overwritten. -/
def write (bytes : List UInt8) : Connection :=
  { connection with rxBuffer := bytes ++ connection.rxBuffer.drop bytes.length }

/-- A byte while the parser looks for the start of a frame. -/
def hunt (byte : UInt8) : ConnectionStatus × Connection :=
  if byte = sof then
    (.idle,
      { connection with
        rxBufferLength := 0
        state := .parseFrame
        timeOutRx := timestampGet connection.line.clock rxByteTimeout })
  else if connection.ackNakNeeded then
    (if byte = ack then .frameSent
      else if byte = nak then .txNak
      else if byte = can then .txCan
      else .txTimeout,
      { connection with ackNakNeeded := false })
  else (.idle, connection)

/-- The frame in the receive buffer is complete. -/
def validate : ConnectionStatus × Connection :=
  if checksum (connection.rxBuffer.take connection.rxBufferLength.toNat) = 0 then
    (.frameReceived,
      { connection with
        line := connection.line.put [ack]
        rxBufferLength := connection.rxBufferLength - 1
        state := .sofHunt })
  else
    (.checksumError, { connection with line := connection.line.put [nak], state := .sofHunt })

/-- A length byte.  No byte is larger than `FRAME_LENGTH_MAX`. -/
def parse (byte : UInt8) : ConnectionStatus × Connection :=
  if byte < frameLengthMin then (.idle, { connection with state := .sofHunt })
  else
    let read := connection.line.getBuffer ((byte + 1).toNat - 1)
    let received :=
      { connection with rxBufferLength := byte + 1, line := read.2.2 }.write (byte :: read.1)
    if read.2.1 then (.connectionLost, received)
    else if read.1.length < (byte + 1).toNat - 1 then
      (.idle, { received with state := .sofHunt })
    else received.validate

/-- The switch over the state of the parser. -/
def takeByte (byte : UInt8) : ConnectionStatus × Connection :=
  match connection.state with
  | .sofHunt => connection.hunt byte
  | .parseFrame => connection.parse byte

/-- The check for timeouts.  `rx_is_active` is set after a start of frame only,
and cleared with the state of the parser. -/
def checkTimeouts (rxIsActive : Bool) : ConnectionStatus × Connection :=
  let rxElapsed := rxIsActive && isTimestampElapsed connection.line.clock connection.timeOutRx
  let connection := if rxElapsed then { connection with state := .sofHunt } else connection
  if connection.ackNakNeeded && isTimestampElapsed connection.line.clock connection.timeOutAck then
    (.txTimeout, { connection with ackNakNeeded := false })
  else (if rxElapsed then .rxTimeout else .idle, connection)

/-- A read that was to return one byte returned none. -/
def missByte : ConnectionStatus × Connection :=
  let connection := { connection with state := .sofHunt }
  if connection.ackNakNeeded && isTimestampElapsed connection.line.clock connection.timeOutAck then
    (.txTimeout, { connection with ackNakNeeded := false })
  else (.idle, connection)

/-- The loop of `zwapi_connection_refresh`, for a number of iterations.  The flag
is `rx_is_active`. -/
def refreshLoop : Nat -> Bool -> Connection -> ConnectionStatus × Connection
  | 0, _, connection => (.idle, connection)
  | iterations + 1, rxIsActive, connection =>
      if connection.line.isFileAvailable then
        let read := connection.line.getBuffer 1
        let connection := { connection with line := read.2.2 }
        match read.1, read.2.1 with
        | _, true => (.connectionLost, connection)
        | [], false => connection.missByte
        | byte :: _, false =>
            let isActive :=
              match connection.state with
              | .sofHunt => rxIsActive || decide (byte = sof)
              | .parseFrame => false
            let taken := connection.takeByte byte
            if taken.1 = .idle then
              let checked := taken.2.checkTimeouts isActive
              if checked.1 = .idle then refreshLoop iterations isActive checked.2 else checked
            else taken
      else (.idle, connection)

/-- `zwapi_connection_refresh`.  Every iteration takes a byte from the line. -/
def refresh : ConnectionStatus × Connection :=
  refreshLoop (connection.line.incoming.length + 1) false connection

/-- `zwapi_connection_get_last_rx_frame`, into a buffer of a size. -/
def getLastRxFrame (size : Nat) : List UInt8 :=
  connection.rxBuffer.take (min connection.rxBufferLength.toNat size)

end Connection

end SerialApi
