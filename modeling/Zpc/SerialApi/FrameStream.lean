import Zpc.SerialApi.Connection
import Mathlib.Tactic

/-!
# Streams of frames

A caller of `zwapi_connection_refresh` sees the line only through the calls it
makes, and a call stops wherever the line is silent.  The parser itself does not
depend on where the calls stop: what a caller hears is what the parser makes of
the signals one after the other.
-/

namespace SerialApi

namespace Connection

/-- The connection when these signals are still to come. -/
def expecting (connection : Connection) (signals : List Signal) : Connection :=
  { connection with line := { connection.line with incoming := signals } }

variable (connection : Connection) (signals : List Signal)

@[simp] theorem expecting_state : (connection.expecting signals).state = connection.state := rfl

@[simp] theorem expecting_incoming : (connection.expecting signals).line.incoming = signals := rfl

@[simp] theorem expecting_outgoing :
    (connection.expecting signals).line.outgoing = connection.line.outgoing := rfl

@[simp] theorem expecting_clock :
    (connection.expecting signals).line.clock = connection.line.clock := rfl

theorem expecting_self : connection.expecting connection.line.incoming = connection := rfl

/-- The polls of a caller that reads every frame it is told about.  Time passes
between two polls when the line is silent. -/
def listenLoop : Nat -> Connection -> List (List UInt8) × Connection
  | 0, connection => ([], connection)
  | polls + 1, connection =>
      let polled := connection.refresh
      let heard := listenLoop polls { polled.2 with line := polled.2.line.elapse }
      if polled.1 = .frameReceived then
        (polled.2.getLastRxFrame frameLengthMax :: heard.1, heard.2)
      else heard

/-- The frames a caller reads until the line has nothing more. -/
def listen (connection : Connection) : List (List UInt8) × Connection :=
  listenLoop connection.line.incoming.length connection

/-- What one byte does, and whether the poll ends with it. -/
def settle (connection : Connection) (byte : UInt8) : ConnectionStatus × Connection :=
  if (connection.takeByte byte).1 = .idle then
    (connection.takeByte byte).2.checkTimeouts false
  else connection.takeByte byte

/-- The frame that is reported with a status. -/
def reported (status : ConnectionStatus) (connection : Connection) : List (List UInt8) :=
  if status = .frameReceived then [connection.getLastRxFrame frameLengthMax] else []

@[simp] theorem reported_idle : reported .idle connection = [] := rfl

end Connection

theorem isTimestampElapsed_timestampGet (clock : Nat) :
    isTimestampElapsed clock (timestampGet clock rxByteTimeout) = false := by
  have ahead : rxByteTimeout / 1000 = 1 := by decide
  simp only [isTimestampElapsed, timestampGet, ahead]
  simp

theorem readBytes_left_length (signals : List Signal) (clock count waited : Nat) :
    (readBytes signals clock count waited).left.length ≤ signals.length := by
  fun_induction readBytes signals clock count waited with
  | case1 | case2 => exact le_rfl
  | case3 _ _ _ _ _ _ ih | case4 _ _ _ _ _ _ ih => exact ih.trans (Nat.le_succ _)
  | case5 | case6 => simp

namespace Connection

variable (iterations : Nat) (connection : Connection) {rest : List Signal} {byte : UInt8}
  {isActive : Bool}

@[simp] theorem validate_incoming :
    connection.validate.2.line.incoming = connection.line.incoming := by
  unfold validate
  split_ifs <;> rfl

theorem parse_incoming_length (byte : UInt8) :
    (connection.parse byte).2.line.incoming.length ≤ connection.line.incoming.length := by
  have shorter := readBytes_left_length connection.line.incoming connection.line.clock
    ((byte + 1).toNat - 1) 0
  unfold parse
  extract_lets read received
  split_ifs
  · exact le_rfl
  · exact shorter
  · exact shorter
  · rw [validate_incoming]
    exact shorter

theorem takeByte_incoming_length (byte : UInt8) :
    (connection.takeByte byte).2.line.incoming.length ≤ connection.line.incoming.length := by
  unfold takeByte
  split
  · unfold hunt
    split_ifs <;> exact le_rfl
  · exact connection.parse_incoming_length byte

@[simp] theorem checkTimeouts_line (isActive : Bool) :
    (connection.checkTimeouts isActive).2.line = connection.line := by
  unfold checkTimeouts
  extract_lets rxElapsed reset
  have same : reset.line = connection.line := by
    dsimp only [reset]
    split_ifs <;> rfl
  split_ifs <;> simp [same]

theorem settle_incoming_length (byte : UInt8) :
    (connection.settle byte).2.line.incoming.length ≤ connection.line.incoming.length := by
  unfold settle
  split_ifs
  · rw [checkTimeouts_line]
    exact connection.takeByte_incoming_length byte
  · exact connection.takeByte_incoming_length byte

/-- Nothing comes for a while. -/
def elapse (connection : Connection) : Connection :=
  { connection with line := connection.line.elapse }

/-- What the parser makes of the signals to come. -/
def scan (connection : Connection) : List (List UInt8) × Connection :=
  match _incoming : connection.line.incoming with
  | [] => ([], connection)
  | .lost :: _ => ([], connection)
  | .delay _ :: _ => scan connection.elapse
  | .byte byte :: rest =>
      let settled := (connection.expecting rest).settle byte
      let later := scan settled.2
      (reported settled.1 settled.2 ++ later.1, later.2)
termination_by connection.line.incoming.length
decreasing_by
  · simp [elapse, Line.elapse, _incoming]
  · have shorter := (connection.expecting rest).settle_incoming_length byte
    rw [_incoming]
    exact Nat.lt_succ_of_le shorter

theorem scan_nil {connection : Connection} (incoming : connection.line.incoming = []) :
    connection.scan = ([], connection) := by
  rw [scan]
  split <;> simp_all

theorem scan_lost {connection : Connection} (incoming : connection.line.incoming = .lost :: rest) :
    connection.scan = ([], connection) := by
  rw [scan]
  split <;> simp_all

theorem scan_delay {connection : Connection} {duration : Nat}
    (incoming : connection.line.incoming = .delay duration :: rest) :
    connection.scan = connection.elapse.scan := by
  rw [scan]
  split <;> simp_all

theorem scan_byte {connection : Connection}
    (incoming : connection.line.incoming = .byte byte :: rest) :
    connection.scan =
      (reported ((connection.expecting rest).settle byte).1
          ((connection.expecting rest).settle byte).2 ++
        ((connection.expecting rest).settle byte).2.scan.1,
        ((connection.expecting rest).settle byte).2.scan.2) := by
  rw [scan]
  split <;> simp_all

@[simp] theorem checkTimeouts_false_state :
    (connection.checkTimeouts false).2.state = connection.state := by
  simp only [checkTimeouts, Bool.false_and, Bool.false_eq_true, if_false]
  split_ifs <;> rfl

theorem checkTimeouts_hunt_sof :
    (connection.hunt sof).2.checkTimeouts true = (connection.hunt sof).2.checkTimeouts false := by
  simp [hunt, checkTimeouts, isTimestampElapsed_timestampGet]

/-- Whether a reception is active after a byte: between the start of a frame and
its length. -/
def nextActive (connection : Connection) (isActive : Bool) (byte : UInt8) : Bool :=
  match connection.state with
  | .sofHunt => isActive || decide (byte = sof)
  | .parseFrame => false

theorem refreshLoop_eq {connection : Connection}
    (incoming : connection.line.incoming = .byte byte :: rest) (isActive : Bool)
    (iterations : Nat) :
    refreshLoop (iterations + 1) isActive connection =
      let taken := (connection.expecting rest).takeByte byte
      let checked := taken.2.checkTimeouts (connection.nextActive isActive byte)
      if taken.1 = .idle then
        if checked.1 = .idle then
          refreshLoop iterations (connection.nextActive isActive byte) checked.2
        else checked
      else taken := by
  have available : connection.line.isFileAvailable = true := by
    simp [Line.isFileAvailable, incoming]
  have read : connection.line.getBuffer 1 =
      ([byte], false, { connection.line with incoming := rest }) := by
    simp [Line.getBuffer, incoming, readBytes]
  simp only [refreshLoop, available, read, if_true]
  rfl

theorem checkTimeouts_nextActive (rest : List Signal)
    (parses : isActive = true -> connection.state = .parseFrame) (byte : UInt8) :
    ((connection.expecting rest).takeByte byte).2.checkTimeouts
        (connection.nextActive isActive byte) =
      ((connection.expecting rest).takeByte byte).2.checkTimeouts false := by
  unfold nextActive
  cases state : connection.state with
  | parseFrame => rfl
  | sofHunt =>
    have inactive : isActive = false := by
      cases isActive with
      | false => rfl
      | true => exact absurd (parses rfl) (by simp [state])
    by_cases starts : byte = sof
    · have taken : (connection.expecting rest).takeByte sof =
          (connection.expecting rest).hunt sof := by
        simp [takeByte, state]
      simp [inactive, starts, taken, checkTimeouts_hunt_sof]
    · simp [inactive, starts]

theorem settle_state_of_nextActive (rest : List Signal)
    (parses : isActive = true -> connection.state = .parseFrame)
    (active : connection.nextActive isActive byte = true) :
    ((connection.expecting rest).settle byte).2.state = .parseFrame := by
  unfold nextActive at active
  cases state : connection.state with
  | parseFrame => simp [state] at active
  | sofHunt =>
    have starts : byte = sof := by
      cases isActive with
      | false => simpa [state] using active
      | true => exact absurd (parses rfl) (by simp [state])
    simp [settle, takeByte, state, starts, hunt]

theorem refreshLoop_byte {connection : Connection}
    (incoming : connection.line.incoming = .byte byte :: rest)
    (parses : isActive = true -> connection.state = .parseFrame) (iterations : Nat) :
    refreshLoop (iterations + 1) isActive connection =
      if ((connection.expecting rest).settle byte).1 = .idle then
        refreshLoop iterations (connection.nextActive isActive byte)
          ((connection.expecting rest).settle byte).2
      else (connection.expecting rest).settle byte := by
  rw [refreshLoop_eq incoming]
  dsimp only
  rw [checkTimeouts_nextActive connection rest parses byte]
  unfold settle
  split_ifs <;> rfl

theorem refreshLoop_scan (parses : isActive = true -> connection.state = .parseFrame)
    (enough : connection.line.incoming.length < iterations) :
    connection.scan =
      (reported (refreshLoop iterations isActive connection).1
          (refreshLoop iterations isActive connection).2 ++
        (refreshLoop iterations isActive connection).2.scan.1,
        (refreshLoop iterations isActive connection).2.scan.2) := by
  induction iterations generalizing isActive connection with
  | zero => exact absurd enough (Nat.not_lt_zero _)
  | succ iterations ih =>
    match incoming : connection.line.incoming with
    | [] => simp [refreshLoop, Line.isFileAvailable, incoming]
    | .delay _ :: _ => simp [refreshLoop, Line.isFileAvailable, incoming]
    | .lost :: rest =>
      have same : connection.expecting (.lost :: rest) = connection := by
        rw [← incoming, expecting_self]
      have loop : refreshLoop (iterations + 1) isActive connection =
          (.connectionLost, connection.expecting (.lost :: rest)) := by
        simp [refreshLoop, Line.isFileAvailable, incoming, Line.getBuffer, readBytes, expecting]
      rw [loop, same]
      simp [reported]
    | .byte byte :: rest =>
      have shorter := (connection.expecting rest).settle_incoming_length byte
      rw [expecting_incoming] at shorter
      rw [incoming, List.length_cons] at enough
      rw [refreshLoop_byte incoming parses, scan_byte incoming]
      split_ifs with idle
      · rw [ih ((connection.expecting rest).settle byte).2
          (settle_state_of_nextActive connection rest parses) (by omega), idle]
        simp
      · rfl

theorem refreshLoop_incoming_length (parses : isActive = true -> connection.state = .parseFrame) :
    (refreshLoop iterations isActive connection).2.line.incoming.length ≤
      connection.line.incoming.length := by
  induction iterations generalizing isActive connection with
  | zero => exact le_rfl
  | succ iterations ih =>
    match incoming : connection.line.incoming with
    | [] => simp [refreshLoop, Line.isFileAvailable, incoming]
    | .delay _ :: _ => simp [refreshLoop, Line.isFileAvailable, incoming]
    | .lost :: rest => simp [refreshLoop, Line.isFileAvailable, incoming, Line.getBuffer, readBytes]
    | .byte byte :: rest =>
      have shorter := (connection.expecting rest).settle_incoming_length byte
      rw [expecting_incoming] at shorter
      rw [refreshLoop_byte incoming parses, List.length_cons]
      split_ifs
      · have later := ih ((connection.expecting rest).settle byte).2
          (settle_state_of_nextActive connection rest parses)
        omega
      · omega

theorem refresh_incoming_length {connection : Connection}
    (incoming : connection.line.incoming = .byte byte :: rest) :
    connection.refresh.2.line.incoming.length ≤ rest.length := by
  have shorter := (connection.expecting rest).settle_incoming_length byte
  have parses : false = true -> connection.state = .parseFrame := by simp
  unfold refresh
  rw [refreshLoop_byte incoming parses]
  split_ifs
  · exact (refreshLoop_incoming_length _ _
      (settle_state_of_nextActive connection rest parses)).trans shorter
  · exact shorter

theorem refresh_scan :
    connection.scan =
      (reported connection.refresh.1 connection.refresh.2 ++ connection.refresh.2.scan.1,
        connection.refresh.2.scan.2) :=
  refreshLoop_scan _ connection (by simp) (Nat.lt_succ_self _)

theorem elapse_incoming_length :
    connection.elapse.line.incoming.length ≤ connection.line.incoming.length := by
  unfold elapse Line.elapse
  split <;> simp_all

theorem scan_elapse_incoming (connection : Connection) :
    connection.elapse.scan = connection.scan := by
  match incoming : connection.line.incoming with
  | [] => simp [elapse, Line.elapse, incoming]
  | .lost :: _ => simp [elapse, Line.elapse, incoming]
  | .byte _ :: _ => simp [elapse, Line.elapse, incoming]
  | .delay _ :: _ => exact (scan_delay incoming).symm

theorem listenLoop_of_ended {connection : Connection} (polls : Nat)
    (ended : connection.line.incoming = [] ∨ ∃ rest, connection.line.incoming = .lost :: rest) :
    listenLoop polls connection = ([], connection) := by
  have polled : connection.refresh.1 ≠ .frameReceived ∧ connection.refresh.2 = connection := by
    obtain incoming | ⟨rest, incoming⟩ := ended
    · simp [refresh, refreshLoop, Line.isFileAvailable, incoming]
    · have same : connection.expecting (.lost :: rest) = connection := by
        rw [← incoming, expecting_self]
      have lost : connection.refresh = (.connectionLost, connection.expecting (.lost :: rest)) := by
        simp [refresh, refreshLoop, Line.isFileAvailable, incoming, Line.getBuffer, readBytes,
          expecting]
      rw [lost, same]
      simp
  have stays : { connection with line := connection.line.elapse } = connection := by
    obtain incoming | ⟨rest, incoming⟩ := ended <;> simp [Line.elapse, incoming]
  induction polls with
  | zero => rfl
  | succ polls ih =>
    simp only [listenLoop, polled.1, polled.2, if_false, stays]
    exact ih

theorem listenLoop_eq_scan (polls : Nat) (connection : Connection)
    (enough : connection.line.incoming.length ≤ polls) :
    listenLoop polls connection = connection.scan := by
  induction polls generalizing connection with
  | zero =>
    have incoming := List.eq_nil_of_length_eq_zero (Nat.le_zero.mp enough)
    rw [scan_nil incoming]
    rfl
  | succ polls ih =>
    have later : connection.refresh.2.elapse.line.incoming.length ≤ polls ->
        listenLoop (polls + 1) connection = connection.scan := by
      intro shorter
      have heard := ih connection.refresh.2.elapse shorter
      rw [scan_elapse_incoming] at heard
      rw [refresh_scan]
      change (if connection.refresh.1 = .frameReceived then
        (connection.refresh.2.getLastRxFrame frameLengthMax ::
            (listenLoop polls connection.refresh.2.elapse).1,
          (listenLoop polls connection.refresh.2.elapse).2)
        else listenLoop polls connection.refresh.2.elapse) = _
      rw [heard]
      unfold reported
      split_ifs <;> rfl
    match incoming : connection.line.incoming with
    | [] => rw [scan_nil incoming, listenLoop_of_ended _ (.inl incoming)]
    | .lost :: rest => rw [scan_lost incoming, listenLoop_of_ended _ (.inr ⟨rest, incoming⟩)]
    | .delay _ :: rest =>
      apply later
      simpa [refresh, refreshLoop, Line.isFileAvailable, incoming, elapse, Line.elapse]
        using enough
    | .byte _ :: rest =>
      apply later
      rw [incoming] at enough
      exact (connection.refresh.2.elapse_incoming_length.trans
        (refresh_incoming_length incoming)).trans (Nat.le_of_succ_le_succ enough)

theorem listen_eq_scan : connection.listen = connection.scan :=
  listenLoop_eq_scan _ connection le_rfl

end Connection

end SerialApi
