import Mathlib.Algebra.Group.Nat.Defs
import Mathlib.Data.List.Pairwise
import Zpc.Foundation.FirstMatch
import Zpc.S0.Bootstrapping

/-!
# The table of S0 nonces

The nonce management of `zwave_s0_transport.c`.  One table of fixed size holds the nonces
that were issued, received and sent along with frames of one's own.  An entry is valid as
long as its timeout is above zero, and the nonce timer takes one off every second.  Node
ids are cut to eight bits on the way in.

Every registration gets a number, and the table keeps a record of the nonces that were
taken for a frame; no function of the source reads these.
-/

namespace S0

open Foundation

def nonceTableSize : Nat := 5 * 3

def nonceTimeout : Nat := 10

/-- The eight bytes of a nonce. -/
abbrev Nonce := Vector UInt8 8

/-- The first byte of a nonce, by which a frame names it. -/
abbrev Nonce.identifier (nonce : Nonce) : UInt8 := nonce[0]

/-- A node id as a `uint8_t`. -/
def cutNodeId (nodeId : NodeId) : NodeId := nodeId % 2 ^ 8

/-- `nonce_t`, with the number of its registration and the ticks of the nonce timer up to
it. -/
structure NonceEntry where
  src : NodeId
  dst : NodeId
  timeout : Nat
  replyNonce : Bool
  nonce : Nonce
  number : Nat
  registeredAt : Nat
  deriving DecidableEq

namespace NonceEntry

/-- An entry that has not timed out. -/
def isValid (entry : NonceEntry) : Bool := decide (0 < entry.timeout)

/-- An entry between two nodes. -/
def isOf (entry : NonceEntry) (src dst : NodeId) : Bool := entry.src == src && entry.dst == dst

/-- An entry of the table before anything is registered. -/
def unused : NonceEntry := ⟨0, 0, 0, false, .replicate 8 0, 0, 0⟩

end NonceEntry

/-- A nonce that was taken for a frame: which one, between which nodes, how many ticks there
were when it was registered and taken, and how many registrations when it was taken. -/
structure NonceUse where
  number : Nat
  src : NodeId
  dst : NodeId
  registeredAt : Nat
  usedAt : Nat
  registrations : Nat

/-- The table, its timer and the record. -/
structure NonceTable where
  entries : List NonceEntry
  timerArmed : Bool
  ticks : Nat
  registered : Nat
  uses : List NonceUse

namespace NonceTable

/-- The table before anything is registered. -/
def initial : NonceTable where
  entries := .replicate nonceTableSize .unused
  timerArmed := false
  ticks := 0
  registered := 0
  uses := []

/-- Entries with a new registration.  `restart_s0_timer` leaves the timer armed. -/
def withRegistration (table : NonceTable) (entries : List NonceEntry) : NonceTable :=
  { table with
    entries := entries
    timerArmed := true
    registered := table.registered + 1 }

/-- A nonce overwrites the entry of an older one. -/
def renew (table : NonceTable) (nonce : Nonce) (entry : NonceEntry) : NonceEntry :=
  { entry with
    nonce := nonce
    timeout := nonceTimeout
    number := table.registered
    registeredAt := table.ticks }

/-- A reply nonce replaces the one of its pair of nodes. -/
def registerNonce (table : NonceTable) (src dst : NodeId) (replyNonce : Bool)
    (nonce : Nonce) : NonceTable :=
  let src := cutNodeId src
  let dst := cutNodeId dst
  let overwritten :=
    if replyNonce then
      overwriteFirst (fun entry => entry.replyNonce && entry.isValid && entry.isOf src dst)
        (table.renew nonce) table.entries
    else none
  match overwritten with
  | some entries => table.withRegistration entries
  | none =>
      match overwriteFirst (fun entry => !entry.isValid)
          (fun entry => { table.renew nonce entry with
            src := src
            dst := dst
            replyNonce := replyNonce })
          table.entries with
      | some entries => table.withRegistration entries
      | none => table

/-- `get_s0_nonce`, for the nonce that starts with a byte or for any nonce. -/
def getS0Nonce (table : NonceTable) (src dst : NodeId) (first : Option UInt8) : Option NonceEntry :=
  table.entries.find? fun entry =>
    entry.isValid && entry.isOf (cutNodeId src) (cutNodeId dst) &&
      first.all fun byte => entry.nonce.identifier == byte

/-- The nonces of a pair of nodes become invalid. -/
def nonceClear (table : NonceTable) (src dst : NodeId) : NonceTable :=
  { table with
    entries := table.entries.map fun entry =>
      if entry.isOf (cutNodeId src) (cutNodeId dst) then { entry with timeout := 0 } else entry }

/-- A nonce is taken for a frame, and the nonces of its nodes are cleared. -/
def useNonce (table : NonceTable) (src dst : NodeId) (entry : NonceEntry) : NonceTable :=
  { table.nonceClear src dst with
    uses :=
      ⟨entry.number, entry.src, entry.dst, entry.registeredAt, table.ticks, table.registered⟩ ::
        table.uses }

/-- `nonce_timer_timeout`, when the timer fires. -/
def nonceTimerTimeout (table : NonceTable) : NonceTable :=
  let entries := table.entries.map fun entry => { entry with timeout := entry.timeout - 1 }
  { table with
    entries := entries
    timerArmed := entries.any fun entry => entry.isValid
    ticks := table.ticks + 1 }

def resetS0Timers (table : NonceTable) : NonceTable := { table with timerArmed := true }

/-- Two entries are not both valid. -/
def Apart (relation : NonceEntry -> NonceEntry -> Prop) (first second : NonceEntry) : Prop :=
  first.isValid = true -> second.isValid = true -> relation first second

/-- Numbers and nodes that tell two valid entries apart. -/
def Differ (first second : NonceEntry) : Prop :=
  first.number ≠ second.number ∧
    (first.replyNonce = true -> second.replyNonce = true ->
      ¬ (first.src = second.src ∧ first.dst = second.dst))

/-- The table agrees with its record. -/
structure Sound (table : NonceTable) : Prop where
  size : table.entries.length = nonceTableSize
  aged : ∀ entry ∈ table.entries, entry.isValid = true ->
    entry.registeredAt ≤ table.ticks ∧
      table.ticks + entry.timeout ≤ entry.registeredAt + nonceTimeout
  numbered : ∀ entry ∈ table.entries, entry.isValid = true -> entry.number < table.registered
  apart : table.entries.Pairwise (Apart Differ)
  unspent : ∀ entry ∈ table.entries, entry.isValid = true -> ∀ use ∈ table.uses,
    use.number ≠ entry.number ∧
      (use.src = entry.src -> use.dst = entry.dst -> use.registrations ≤ entry.number)
  armed : ∀ entry ∈ table.entries, entry.isValid = true -> table.timerArmed = true
  usedNumbers : ∀ use ∈ table.uses, use.number < table.registered ∧
    use.registrations ≤ table.registered
  usedOnce : table.uses.Pairwise fun later earlier => later.number ≠ earlier.number ∧
    (later.src = earlier.src -> later.dst = earlier.dst -> earlier.registrations ≤ later.number)
  usedInTime : ∀ use ∈ table.uses, use.registeredAt ≤ use.usedAt ∧
    use.usedAt < use.registeredAt + nonceTimeout

variable {entry : NonceEntry} {src dst : NodeId} {table : NonceTable} {first : Option UInt8}

theorem isOf_iff : entry.isOf src dst = true ↔ entry.src = src ∧ entry.dst = dst := by
  simp [NonceEntry.isOf]

theorem isValid_iff : entry.isValid = true ↔ 0 < entry.timeout := by
  simp [NonceEntry.isValid]

theorem Sound.initial : NonceTable.initial.Sound := by
  have nothing : ∀ entry ∈ NonceTable.initial.entries, entry.isValid = false := by
    intro entry mem
    rw [List.eq_of_mem_replicate mem]
    rfl
  have never : ∀ entry ∈ NonceTable.initial.entries, ¬ entry.isValid = true := by
    intro entry mem isValid
    rw [nothing entry mem] at isValid
    cases isValid
  refine ⟨List.length_replicate, ?_, ?_, ?_, ?_, ?_, nofun, .nil, nofun⟩
  · exact fun entry mem isValid => absurd isValid (never entry mem)
  · exact fun entry mem isValid => absurd isValid (never entry mem)
  · apply List.pairwise_of_forall_mem_list
    exact fun first isFirst _ _ isValid => absurd isValid (never first isFirst)
  all_goals exact fun entry mem isValid => absurd isValid (never entry mem)

theorem pairwise_replace {α : Type*} {relation : α -> α -> Prop} {first rest : List α} {old new : α}
    (pairwise : (first ++ old :: rest).Pairwise relation)
    (before : ∀ other ∈ first, relation other new) (after : ∀ other ∈ rest, relation new other) :
    (first ++ new :: rest).Pairwise relation := by
  rw [List.pairwise_append] at pairwise ⊢
  obtain ⟨firstPairwise, restPairwise, between⟩ := pairwise
  refine ⟨firstPairwise, ?_, ?_⟩
  · exact List.pairwise_cons.mpr ⟨after, (List.pairwise_cons.mp restPairwise).2⟩
  · intro other isOther later isLater
    rcases List.mem_cons.mp isLater with isNew | isRest
    · rw [isNew]
      exact before other isOther
    · exact between other isOther later (List.mem_cons_of_mem old isRest)

section

variable (sound : table.Sound)
include sound

/-- An entry is replaced by a new registration that differs from the valid entries that
stay. -/
theorem Sound.replace {first rest : List NonceEntry} {old new : NonceEntry}
    (split : table.entries = first ++ old :: rest)
    (isNew : new.number = table.registered ∧ new.registeredAt = table.ticks ∧
      new.timeout = nonceTimeout)
    (oneReply : new.replyNonce = true -> ∀ other ∈ first ++ rest, other.isValid = true ->
      other.replyNonce = true -> ¬ (other.src = new.src ∧ other.dst = new.dst)) :
    (table.withRegistration (first ++ new :: rest)).Sound := by
  obtain ⟨newNumber, newTime, newTimeout⟩ := isNew
  have members : ∀ {entry}, entry ∈ first ++ new :: rest ->
    entry = new ∨ entry ∈ table.entries := by
    intro entry mem
    rw [split]
    rcases List.mem_append.mp mem with isFirst | isLater
    · exact .inr (List.mem_append_left _ isFirst)
    · rcases List.mem_cons.mp isLater with isNewEntry | isRest
      · exact .inl isNewEntry
      · exact .inr (List.mem_append_right first (List.mem_cons_of_mem old isRest))
  have kept : ∀ {entry}, entry ∈ first ++ rest -> entry ∈ table.entries := by
    intro entry mem
    rw [split]
    rcases List.mem_append.mp mem with isFirst | isRest
    · exact List.mem_append_left _ isFirst
    · exact List.mem_append_right first (List.mem_cons_of_mem old isRest)
  have older : ∀ other ∈ first ++ rest, other.isValid = true -> other.number ≠ new.number := by
    intro other mem isValid same
    rw [newNumber] at same
    exact absurd same (Nat.ne_of_lt (sound.numbered other (kept mem) isValid))
  constructor
  · have size := sound.size
    rw [split] at size
    unfold withRegistration
    simpa using size
  · intro entry mem isValid
    rcases members mem with isNewEntry | isEarlier
    · subst isNewEntry
      change entry.registeredAt ≤ table.ticks ∧
        table.ticks + entry.timeout ≤ entry.registeredAt + nonceTimeout
      omega
    · exact sound.aged entry isEarlier isValid
  · intro entry mem isValid
    rcases members mem with isNewEntry | isEarlier
    · rw [isNewEntry, newNumber]
      exact Nat.lt_succ_self _
    · exact Nat.lt_succ_of_lt (sound.numbered entry isEarlier isValid)
  · have pairwise := sound.apart
    rw [split] at pairwise
    apply pairwise_replace pairwise
    · intro other isOther otherValid newValid
      have mem := List.mem_append_left rest isOther
      exact ⟨older other mem otherValid, fun otherReply newReply =>
        oneReply newReply other mem otherValid otherReply⟩
    · intro other isOther newValid otherValid
      have mem := List.mem_append_right first isOther
      refine ⟨(older other mem otherValid).symm, fun newReply otherReply same => ?_⟩
      exact oneReply newReply other mem otherValid otherReply ⟨same.1.symm, same.2.symm⟩
  · intro entry mem isValid use isUse
    rcases members mem with isNewEntry | isEarlier
    · rw [isNewEntry, newNumber]
      have bounds := sound.usedNumbers use isUse
      exact ⟨Nat.ne_of_lt bounds.1, fun _ _ => bounds.2⟩
    · exact sound.unspent entry isEarlier isValid use isUse
  · exact fun _ _ _ => rfl
  · intro use isUse
    have bounds := sound.usedNumbers use isUse
    exact ⟨Nat.lt_succ_of_lt bounds.1, Nat.le_succ_of_le bounds.2⟩
  · exact sound.usedOnce
  · exact sound.usedInTime

theorem Sound.registerNonce (src dst : NodeId) (replyNonce : Bool) (nonce : Nonce) :
    (table.registerNonce src dst replyNonce nonce).Sound := by
  unfold NonceTable.registerNonce
  dsimp only
  split
  next entries overwritten =>
    split at overwritten
    next =>
      obtain ⟨first, old, rest, isBefore, isFit, noneEarlier, isAfter⟩ :=
        overwriteFirst_eq_some overwritten
      rw [isAfter]
      apply sound.replace isBefore ⟨rfl, rfl, rfl⟩
      -- the old entry was the only valid reply nonce of its nodes
      intro _ other mem otherValid otherReply same
      have pairwise := sound.apart
      rw [isBefore, List.pairwise_append] at pairwise
      simp only [Bool.and_eq_true] at isFit
      obtain ⟨⟨oldReply, oldValid⟩, -⟩ := isFit
      rcases List.mem_append.mp mem with isFirst | isRest
      · have differ := pairwise.2.2 other isFirst old List.mem_cons_self otherValid oldValid
        exact differ.2 otherReply oldReply same
      · have differ := (List.pairwise_cons.mp pairwise.2.1).1 other isRest oldValid otherValid
        exact differ.2 oldReply otherReply ⟨same.1.symm, same.2.symm⟩
    next => cases overwritten
  next notOverwritten =>
    split
    next entries inserted =>
      obtain ⟨first, old, rest, isBefore, isFit, noneEarlier, isAfter⟩ :=
        overwriteFirst_eq_some inserted
      rw [isAfter]
      apply sound.replace isBefore ⟨rfl, rfl, rfl⟩
      -- a reply nonce is inserted only when its nodes have no valid one
      intro isReply other mem otherValid otherReply same
      rw [if_pos isReply, overwriteFirst_eq_none_iff] at notOverwritten
      have isMember : other ∈ table.entries := by
        rw [isBefore]
        rcases List.mem_append.mp mem with isFirst | isRest
        · exact List.mem_append_left _ isFirst
        · exact List.mem_append_right first (List.mem_cons_of_mem old isRest)
      have notFit := notOverwritten other isMember
      simp only [otherReply, otherValid, Bool.true_and] at notFit
      rw [isOf_iff.mpr same] at notFit
      cases notFit
    next => exact sound

theorem Sound.map (change : NonceEntry -> NonceEntry) (ticks : Nat) (armed : Bool)
    (keeps : ∀ entry, (change entry).number = entry.number ∧ (change entry).src = entry.src ∧
      (change entry).dst = entry.dst ∧ (change entry).replyNonce = entry.replyNonce ∧
        (change entry).registeredAt = entry.registeredAt)
    (valid : ∀ entry, (change entry).isValid = true -> entry.isValid = true)
    (later : table.ticks ≤ ticks)
    (aged : ∀ entry, (change entry).isValid = true ->
      ticks + (change entry).timeout ≤ table.ticks + entry.timeout)
    (stillArmed : ∀ entry ∈ table.entries, (change entry).isValid = true -> armed = true) :
    { table with
      entries := table.entries.map change
      timerArmed := armed
      ticks := ticks }.Sound := by
  constructor
  · exact List.length_map change |>.trans sound.size
  · intro entry mem isValid
    obtain ⟨old, isOld, same⟩ := List.mem_map.mp mem
    subst same
    obtain ⟨early, late⟩ := sound.aged old isOld (valid old isValid)
    have newTime := (keeps old).2.2.2.2
    have newAge := aged old isValid
    rw [newTime]
    exact ⟨Nat.le_trans early later, Nat.le_trans newAge late⟩
  · intro entry mem isValid
    obtain ⟨old, isOld, same⟩ := List.mem_map.mp mem
    subst same
    rw [(keeps old).1]
    exact sound.numbered old isOld (valid old isValid)
  · rw [List.pairwise_map]
    apply sound.apart.imp
    intro first second apart firstValid secondValid
    obtain ⟨numbers, replies⟩ := apart (valid first firstValid) (valid second secondValid)
    obtain ⟨firstNumber, firstSrc, firstDst, firstReply, -⟩ := keeps first
    obtain ⟨secondNumber, secondSrc, secondDst, secondReply, -⟩ := keeps second
    unfold Differ
    rw [firstNumber, secondNumber, firstReply, secondReply, firstSrc, secondSrc, firstDst,
      secondDst]
    exact ⟨numbers, replies⟩
  · intro entry mem isValid use isUse
    obtain ⟨old, isOld, same⟩ := List.mem_map.mp mem
    subst same
    rw [(keeps old).1, (keeps old).2.1, (keeps old).2.2.1]
    exact sound.unspent old isOld (valid old isValid) use isUse
  · intro entry mem isValid
    obtain ⟨old, isOld, same⟩ := List.mem_map.mp mem
    subst same
    exact stillArmed old isOld isValid
  · exact sound.usedNumbers
  · exact sound.usedOnce
  · exact sound.usedInTime

theorem Sound.nonceClear (src dst : NodeId) : (table.nonceClear src dst).Sound := by
  have notCleared : ∀ entry : NonceEntry,
      (if entry.isOf (cutNodeId src) (cutNodeId dst) then { entry with timeout := 0 }
        else entry).isValid = true -> entry.isOf (cutNodeId src) (cutNodeId dst) = false := by
    intro entry isValid
    split at isValid
    · cases isValid
    next notOf => exact eq_false_of_ne_true notOf
  apply sound.map (fun entry =>
    if entry.isOf (cutNodeId src) (cutNodeId dst) then { entry with timeout := 0 } else entry)
  · intro entry
    split <;> exact ⟨rfl, rfl, rfl, rfl, rfl⟩
  · intro entry isValid
    have notOf := notCleared entry isValid
    simpa [notOf] using isValid
  · exact Nat.le_refl _
  · intro entry isValid
    have notOf := notCleared entry isValid
    simp [notOf]
  · intro entry mem isValid
    have notOf := notCleared entry isValid
    apply sound.armed entry mem
    simpa [notOf] using isValid

theorem Sound.nonceTimerTimeout : table.nonceTimerTimeout.Sound := by
  apply sound.map (fun entry => { entry with timeout := entry.timeout - 1 })
  · exact fun _ => ⟨rfl, rfl, rfl, rfl, rfl⟩
  · intro entry isValid
    rw [isValid_iff] at isValid ⊢
    dsimp only at isValid
    omega
  · exact Nat.le_succ _
  · intro entry isValid
    rw [isValid_iff] at isValid
    dsimp only at isValid ⊢
    omega
  · intro entry mem isValid
    apply List.any_eq_true.mpr
    exact ⟨_, List.mem_map_of_mem mem, isValid⟩

theorem Sound.resetS0Timers : table.resetS0Timers.Sound := { sound with armed := fun _ _ _ => rfl }

end

instance : Std.Symm (Apart Differ) := by
  constructor
  intro first second apart secondValid firstValid
  obtain ⟨numbers, replies⟩ := apart firstValid secondValid
  refine ⟨numbers.symm, fun secondReply firstReply same => ?_⟩
  exact replies firstReply secondReply ⟨same.1.symm, same.2.symm⟩

theorem getS0Nonce_spec (found : table.getS0Nonce src dst first = some entry) :
    entry ∈ table.entries ∧ entry.isValid = true ∧
      entry.isOf (cutNodeId src) (cutNodeId dst) = true := by
  have isFit := List.find?_some found
  simp only [Bool.and_eq_true] at isFit
  exact ⟨List.mem_of_find?_eq_some found, isFit.1.1, isFit.1.2⟩

theorem mem_nonceClear (mem : entry ∈ (table.nonceClear src dst).entries)
    (isValid : entry.isValid = true) :
    entry ∈ table.entries ∧ entry.isOf (cutNodeId src) (cutNodeId dst) = false := by
  obtain ⟨old, isOld, same⟩ := List.mem_map.mp mem
  subst same
  split
  next isOf =>
    rw [if_pos isOf] at isValid
    cases isValid
  next notOf => exact ⟨isOld, eq_false_of_ne_true notOf⟩

theorem Sound.useNonce (sound : table.Sound) (found : table.getS0Nonce src dst first = some entry) :
    (table.useNonce src dst entry).Sound := by
  obtain ⟨mem, isValid, isOf⟩ := getS0Nonce_spec found
  have cleared := sound.nonceClear src dst
  obtain ⟨early, late⟩ := sound.aged entry mem isValid
  have positive := isValid_iff.mp isValid
  have number := sound.numbered entry mem isValid
  refine { cleared with
    unspent := ?_
    usedNumbers := ?_
    usedOnce := ?_
    usedInTime := ?_ }
  · intro other isOther otherValid use isUse
    obtain ⟨isEntry, notOf⟩ := mem_nonceClear isOther otherValid
    rcases List.mem_cons.mp isUse with isNew | isEarlier
    · subst isNew
      have differs : entry ≠ other := by
        intro same
        rw [← same, isOf] at notOf
        cases notOf
      have differ := sound.apart.forall mem isEntry differs isValid otherValid
      refine ⟨differ.1, fun sameSrc sameDst => ?_⟩
      have same := isOf_iff.mp isOf
      have isOfOther : other.isOf (cutNodeId src) (cutNodeId dst) = true :=
        isOf_iff.mpr ⟨sameSrc.symm.trans same.1, sameDst.symm.trans same.2⟩
      rw [isOfOther] at notOf
      cases notOf
    · exact sound.unspent other isEntry otherValid use isEarlier
  · intro use isUse
    rcases List.mem_cons.mp isUse with isNew | isEarlier
    · subst isNew
      exact ⟨number, Nat.le_refl _⟩
    · exact sound.usedNumbers use isEarlier
  · refine List.pairwise_cons.mpr ⟨fun earlier isEarlier => ?_, sound.usedOnce⟩
    obtain ⟨numbers, spent⟩ := sound.unspent entry mem isValid earlier isEarlier
    exact ⟨numbers.symm, fun sameSrc sameDst => spent sameSrc.symm sameDst.symm⟩
  · intro use isUse
    rcases List.mem_cons.mp isUse with isNew | isEarlier
    · subst isNew
      dsimp only
      omega
    · exact sound.usedInTime use isEarlier

end NonceTable

end S0
