import Mathlib.Logic.Function.Iterate
import Mathlib.Order.Basic
import Zpc.Supervision.SessionKeys

/-!
# Supervised frames that are not sent

When a supervised frame is not accepted for transmission, the session that was made for it is
closed.  A frame to a group has a session for each of its nodes, and one of them is closed.
The sessions in the table and the callbacks that are made are traced back to the sessions of
an earlier state by the numbers of the record.
-/

namespace Supervision

open Foundation

namespace Process

/-- The sessions of the later state are sessions of the earlier one under the same id or have
been created since, and so are those that have been called back since. -/
structure Follows (before after : Process) : Prop where
  created : before.created ≤ after.created
  nextId : ∃ count, after.nextSupervisionId = followingId^[count] before.nextSupervisionId
  entries : ∀ entry ∈ after.sessions,
    (before.created ≤ entry.2.number ∧ entry.2.number < after.created) ∨
      ∃ session, (entry.1, session) ∈ before.sessions ∧ session.number = entry.2.number
  callbacks : ∃ newer, after.callbacks = newer ++ before.callbacks ∧
    ∀ call ∈ newer, before.created ≤ call.number ∨
      ∃ entry ∈ before.sessions, entry.2.number = call.number

variable (proc : Process) (reason : Reason) {before after : Process}
  {session : SupervisedSession} {supervisionId : SupervisionId}
  {entry : SupervisionId × SupervisedSession}

theorem Evolves.follows (evolves : before.Evolves after) : before.Follows after where
  created := evolves.created.ge
  nextId := ⟨0, evolves.nextId⟩
  entries entry mem := by
    obtain ⟨session, isEarlier, -, sameNumber⟩ := evolves.entries entry mem
    exact .inr ⟨session, isEarlier, sameNumber⟩
  callbacks := by
    obtain ⟨newer, grown, fromBefore⟩ := evolves.callbacks
    exact ⟨newer, grown, fun call isCall => .inr (fromBefore call isCall)⟩

theorem Follows.refl : proc.Follows proc := (Evolves.refl proc).follows

theorem Follows.trans {first second third : Process} (earlier : first.Follows second)
    (later : second.Follows third) : first.Follows third := by
  refine ⟨earlier.created.trans later.created, ?_, fun entry mem => ?_, ?_⟩
  · obtain ⟨count, isSecond⟩ := earlier.nextId
    obtain ⟨more, isThird⟩ := later.nextId
    exact ⟨more + count, by rw [isThird, isSecond, Function.iterate_add_apply]⟩
  · rcases later.entries entry mem with ⟨isLater, below⟩ | ⟨session, isMiddle, same⟩
    · exact .inl ⟨earlier.created.trans isLater, below⟩
    · rcases earlier.entries _ isMiddle with ⟨isLater, below⟩ | ⟨start, isStart, sameStart⟩
      · dsimp only at isLater below
        rw [same] at isLater below
        exact .inl ⟨isLater, below.trans_le later.created⟩
      · exact .inr ⟨start, isStart, sameStart.trans same⟩
  · obtain ⟨newer, isSecond, fromFirst⟩ := earlier.callbacks
    obtain ⟨newest, isThird, fromSecond⟩ := later.callbacks
    refine ⟨newest ++ newer, by rw [isThird, isSecond, List.append_assoc], fun call isCall => ?_⟩
    rcases List.mem_append.mp isCall with isNewest | isNewer
    · rcases fromSecond call isNewest with isLater | ⟨entry, mem, same⟩
      · exact .inl (earlier.created.trans isLater)
      · rcases earlier.entries entry mem with ⟨isLater, -⟩ | ⟨session, isStart, sameStart⟩
        · exact .inl (same ▸ isLater)
        · exact .inr ⟨_, isStart, sameStart.trans same⟩
    · exact fromFirst call isNewer

theorem Follows.insertSession (isNumbered : session.number = proc.created) :
    proc.Follows (proc.insertSession session) := by
  refine ⟨Nat.le_succ _, ⟨1, rfl⟩, fun entry mem => ?_, ⟨[], rfl, fun _ none => nomatch none⟩⟩
  rcases mem_insertNew.mp mem with isOld | ⟨-, rfl⟩
  · exact .inr ⟨entry.2, isOld, rfl⟩
  · exact .inl ⟨isNumbered.ge, isNumbered.trans_lt (Nat.lt_succ_self _)⟩

theorem Follows.createSession (proc : Process) (groups : GroupId -> NodeId -> Bool)
    (request : SendRequest) : proc.Follows (proc.createSession groups request).2 := by
  unfold Process.createSession
  cases request.remote with
  | multicast groupId =>
    have inserted : ∀ reached nodeId, Follows reached (insertFor request groupId reached nodeId) :=
      fun reached nodeId => .insertSession reached rfl
    rw [createGroupSession_eq]
    have looped := run_invariant proc.Follows
      (fun reached nodeId follows => follows.trans (inserted reached nodeId)) (.refl proc)
      (nodesOf (groups groupId))
    exact looped.trans (Evolves.follows { Evolves.refl _ with })
  | node nodeId =>
    dsimp only
    split
    next => exact (Evolves.updateSinglecastFollowUpSession proc request nodeId).follows
    next => exact (Follows.insertSession proc rfl).trans (Evolves.follows { Evolves.refl _ with })

theorem Follows.sendData (proc : Process) (groups : GroupId -> NodeId -> Bool)
    (request : SendRequest) :
    proc.Follows (proc.sendData groups request) := by
  have created := Follows.createSession proc groups request
  unfold Process.sendData
  dsimp only
  split
  next => exact .refl proc
  next =>
    split
    next => exact created
    next => exact created.trans (Evolves.follows { Evolves.refl _ with })

/-- After every step ids, sessions and callbacks follow from those before. -/
theorem Follows.step (proc : Process) (action : Action) : proc.Follows (proc.step action) := by
  cases action with
  | sendData groups request => exact .sendData proc groups request
  | _ => exact (Evolves.step proc _ fun _ _ => by nofun).follows

/-- After every run they do. -/
theorem Follows.run (proc : Process) (actions : List Action) :
    proc.Follows (Foundation.run Process.step proc actions) :=
  run_invariant proc.Follows (fun reached action follows => follows.trans (.step reached action))
    (.refl proc) actions

/-- A session was created and has left the table. -/
def HasLeft (proc : Process) (number : Nat) : Prop :=
  number < proc.created ∧ ∀ entry ∈ proc.sessions, entry.2.number ≠ number

/-- A session that has left is away and is not called back in between. -/
structure StaysAway (before after : Process) (number : Nat) : Prop where
  hasLeft : after.HasLeft number
  silent : after.callbacks.filter (·.number = number) =
    before.callbacks.filter (·.number = number)

/-- Whatever happens later, a session that has left the table does not come back and is not
called back any more, also where its id is used again. -/
theorem left_sessions_stay_away (nextSessionId : Nat) (earlier later : List Action)
    (number : Nat) (hasLeft : (run step (initial nextSessionId) earlier).HasLeft number) :
    (run step (initial nextSessionId) earlier).StaysAway
      (run step (initial nextSessionId) (earlier ++ later)) number := by
  rw [run_append]
  have follows := Follows.run (run step (initial nextSessionId) earlier) later
  obtain ⟨newer, grown, isNew⟩ := follows.callbacks
  refine ⟨⟨hasLeft.1.trans_le follows.created, fun entry mem same => ?_⟩, ?_⟩
  · rcases follows.entries entry mem with ⟨isLater, -⟩ | ⟨session, wasThere, sameNumber⟩
    · exact Nat.not_lt_of_le (same ▸ isLater) hasLeft.1
    · exact hasLeft.2 _ wasThere (sameNumber.trans same)
  · rw [grown, List.filter_append, List.filter_eq_nil_iff.mpr, List.nil_append]
    intro call mem
    rw [decide_eq_true_eq]
    rintro rfl
    rcases isNew call mem with isLater | ⟨entry, wasThere, same⟩
    · exact Nat.not_lt_of_le isLater hasLeft.1
    · exact hasLeft.2 entry wasThere same

theorem left_sessions_stay_away_retriedSend :
    (run step (initial 0) retriedSend).StaysAway
      (run step (initial 0) (retriedSend ++ retriedSend)) 0 :=
  left_sessions_stay_away 0 _ _ 0 ⟨by decide +kernel, by decide +kernel⟩

/-- A supervision id that is not `INVALID_SUPERVISION_ID`. -/
def IsValidId (supervisionId : Nat) : Prop := 0 < supervisionId ∧ supervisionId < 2 ^ 32

theorem followingId_eq (supervisionId : Nat) :
    @Eq Nat (followingId supervisionId)
      (if (supervisionId + 1) % 2 ^ 32 = 0 then 1 else (supervisionId + 1) % 2 ^ 32) := by
  by_cases isInvalid : (supervisionId + 1) % 2 ^ 32 = 0
  · have isNext : followingId supervisionId = (supervisionId + 1) % 2 ^ 32 + 1 := if_pos isInvalid
    rw [if_pos isInvalid, isNext, isInvalid]
  · have isNext : followingId supervisionId = (supervisionId + 1) % 2 ^ 32 := if_neg isInvalid
    rw [if_neg isInvalid, isNext]

theorem isValidId_followingId (supervisionId : Nat) : IsValidId (followingId supervisionId) := by
  unfold IsValidId
  rw [followingId_eq]
  split <;> omega

theorem iterate_followingId {supervisionId : Nat} (valid : IsValidId supervisionId) (count : Nat) :
    @Eq Nat (followingId^[count] supervisionId)
      (1 + (supervisionId - 1 + count) % (2 ^ 32 - 1)) := by
  obtain ⟨positive, below⟩ := valid
  induction count with
  | zero =>
    rw [Function.iterate_zero_apply]
    omega
  | succ count ih =>
    rw [Function.iterate_succ_apply', followingId_eq]
    split <;> omega

theorem iterate_followingId_ne {supervisionId : SupervisionId} (valid : IsValidId supervisionId)
    {first second : Nat} (before : first < second) (small : second < 2 ^ 32 - 1) :
    followingId^[first] supervisionId ≠ followingId^[second] supervisionId := by
  intro same
  have sameNumber := (iterate_followingId valid first).symm.trans
    (same.trans (iterate_followingId valid second))
  omega

/-- What the record says of the sessions of a state. -/
structure Numbered (proc : Process) : Prop where
  validNext : IsValidId proc.nextSupervisionId
  below : ∀ entry ∈ proc.sessions, entry.2.number < proc.created

/-- The sessions of a run are numbered below the count. -/
theorem numbered_run (nextSessionId : Nat) (actions : List Action) :
    Numbered (Foundation.run Process.step (initial nextSessionId) actions) := by
  have follows := Follows.run (initial nextSessionId) actions
  constructor
  · obtain ⟨count, isNext⟩ := follows.nextId
    rw [isNext]
    cases count with
    | zero => exact ⟨Nat.one_pos, (by decide : 1 < 2 ^ 32)⟩
    | succ count =>
      rw [Function.iterate_succ_apply']
      exact isValidId_followingId _
  · intro entry mem
    rcases follows.entries entry mem with ⟨-, isBelow⟩ | ⟨session, none, -⟩
    · exact isBelow
    · exact absurd none List.not_mem_nil

/-- Every session of a multicast is old or has the id of its turn. -/
theorem mem_insertFor_run (request : SendRequest) (groupId : GroupId) (nodes : List NodeId)
    {proc : Process}
    (mem : entry ∈ (Foundation.run (insertFor request groupId) proc nodes).sessions) :
    entry ∈ proc.sessions ∨
      ∃ index < nodes.length,
        entry.1 = followingId^[index] proc.nextSupervisionId ∧
          entry.2.number = proc.created + index ∧
          hasKey proc.sessions entry.1 = false := by
  induction nodes generalizing proc with
  | nil => exact .inl mem
  | cons nodeId rest ih =>
    rcases ih mem with isEarlier | ⟨index, isIndex, sameId, isNumber, isFree⟩
    · rcases mem_insertNew.mp isEarlier with isOld | ⟨isFree, rfl⟩
      · exact .inl isOld
      · exact .inr ⟨0, Nat.succ_pos _, rfl, rfl, isFree⟩
    · refine .inr ⟨index + 1, Nat.succ_lt_succ isIndex, sameId, ?_, ?_⟩
      · rw [isNumber]
        exact Nat.succ_add_eq_add_succ proc.created index
      · by_contra isKey
        rw [Bool.not_eq_false] at isKey
        have isKeyToo := hasKey_insertNew_of_hasKey isKey proc.nextSupervisionId
          (proc.newSession request nodeId groupId)
        exact Bool.false_ne_true (isFree.symm.trans isKeyToo)

/-- A node whose id is free gets its session. -/
theorem exists_mem_insertFor_run (request : SendRequest) (groupId : GroupId) (nodes : List NodeId)
    {proc : Process} (valid : IsValidId proc.nextSupervisionId)
    (small : nodes.length < 2 ^ 32 - 1) {index : Nat} (isIndex : index < nodes.length)
    (isFree : hasKey proc.sessions (followingId^[index] proc.nextSupervisionId) = false) :
    ∃ entry ∈ (Foundation.run (insertFor request groupId) proc nodes).sessions,
      entry.1 = followingId^[index] proc.nextSupervisionId ∧
        entry.2.number = proc.created + index := by
  induction nodes generalizing proc index with
  | nil => exact absurd isIndex (Nat.not_lt_zero _)
  | cons nodeId rest ih =>
    rw [List.length_cons] at small isIndex
    cases index with
    | zero =>
      refine ⟨(proc.nextSupervisionId, proc.newSession request nodeId groupId), ?_, rfl, rfl⟩
      apply subset_run_insertFor request groupId _ rest
      exact mem_insertNew.mpr (.inr ⟨isFree, rfl⟩)
    | succ index =>
      have stillFree : hasKey (insertFor request groupId proc nodeId).sessions
          (followingId^[index + 1] proc.nextSupervisionId) = false := by
        rw [hasKey_eq_false_iff] at isFree ⊢
        intro isKey
        obtain ⟨entry, mem, isId⟩ := List.mem_map.mp isKey
        rcases mem_insertNew.mp mem with isOld | ⟨-, rfl⟩
        · exact isFree (isId ▸ List.mem_map_of_mem isOld)
        · exact iterate_followingId_ne valid (Nat.succ_pos index) (by omega) isId
      obtain ⟨entry, mem, sameId, isNumber⟩ := ih
        (isValidId_followingId proc.nextSupervisionId) (by omega) (Nat.lt_of_succ_lt_succ isIndex)
        stillFree
      exact ⟨entry, mem, sameId, isNumber.trans (Nat.succ_add_eq_add_succ proc.created index)⟩

/-- Every node of a multicast counts as one creation. -/
theorem created_insertFor_run (request : SendRequest) (groupId : GroupId) (nodes : List NodeId)
    (proc : Process) :
    (Foundation.run (insertFor request groupId) proc nodes).created =
      proc.created + nodes.length := by
  induction nodes generalizing proc with
  | nil => rfl
  | cons nodeId rest ih =>
    rw [run_cons, ih]
    exact Nat.succ_add_eq_add_succ proc.created rest.length

theorem createGroupSession_fst (proc : Process) (groups : GroupId -> NodeId -> Bool)
    (request : SendRequest) (groupId : GroupId) {count : Nat}
    (isLength : (nodesOf (groups groupId)).length = count + 1) :
    (proc.createGroupSession groups request groupId).1 =
      followingId^[count] proc.nextSupervisionId := by
  have loop : ∀ (nodes : List NodeId) (count : Nat) (last : SupervisionId) (proc : Process),
      nodes.length = count + 1 ->
      (nodes.foldl
        (fun created nodeId =>
          (created.2.nextSupervisionId,
            created.2.insertSession (created.2.newSession request nodeId groupId)))
        (last, proc)).1 = followingId^[count] proc.nextSupervisionId := by
    intro nodes
    induction nodes with
    | nil => exact fun count _ _ isLength => nomatch isLength
    | cons nodeId rest ih =>
      intro count last proc isLength
      cases rest with
      | nil =>
        cases isLength
        rfl
      | cons second others =>
        obtain ⟨fewer, rfl⟩ : ∃ fewer, count = fewer + 1 :=
          ⟨others.length, (Nat.succ.inj isLength).symm⟩
        exact ih fewer _ _ (Nat.succ.inj isLength)
  exact loop _ _ _ _ isLength

theorem length_nodesOf_le (mask : NodeId -> Bool) : (nodesOf mask).length ≤ zwLrMaxNodeId := by
  refine (List.length_filter_le _ _).trans ?_
  rw [List.length_range']
  exact Nat.le_refl _

/-- A session with this number was created by the call. -/
def CreatedBy (proc : Process) (groups : GroupId -> NodeId -> Bool) (request : SendRequest)
    (number : Nat) : Prop :=
  proc.created ≤ number ∧ number < (proc.sendData groups request).created

/-- What happens while calls are under way does not return from them. -/
def Within (calls : List Call) (proc : Process) : Action -> Prop
  | .callReturns _ => calls <:+ proc.calls ∧ proc.calls ≠ calls
  | _ => True

/-- `zwave_command_class_supervision_send_data` returns something other than `SL_STATUS_OK`:
before anything is sent, or after `zwave_tx_send_data` did, while which anything else may have
happened. -/
inductive ReturnsNotOk
    (proc : Process)
    (groups : GroupId -> NodeId -> Bool)
    (request : SendRequest) : Process -> Prop
  | atOnce (returned : (proc.sendData groups request).calls = proc.calls) :
      ReturnsNotOk proc groups request (proc.sendData groups request)
  | notSent
      {supervisionId : SupervisionId}
      {wantsSession : Bool}
      (sends : (proc.sendData groups request).calls =
        .send supervisionId wantsSession :: proc.calls)
      {meanwhile : List Action}
      (within : StepsMeet Process.step (Within (proc.sendData groups request).calls)
        (proc.sendData groups request) meanwhile)
      (returns :
        (Foundation.run Process.step (proc.sendData groups request) meanwhile).calls =
          (proc.sendData groups request).calls) :
      ReturnsNotOk proc groups request
        ((Foundation.run Process.step (proc.sendData groups request) meanwhile).callReturns
          none)

theorem returnsNotOk_of_sends {proc : Process} {groups : GroupId -> NodeId -> Bool}
    {request : SendRequest} {supervisionId : SupervisionId} {wantsSession : Bool}
    (sends : (proc.sendData groups request).calls =
      .send supervisionId wantsSession :: proc.calls) :
    ReturnsNotOk proc groups request ((proc.sendData groups request).callReturns none) :=
  @ReturnsNotOk.notSent proc groups request _ _ sends [] trivial rfl

/-- After a call that failed there is no session that it created, and none is called back in
any run from there. -/
structure LeavesNothing
    (proc : Process)
    (groups : GroupId -> NodeId -> Bool)
    (request : SendRequest)
    (after : Process) : Prop where
  noSession : ∀ entry ∈ after.sessions, ¬ CreatedBy proc groups request entry.2.number
  noCallback : ∀ later : List Action, ∃ newer,
    (Foundation.run Process.step after later).callbacks = newer ++ after.callbacks ∧
      ∀ call ∈ newer, ¬ CreatedBy proc groups request call.number

/-- No session but the one whose id is returned is created: a frame to a group has one node to
go to, unless the ids of all nodes but the last one are in use. -/
def CreatesReturnedOnly (proc : Process) (groups : GroupId -> NodeId -> Bool)
    (request : SendRequest) : Prop :=
  match request.remote with
  | .node _ => True
  | .multicast groupId =>
      ∀ index, index + 1 < (nodesOf (groups groupId)).length ->
        hasKey proc.sessions (followingId^[index] proc.nextSupervisionId) = true

variable {groups : GroupId -> NodeId -> Bool} {request : SendRequest}

theorem sendData_of_tooLong {proc : Process}
    (tooLong : encapsulatedCommandMaximumSize < request.dataLength) :
    proc.sendData groups request = proc := if_pos tooLong

theorem sendData_cases {proc : Process} {groups : GroupId -> NodeId -> Bool}
    {request : SendRequest} (fits : ¬ encapsulatedCommandMaximumSize < request.dataLength) :
    (proc.sendData groups request).sessions = (proc.createSession groups request).2.sessions ∧
      (proc.sendData groups request).created = (proc.createSession groups request).2.created ∧
      ((proc.sendData groups request).calls = proc.calls ∧
          (proc.createSession groups request).2.sessions = proc.sessions ∨
        (proc.sendData groups request).calls =
          .send (proc.createSession groups request).1 request.wantsSession :: proc.calls) := by
  have creates := Creates.createSession proc groups request
  unfold sendData
  rw [if_neg fits]
  dsimp only
  split
  next absent => exact ⟨rfl, rfl, .inl ⟨creates.sameCalls, creates.found absent⟩⟩
  next => exact ⟨rfl, rfl, .inr (congrArg _ creates.sameCalls)⟩

theorem id_of_createdBy {proc : Process} (numbered : Numbered proc)
    (onlyReturned : CreatesReturnedOnly proc groups request)
    {entry : SupervisionId × SupervisedSession}
    (mem : entry ∈ (proc.createSession groups request).2.sessions)
    (isNew : proc.created ≤ entry.2.number) :
    entry.1 = (proc.createSession groups request).1 ∧
      (proc.createSession groups request).1 ≠ invalidSupervisionId := by
  have positive := numbered.validNext.1
  unfold CreatesReturnedOnly at onlyReturned
  unfold createSession at mem ⊢
  cases remote : request.remote with
  | multicast groupId =>
    rw [remote] at onlyReturned mem
    rw [createGroupSession_eq] at mem
    rcases mem_insertFor_run request groupId _ mem with
      isOld | ⟨index, isIndex, sameId, isNumber, isFree⟩
    · exact absurd (numbered.below entry isOld) (not_lt.mpr isNew)
    · have isLast : (nodesOf (groups groupId)).length = index + 1 := by
        by_contra notLast
        have isKey := onlyReturned index (by omega)
        rw [← sameId, isFree] at isKey
        cases isKey
      rw [createGroupSession_fst proc groups request groupId isLast, sameId]
      refine ⟨rfl, ?_⟩
      cases index with
      | zero => exact ne_of_gt positive
      | succ index =>
        rw [Function.iterate_succ_apply']
        exact ne_of_gt (isValidId_followingId _).1
  | node nodeId =>
    rw [remote] at mem
    dsimp only at mem ⊢
    split at mem
    next isFollowUp =>
      obtain ⟨session, isOld, -, sameNumber⟩ :=
        (Evolves.updateSinglecastFollowUpSession proc request nodeId).entries entry mem
      exact absurd (sameNumber ▸ numbered.below _ isOld) (not_lt.mpr isNew)
    next isSinglecast =>
      rw [if_neg isSinglecast]
      rcases mem_insertNew.mp mem with isOld | ⟨-, rfl⟩
      · exact absurd (numbered.below entry isOld) (not_lt.mpr isNew)
      · exact ⟨rfl, ne_of_gt positive⟩

theorem leavesNothing_of_noSession {proc after : Process}
    (isLater : (proc.sendData groups request).created ≤ after.created)
    (noSession : ∀ entry ∈ after.sessions, ¬ CreatedBy proc groups request entry.2.number) :
    LeavesNothing proc groups request after := by
  refine ⟨noSession, fun later => ?_⟩
  obtain ⟨newer, isNewer, fromAfter⟩ := (Follows.run after later).callbacks
  refine ⟨newer, isNewer, fun call isCall isCreated => ?_⟩
  rcases fromAfter call isCall with isNew | ⟨entry, mem, sameNumber⟩
  · exact absurd isCreated.2 (not_lt.mpr (isLater.trans isNew))
  · rw [← sameNumber] at isCreated
    exact noSession entry mem isCreated

theorem closeSession_notMem (proc : Process) (reason : Reason) {supervisionId : SupervisionId}
    (isValid : supervisionId ≠ invalidSupervisionId) :
    ∀ entry ∈ (proc.closeSession reason supervisionId).sessions, entry.1 ≠ supervisionId := by
  unfold closeSession
  rw [if_neg isValid]
  split
  next absent =>
    intro entry mem same
    have differs := List.lookup_eq_none_iff.mp absent entry mem
    rw [same, bne_self_eq_false] at differs
    cases differs
  next => exact eraseSession_notMem proc reason supervisionId

theorem mem_closeSession_of_ne {proc : Process} {entry : SupervisionId × SupervisedSession}
    (mem : entry ∈ proc.sessions) {supervisionId : SupervisionId}
    (differs : entry.1 ≠ supervisionId) (reason : Reason) :
    entry ∈ (proc.closeSession reason supervisionId).sessions := by
  have isKept : entry ∈ (proc.eraseSession reason supervisionId).sessions := by
    unfold eraseSession
    split
    next => exact mem
    next => exact mem_eraseKey.mpr ⟨mem, differs⟩
  unfold closeSession
  split
  next => exact mem
  next =>
    split
    next => exact mem
    next => exact isKept

theorem callReturns_of_send {proc : Process} {supervisionId : SupervisionId} {wantsSession : Bool}
    {rest : List Call} (isStack : proc.calls = .send supervisionId wantsSession :: rest) :
    proc.callReturns none =
      (closeSession { proc with calls := rest } .closed supervisionId).restartTimer := by
  unfold callReturns
  rw [isStack]
  rfl

theorem leavesNothing_of_createsReturnedOnly {proc after : Process} (numbered : Numbered proc)
    {groups : GroupId -> NodeId -> Bool} {request : SendRequest}
    (onlyReturned : encapsulatedCommandMaximumSize < request.dataLength ∨
      CreatesReturnedOnly proc groups request)
    (returns : ReturnsNotOk proc groups request after) :
    LeavesNothing proc groups request after := by
  cases returns with
  | atOnce returned =>
    apply leavesNothing_of_noSession le_rfl
    rintro entry mem ⟨isNew, below⟩
    by_cases tooLong : encapsulatedCommandMaximumSize < request.dataLength
    · rw [sendData_of_tooLong tooLong] at below
      omega
    · obtain ⟨sameSessions, -, ⟨-, unchanged⟩ | sends⟩ :=
        @sendData_cases proc groups request tooLong
      · rw [sameSessions, unchanged] at mem
        exact absurd (numbered.below entry mem) (not_lt.mpr isNew)
      · rw [returned] at sends
        exact absurd sends (List.cons_ne_self _ _).symm
  | @notSent supervisionId wantsSession sends meanwhile within sentReturns =>
    by_cases tooLong : encapsulatedCommandMaximumSize < request.dataLength
    · rw [sendData_of_tooLong tooLong] at sends
      exact absurd sends (List.cons_ne_self _ _).symm
    · have isOnly := onlyReturned.resolve_left tooLong
      obtain ⟨sameSessions, sameCreated, stacked⟩ := @sendData_cases proc groups request tooLong
      have isId : supervisionId = (proc.createSession groups request).1 := by
        rcases stacked with ⟨unchanged, -⟩ | sendsIt
        · rw [sends] at unchanged
          exact absurd unchanged (List.cons_ne_self _ _)
        · rw [sends] at sendsIt
          cases sendsIt
          rfl
      have reaches := Follows.run (proc.sendData groups request) meanwhile
      have closes := (Evolves.callReturns
        (run step (proc.sendData groups request) meanwhile) none).follows
      apply leavesNothing_of_noSession (reaches.created.trans closes.created)
      rintro entry mem ⟨isNew, below⟩
      rcases (reaches.trans closes).entries entry mem with
        ⟨isLater, -⟩ | ⟨session, isCreated, sameNumber⟩
      · exact absurd below (not_lt.mpr isLater)
      · rw [sameSessions] at isCreated
        obtain ⟨hasId, isValid⟩ := id_of_createdBy numbered isOnly isCreated
          (isNew.trans_eq sameNumber.symm)
        rw [callReturns_of_send (sentReturns.trans sends)] at mem
        rw [← isId] at hasId isValid
        exact closeSession_notMem _ .closed isValid entry mem hasId

theorem exists_not_leavesNothing {proc : Process} (numbered : Numbered proc)
    (fits : ¬ encapsulatedCommandMaximumSize < request.dataLength)
    (createsOther : ¬ CreatesReturnedOnly proc groups request) :
    ∃ after, ReturnsNotOk proc groups request after ∧
      ¬ LeavesNothing proc groups request after := by
  unfold CreatesReturnedOnly at createsOther
  cases remote : request.remote with
  | node nodeId =>
    rw [remote] at createsOther
    exact absurd trivial createsOther
  | multicast groupId =>
    rw [remote] at createsOther
    obtain ⟨index, isOther⟩ := not_forall.mp createsOther
    obtain ⟨before, notKey⟩ := Classical.not_imp.mp isOther
    have isFree := eq_false_of_ne_true notKey
    have few := length_nodesOf_le (groups groupId)
    have lastIndex : (nodesOf (groups groupId)).length =
        ((nodesOf (groups groupId)).length - 1) + 1 := by omega
    have small : (nodesOf (groups groupId)).length < 2 ^ 32 - 1 := by
      have large : zwLrMaxNodeId < 2 ^ 32 - 1 := by decide
      exact few.trans_lt large
    have isCreated : proc.createSession groups request =
        proc.createGroupSession groups request groupId := by
      unfold createSession
      rw [remote]
    obtain ⟨entry, mem, hasId, isNumber⟩ := exists_mem_insertFor_run request groupId
      (nodesOf (groups groupId)) numbered.validNext small (Nat.lt_of_succ_lt before) isFree
    have isReturned := createGroupSession_fst proc groups request groupId lastIndex
    have notReturned : entry.1 ≠ (proc.createGroupSession groups request groupId).1 := by
      rw [hasId, isReturned]
      exact iterate_followingId_ne numbered.validNext (by omega) (by omega)
    have inTable : entry ∈ (proc.createSession groups request).2.sessions := by
      rw [isCreated, createGroupSession_eq]
      exact mem
    obtain ⟨sameSessions, sameCreated, stacked⟩ := @sendData_cases proc groups request fits
    have isBelow : entry.2.number < (proc.sendData groups request).created := by
      rw [sameCreated, isCreated, createGroupSession_eq]
      exact isNumber.trans_lt ((Nat.add_lt_add_left (Nat.lt_of_succ_lt before) _).trans_eq
        (created_insertFor_run request groupId _ proc).symm)
    rcases stacked with ⟨-, unchanged⟩ | sends
    · -- the session is new, so that the table has changed
      rw [unchanged] at inTable
      have isOld := numbered.below entry inTable
      omega
    · refine ⟨_, returnsNotOk_of_sends sends, fun leaves => ?_⟩
      refine leaves.noSession entry ?_ ⟨by omega, isBelow⟩
      rw [callReturns_of_send sends]
      refine mem_closeSession_of_ne ?_ ?_ .closed
      · rw [← sameSessions] at inTable
        exact inTable
      · rw [isCreated]
        exact notReturned

/-- Whenever a supervised frame is not sent, and whatever happens meanwhile, nothing is left of
the sessions of the call if and only if it creates no session but the one it closes: the frame
is too long for any, or it does not go to a group of several nodes. -/
theorem failed_sends_leave_nothing_iff (nextSessionId : Nat) (actions : List Action)
    (groups : GroupId -> NodeId -> Bool) (request : SendRequest) :
    (∀ after,
      ReturnsNotOk (Foundation.run Process.step (initial nextSessionId) actions) groups request
        after ->
      LeavesNothing (Foundation.run Process.step (initial nextSessionId) actions) groups request
        after) ↔
      (encapsulatedCommandMaximumSize < request.dataLength ∨
        CreatesReturnedOnly (Foundation.run Process.step (initial nextSessionId) actions) groups
          request) := by
  have numbered := numbered_run nextSessionId actions
  constructor
  · intro leavesNothing
    by_contra neither
    obtain ⟨fits, createsOther⟩ := not_or.mp neither
    obtain ⟨after, returns, leaves⟩ := exists_not_leavesNothing numbered fits createsOther
    exact leaves (leavesNothing after returns)
  · intro onlyReturned after returns
    exact leavesNothing_of_createsReturnedOnly numbered onlyReturned returns

/-- The nodes 2 and 3 are in every group. -/
def pairGroups (_ : GroupId) (nodeId : NodeId) : Bool := nodeId == 2 || nodeId == 3

/-- A frame to a group of two nodes. -/
def groupRequest : SendRequest := { sampleRequest 2 with remote := .multicast 1 }

/-- The session of node 2 is still there when the frame to the group was not sent, and it calls
back when it expires. -/
theorem not_leavesNothing_groupRequest :
    ReturnsNotOk (initial 0) pairGroups groupRequest
        (((initial 0).sendData pairGroups groupRequest).callReturns none) ∧
      ¬ LeavesNothing (initial 0) pairGroups groupRequest
        (((initial 0).sendData pairGroups groupRequest).callReturns none) ∧
      (Foundation.run Process.step
        (((initial 0).sendData pairGroups groupRequest).callReturns none)
        [.clockTick 60000, .timerExpires]).callbacks.map (·.number) = [0] := by
  have isCreated : ((initial 0).sendData pairGroups groupRequest).created = 2 := by decide +kernel
  have isLeft : (((initial 0).sendData pairGroups groupRequest).callReturns none).sessions.map
      (·.2.number) = [0] := by decide +kernel
  refine ⟨?_, fun leaves => ?_, by decide +kernel⟩
  · have sends : ((initial 0).sendData pairGroups groupRequest).calls = [.send 2 true] := by
      decide +kernel
    exact returnsNotOk_of_sends sends
  · obtain ⟨entry, mem, isFirst⟩ := List.mem_map.mp (isLeft ▸ List.mem_singleton_self 0)
    refine leaves.noSession entry mem ⟨Nat.zero_le _, ?_⟩
    rw [isFirst, isCreated]
    decide

end Process

end Supervision
