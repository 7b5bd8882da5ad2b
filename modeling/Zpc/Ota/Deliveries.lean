import Zpc.Ota.Transitions

/-!
# The reports that answer a Get

The device asks for a range of numbered reports, as often and in any order it likes.  A range
that leaves the image ends the delivery, so that a fragment which is asked for afterwards
is not sent again.
-/

namespace Ota

open Foundation OtaStepDeliverRequestedFirmwareChunks

/-- The fragment of a number begins inside the image. -/
def FragmentExists (imageSize fragmentSize number : Nat) : Prop :=
  0 < number ∧ (number - 1) * fragmentSize < imageSize

instance (imageSize fragmentSize number : Nat) :
    Decidable (FragmentExists imageSize fragmentSize number) :=
  inferInstanceAs (Decidable (_ ∧ _))

variable {fragmentSize : Nat} {image : List UInt8}

theorem FragmentExists.of_le {imageSize first second : Nat}
    (laterExists : FragmentExists imageSize fragmentSize second) (positive : 0 < first)
    (notLater : first ≤ second) : FragmentExists imageSize fragmentSize first := by
  refine ⟨positive, Nat.lt_of_le_of_lt ?_ laterExists.2⟩
  exact Nat.mul_le_mul_right fragmentSize (by omega)

/-- A report carries the fragment of its number, and is marked when that is the last one. -/
structure CarriesFragment
    (image : List UInt8)
    (fragmentSize : Nat)
    (report : MdReport) : Prop where
  fragmentExists : FragmentExists image.length fragmentSize report.reportNumber.toNat
  data : report.data =
    image.extract ((report.reportNumber.toNat - 1) * fragmentSize)
      (min (report.reportNumber.toNat * fragmentSize) image.length)
  isLast : report.isLast = true ↔
    (report.reportNumber.toNat - 1) * fragmentSize ≤ image.length - 1 ∧
      image.length - 1 < min (report.reportNumber.toNat * fragmentSize) image.length

/-- A session that delivers an image in fragments of a size. -/
structure Delivers (image : List UInt8) (fragmentSize : Nat) (session : OtaSession) : Prop where
  firmwareImageCache : session.firmwareImageCache = image
  maxFragmentSize : session.firmwareMd.maxFragmentSize.toNat = fragmentSize
  notAborted : session.transfer.abortRequested = false

section

variable
  {image : List UInt8}
  {fragmentSize : Nat}
  {session : OtaSession}

theorem toNat_batchImageSize (delivers : Delivers image fragmentSize session)
    (small : image.length ≤ maxImageSize) : (batchImageSize session).toNat = image.length := by
  rw [maxImageSize] at small
  rw [batchImageSize, delivers.firmwareImageCache, UInt32.toNat_ofNat']
  omega

variable {currentReport : UInt16}

section

variable (delivers : Delivers image fragmentSize session)
include delivers

theorem toNat_reportOffset (positive : 0 < currentReport.toNat) :
    (reportOffset session currentReport).toNat = (currentReport.toNat - 1) * fragmentSize := by
  have small := currentReport.toNat_lt
  have smallFragment := session.firmwareMd.maxFragmentSize.toNat_lt
  have previous : (currentReport.toUInt32 - 1).toNat = currentReport.toNat - 1 := by
    rw [UInt32.toNat_sub_of_le]
    · simp
    · rw [UInt32.le_iff_toNat_le]
      simp
      omega
  rw [reportOffset, UInt32.toNat_mul, previous, UInt16.toNat_toUInt32, ← delivers.maxFragmentSize]
  apply Nat.mod_eq_of_lt
  calc (currentReport.toNat - 1) * session.firmwareMd.maxFragmentSize.toNat
      ≤ 65535 * 65535 := Nat.mul_le_mul (by omega) (by omega)
    _ < 2 ^ 32 := by decide

theorem lt_toNat_reportOffset_zero (positive : 0 < fragmentSize) :
    maxImageSize < (reportOffset session 0).toNat := by
  have small := session.firmwareMd.maxFragmentSize.toNat_lt
  have isPositive := positive
  rw [← delivers.maxFragmentSize] at isPositive
  have previous : ((0 : UInt16).toUInt32 - 1).toNat = 4294967295 := by decide
  have wrapped : 4294967295 * session.firmwareMd.maxFragmentSize.toNat =
      (2 ^ 32 - session.firmwareMd.maxFragmentSize.toNat) +
        2 ^ 32 * (session.firmwareMd.maxFragmentSize.toNat - 1) := by omega
  rw [reportOffset, UInt32.toNat_mul, previous, UInt16.toNat_toUInt32, wrapped,
    Nat.add_mul_mod_self_left, Nat.mod_eq_of_lt (by omega), maxImageSize]
  omega

theorem batchImageSize_le_iff
    (small : image.length ≤ maxImageSize) (positive : 0 < fragmentSize) (currentReport : UInt16) :
    batchImageSize session ≤ reportOffset session currentReport ↔
      ¬FragmentExists image.length fragmentSize currentReport.toNat := by
  rw [UInt32.le_iff_toNat_le, toNat_batchImageSize delivers small, FragmentExists]
  rcases Nat.eq_zero_or_pos currentReport.toNat with isZero | isPositive
  · have same : currentReport = 0 := UInt16.toNat_inj.mp isZero
    subst same
    have past := lt_toNat_reportOffset_zero delivers positive
    omega
  · rw [toNat_reportOffset delivers isPositive]
    omega

theorem toNat_chunkLength (small : image.length ≤ maxImageSize)
    (fragmentExists : FragmentExists image.length fragmentSize currentReport.toNat) :
    (chunkLength session currentReport).toNat =
      min fragmentSize (image.length - (currentReport.toNat - 1) * fragmentSize) := by
  have smallFragment := session.firmwareMd.maxFragmentSize.toNat_lt
  have offset := toNat_reportOffset delivers fragmentExists.1
  have inside : reportOffset session currentReport ≤ batchImageSize session := by
    rw [UInt32.le_iff_toNat_le, offset, toNat_batchImageSize delivers small]
    exact Nat.le_of_lt fragmentExists.2
  have remaining : (batchImageSize session - reportOffset session currentReport).toNat =
      image.length - (currentReport.toNat - 1) * fragmentSize := by
    rw [UInt32.toNat_sub_of_le _ _ inside, offset, toNat_batchImageSize delivers small]
  have fragment : session.firmwareMd.maxFragmentSize.toUInt32.toNat = fragmentSize :=
    (UInt16.toNat_toUInt32 _).trans delivers.maxFragmentSize
  rw [delivers.maxFragmentSize] at smallFragment
  rw [chunkLength, UInt32.toNat_toUInt16]
  have least : (min session.firmwareMd.maxFragmentSize.toUInt32
      (batchImageSize session - reportOffset session currentReport)).toNat =
      min fragmentSize (image.length - (currentReport.toNat - 1) * fragmentSize) := by
    rw [← remaining, ← fragment, Nat.min_def]
    show (if _ ≤ _ then _ else _ : UInt32).toNat = _
    simp only [UInt32.le_iff_toNat_le]
    split <;> rfl
  omega

end

theorem fragmentEnd_eq (fragmentSize : Nat) {number : Nat} (positive : 0 < number) :
    number * fragmentSize = (number - 1) * fragmentSize + fragmentSize := by
  rw [Nat.sub_mul, Nat.one_mul, Nat.sub_add_cancel]
  exact Nat.le_mul_of_pos_left fragmentSize positive

theorem toNat_newTransferred (delivers : Delivers image fragmentSize session)
    (small : image.length ≤ maxImageSize)
    (fragmentExists : FragmentExists image.length fragmentSize currentReport.toNat) :
    (newTransferred session currentReport).toNat =
      min (currentReport.toNat * fragmentSize) image.length := by
  obtain ⟨positive, inside⟩ := fragmentExists
  have offset := toNat_reportOffset delivers positive
  have chunk := toNat_chunkLength delivers small ⟨positive, inside⟩
  have next := fragmentEnd_eq fragmentSize positive
  rw [maxImageSize] at small
  rw [newTransferred, UInt32.toNat_add, UInt16.toNat_toUInt32]
  omega

theorem carriesFragment_batchReport (delivers : Delivers image fragmentSize session)
    (small : image.length ≤ maxImageSize) (numberOfReports : UInt8)
    (fragmentExists : FragmentExists image.length fragmentSize currentReport.toNat) (index : Nat) :
    CarriesFragment image fragmentSize
      (batchReport session numberOfReports currentReport index) := by
  have offset := toNat_reportOffset delivers fragmentExists.1
  have chunk := toNat_chunkLength delivers small fragmentExists
  have transferred := toNat_newTransferred delivers small fragmentExists
  have next := fragmentEnd_eq fragmentSize fragmentExists.1
  have inside := fragmentExists.2
  refine ⟨fragmentExists, ?_, ?_⟩
  · show (session.firmwareImageCache.drop _).take _ = _
    rw [delivers.firmwareImageCache, offset, chunk, List.extract_eq_take_drop]
    congr 1
    show _ = min (currentReport.toNat * fragmentSize) _ -
      (currentReport.toNat - 1) * fragmentSize
    omega
  · show decide (batchImageSize session ≤ newTransferred session currentReport) = true ↔
      (currentReport.toNat - 1) * fragmentSize ≤ image.length - 1 ∧
        image.length - 1 < min (currentReport.toNat * fragmentSize) image.length
    rw [decide_eq_true_iff, UInt32.le_iff_toNat_le, toNat_batchImageSize delivers small,
      transferred]
    omega

end

/-- The reports among what was given out. -/
def mdReports (outputs : List Output) : List MdReport :=
  outputs.filterMap fun
    | .mdReport report => some report
    | _ => none

@[simp] theorem mdReports_map_mdReport (reports : List MdReport) :
    mdReports (reports.map .mdReport) = reports := by
  simp [mdReports, List.filterMap_map]

/-- The round of a batch whose number wraps or has no fragment, if there is one. -/
def Leaves (imageSize fragmentSize first count : Nat) : Prop :=
  ∃ number, first ≤ number ∧ number < first + count ∧
    (number = 2 ^ 16 ∨ ¬FragmentExists imageSize fragmentSize number)

/-- What the loop gives out from a round on, when every report is accepted. -/
structure BatchServed
    (image : List UInt8)
    (fragmentSize first count : Nat)
    (before : Context)
    (result : StepResult) : Prop where
  reports : ∃ reports : List MdReport,
    result.2.outputs = before.outputs ++ reports.map .mdReport ∧
      (∀ report ∈ reports, CarriesFragment image fragmentSize report) ∧
      ∀ number, first ≤ number -> number < first + count -> number < 2 ^ 16 ->
        FragmentExists image.length fragmentSize number ->
        ∃ report ∈ reports, report.reportNumber.toNat = number
  code : result.1 = some .stay ∨ result.1 = some .done
  leaves : result.1 = some .done ↔ Leaves image.length fragmentSize first count
  delivers : Delivers image fragmentSize result.2.session
  currentState : result.2.session.currentState = before.session.currentState
  threw : result.2.threw = before.threw

theorem batchServed_done {first count : Nat} {ctx : Context}
    (delivers : Delivers image fragmentSize ctx.session) (positive : 0 < first) (wanted : 0 < count)
    (leaves : first = 2 ^ 16 ∨ ¬FragmentExists image.length fragmentSize first) :
    BatchServed image fragmentSize first count ctx (some .done, ctx) := by
  refine ⟨⟨[], by simp, by simp, ?_⟩, Or.inr rfl, ?_, delivers, rfl, rfl⟩
  · intro number notEarlier inRange fits fragmentExists
    rcases leaves with isWrapped | isPast
    · omega
    · exact absurd (fragmentExists.of_le positive notEarlier) isPast
  · simp only [true_iff]
    exact ⟨first, Nat.le_refl first, by omega, leaves⟩

/-- By induction on the rounds that are left; the number of a round fits until it wraps. -/
theorem batchServed_sendReports {env : Surroundings} (small : image.length ≤ maxImageSize)
    (positive : 0 < fragmentSize) (enqueues : ∀ index, env.enqueuesReport index = true)
    (numberOfReports : UInt8) (reportNumber : UInt16) (rounds index : Nat) (ctx : Context)
    (delivers : Delivers image fragmentSize ctx.session)
    (isNumber : 0 < reportNumber.toNat + index) (notPast : reportNumber.toNat + index ≤ 2 ^ 16) :
    BatchServed image fragmentSize (reportNumber.toNat + index) rounds ctx
      (sendReports env numberOfReports reportNumber rounds index ctx) := by
  induction rounds generalizing index ctx with
  | zero =>
    refine ⟨⟨[], by simp [sendReports], by simp, ?_⟩, Or.inl rfl, ?_, delivers, rfl, rfl⟩
    · intro number notEarlier inRange
      omega
    · simp only [sendReports, Leaves]
      constructor
      · intro isDone
        cases isDone
      · rintro ⟨number, notEarlier, inRange, -⟩
        omega
  | succ rounds ih =>
    have current : (reportNumber + UInt16.ofNat index).toNat =
        (reportNumber.toNat + index) % 2 ^ 16 := by
      simp [UInt16.toNat_add]
    rw [sendReports]
    by_cases past : batchImageSize ctx.session ≤
        reportOffset ctx.session (reportNumber + UInt16.ofNat index)
    · rw [if_pos past]
      apply batchServed_done delivers isNumber (by omega)
      rw [batchImageSize_le_iff delivers small positive, current] at past
      by_cases wraps : reportNumber.toNat + index = 2 ^ 16
      · exact Or.inl wraps
      · rw [Nat.mod_eq_of_lt (by omega)] at past
        exact Or.inr past
    · rw [if_neg past]
      rw [batchImageSize_le_iff delivers small positive, not_not] at past
      have fits : reportNumber.toNat + index < 2 ^ 16 := by
        have isPositive := past.1
        omega
      rw [Nat.mod_eq_of_lt fits] at current
      rw [enqueues index, if_neg Bool.false_ne_true.symm]
      obtain ⟨⟨reports, outputs, carry, answer⟩, code, leaves, stays, state, threw⟩ :=
        ih (index + 1)
          { ctx.emit (.mdReport (batchReport ctx.session numberOfReports
              (reportNumber + UInt16.ofNat index) index)) with
            session := { ctx.session with
              transfer := { ctx.session.transfer with
                bytesTransferred :=
                  max (newTransferred ctx.session (reportNumber + UInt16.ofNat index))
                    ctx.session.transfer.bytesTransferred } } }
          ⟨delivers.firmwareImageCache, delivers.maxFragmentSize, delivers.notAborted⟩
          (by omega) (by omega)
      refine ⟨⟨batchReport ctx.session numberOfReports
        (reportNumber + UInt16.ofNat index) index :: reports, ?_, ?_, ?_⟩, code, ?_, stays,
        state, threw⟩
      · exact outputs.trans (by simp)
      · intro report mem
        rcases List.mem_cons.mp mem with isFirst | later
        · rw [isFirst]
          exact carriesFragment_batchReport delivers small numberOfReports past index
        · exact carry report later
      · intro number notEarlier inRange fits' fragmentExists
        rcases Nat.eq_or_lt_of_le notEarlier with isFirst | later
        · exact ⟨_, List.mem_cons_self, by rw [← isFirst, ← current]; rfl⟩
        · obtain ⟨report, mem, same⟩ := answer number (by omega) (by omega) fits' fragmentExists
          exact ⟨report, List.mem_cons_of_mem _ mem, same⟩
      · refine leaves.trans ?_
        constructor
        · rintro ⟨number, notEarlier, inRange, ends⟩
          exact ⟨number, by omega, by omega, ends⟩
        · rintro ⟨number, notEarlier, inRange, ends⟩
          rw [current] at past
          have notFirst : number ≠ reportNumber.toNat + index := by
            intro same
            rw [same] at ends
            rcases ends with wraps | isPast
            · omega
            · exact isPast past
          exact ⟨number, by omega, by omega, ends⟩

/-- A Firmware Update MD Get, with what is read while it is handled. -/
structure MdGet where
  env : Surroundings
  attributes : AttributeMap

namespace MdGet

/-- The number of the first report that is asked for. -/
def first (get : MdGet) : Nat := (reportNumberOf get.attributes).toNat

/-- How many reports are asked for. -/
def count (get : MdGet) : Nat := (numberOfReportsOf get.attributes).toNat

/-- A Get of at least one numbered report, all of whose answers the lower layer accepts. -/
structure Accepted (get : MdGet) : Prop where
  firstPositive : 0 < get.first
  countPositive : 0 < get.count
  enqueues : ∀ index, get.env.enqueuesReport index = true

/-- The event of a Get from a node. -/
def occurrence (get : MdGet) (nodeId : Nat) : OtaStateMachine.Occurrence where
  env := get.env
  event := ⟨.firmwareUpdateMdGetReceived, nodeId, .zwaveReport get.attributes⟩

end MdGet

namespace OtaStateMachine

/-- The Get of a node is handled. -/
def getStep (nodeId : Nat) (sys : OtaStateMachine) (get : MdGet) : OtaStateMachine :=
  step sys (get.occurrence nodeId)

/-- The reports a Get is answered with. -/
def answer (nodeId : Nat) (sys : OtaStateMachine) (get : MdGet) : List MdReport :=
  mdReports ((getStep nodeId sys get).outputs.drop sys.outputs.length)

/-- A Get is answered with fragments of the image, and with every one it asks for. -/
structure GetServed
    (image : List UInt8)
    (fragmentSize nodeId : Nat)
    (sys : OtaStateMachine)
    (get : MdGet) : Prop where
  carries : ∀ report ∈ answer nodeId sys get, CarriesFragment image fragmentSize report
  answers : ∀ number, get.first ≤ number -> number < get.first + get.count ->
    FragmentExists image.length fragmentSize number ->
    ∃ report ∈ answer nodeId sys get, report.reportNumber.toNat = number

/-- The session of a node is in a state and delivers an image in fragments of a size. -/
structure DeliversTo
    (image : List UInt8)
    (fragmentSize nodeId : Nat)
    (state : OtaState)
    (sys : OtaStateMachine) : Prop where
  running : sys.running = true
  session : ∃ session, sys.sessions.find nodeId = some session ∧
    session.currentState = state ∧ Delivers image fragmentSize session

/-- Every fragment a Get asks for has a number of 16 bits. -/
def FitsNumbers (imageSize fragmentSize : Nat) (get : MdGet) : Prop :=
  ∀ number, get.first ≤ number -> number < get.first + get.count ->
    FragmentExists imageSize fragmentSize number -> number < 2 ^ 16

/-- The range of a Get leaves the image, or the numbers of 16 bits. -/
def PassesEnd (imageSize fragmentSize : Nat) (get : MdGet) : Prop :=
  Leaves imageSize fragmentSize get.first get.count

/-- A Get asks for a fragment of the image. -/
def RequestsData (imageSize fragmentSize : Nat) (get : MdGet) : Prop :=
  FragmentExists imageSize fragmentSize get.first

section

variable
  {image : List UInt8}
  {fragmentSize nodeId : Nat}
  {sys : OtaStateMachine}
  {get : MdGet}

/-- While the image is delivered, a Get is served up to the end of the numbers, and ends the
delivery when its range leaves the image. -/
theorem getStep_deliver (small : image.length ≤ maxImageSize) (positive : 0 < fragmentSize)
    (delivers : DeliversTo image fragmentSize nodeId .uploadDeliverFirmwareChunks sys)
    (accepted : get.Accepted) :
    (GetServed image fragmentSize nodeId sys get ↔ FitsNumbers image.length fragmentSize get) ∧
      (¬PassesEnd image.length fragmentSize get ->
        DeliversTo image fragmentSize nodeId .uploadDeliverFirmwareChunks
          (getStep nodeId sys get)) ∧
      (PassesEnd image.length fragmentSize get ->
        DeliversTo image fragmentSize nodeId .uploadProcessDeviceOutcome
          (getStep nodeId sys get)) := by
  obtain ⟨running, session, found, delivering, sessionDelivers⟩ := delivers
  obtain ⟨firstPositive, countPositive, enqueues⟩ := accepted
  have firstNonzero : reportNumberOf get.attributes ≠ 0 := by
    intro isZero
    rw [MdGet.first, isZero] at firstPositive
    exact absurd firstPositive (by decide)
  have countNonzero : numberOfReportsOf get.attributes ≠ 0 := by
    intro isZero
    rw [MdGet.count, isZero] at countPositive
    exact absurd countPositive (by decide)
  have fragmentNonzero : session.firmwareMd.maxFragmentSize ≠ 0 := by
    intro isZero
    have sameSize := sessionDelivers.maxFragmentSize
    rw [isZero] at sameSize
    exact absurd positive (by rw [← sameSize]; decide)
  have handled : getStep nodeId sys get =
      sys.settle nodeId
        (routeResult get.env
          (sendFirmwareReportBatch get.env (sys.contextOf session)
            (numberOfReportsOf get.attributes) (reportNumberOf get.attributes))) := by
    simp [getStep, step, running, MdGet.occurrence, processEvent, found, routeEvent, endDelivery,
      contextOf, delivering, Ota.handlesExternalEvent,
      OtaStepDeliverRequestedFirmwareChunks.handlesExternalEvent, Ota.handleEvent,
      OtaStepDeliverRequestedFirmwareChunks.handleEvent, firstNonzero, countNonzero,
      sessionDelivers.notAborted, fragmentNonzero]
  have served := batchServed_sendReports small positive enqueues
    (numberOfReportsOf get.attributes) (reportNumberOf get.attributes)
    (numberOfReportsOf get.attributes).toNat 0 (sys.contextOf session) sessionDelivers
    (by simpa [MdGet.first] using firstPositive)
    (Nat.le_of_lt (reportNumberOf get.attributes).toNat_lt)
  change BatchServed image fragmentSize get.first get.count (sys.contextOf session)
    (sendFirmwareReportBatch get.env (sys.contextOf session)
      (numberOfReportsOf get.attributes) (reportNumberOf get.attributes)) at served
  generalize sendFirmwareReportBatch get.env (sys.contextOf session)
    (numberOfReportsOf get.attributes) (reportNumberOf get.attributes) = result at handled served
  obtain ⟨code, final⟩ := result
  obtain ⟨⟨reports, outputs, carry, answers⟩, stayOrDone, leaves, stays, state, threw⟩ := served
  replace state : final.session.currentState = .uploadDeliverFirmwareChunks :=
    state.trans delivering
  have routed : ∃ last, getStep nodeId sys get = sys.store nodeId last ∧
      last.outputs = final.outputs ∧ last.threw = false ∧
      Delivers image fragmentSize last.session ∧
      last.session.currentState =
        if code = some .done then .uploadProcessDeviceOutcome
        else .uploadDeliverFirmwareChunks := by
    rcases stayOrDone with isStay | isDone
    · refine ⟨final, ?_, rfl, threw, stays, ?_⟩
      · rw [handled]
        simp [routeResult, applyTransition, applyResult, nextState, show code = _ from isStay,
          settle, state, OtaState.isTerminal]
      · simp [show code = _ from isStay, state]
    · refine ⟨final.setState .uploadProcessDeviceOutcome, ?_, rfl, threw,
        ⟨stays.firmwareImageCache, stays.maxFragmentSize, stays.notAborted⟩, ?_⟩
      · rw [handled]
        simp [routeResult, applyTransition, applyResult, nextState, show code = _ from isDone,
          settle, state, OtaState.isTerminal, transitionTable]
      · simp [show code = _ from isDone]
  obtain ⟨last, stored, sameOutputs, notThrown, lastDelivers, lastState⟩ := routed
  have stillRunning : (getStep nodeId sys get).running = true := by
    simp [stored, store, running, notThrown]
  have foundLast : (getStep nodeId sys get).sessions.find nodeId = some last.session := by
    simp [stored, store]
  have answered : answer nodeId sys get = reports := by
    have given : (getStep nodeId sys get).outputs = sys.outputs ++ reports.map .mdReport := by
      rw [stored]
      exact sameOutputs.trans outputs
    simp [answer, given]
  refine ⟨⟨?_, ?_⟩, ?_, ?_⟩
  · intro getServed number notEarlier inRange fragmentExists
    obtain ⟨report, -, same⟩ := getServed.answers number notEarlier inRange fragmentExists
    rw [← same]
    exact report.reportNumber.toNat_lt
  · intro fits
    refine ⟨by rw [answered]; exact carry, ?_⟩
    intro number notEarlier inRange fragmentExists
    rw [answered]
    exact answers number notEarlier inRange
      (fits number notEarlier inRange fragmentExists) fragmentExists
  · intro notPast
    refine ⟨stillRunning, last.session, foundLast, ?_, lastDelivers⟩
    rw [lastState, if_neg (mt leaves.mp notPast)]
  · intro past
    refine ⟨stillRunning, last.session, foundLast, ?_, lastDelivers⟩
    rw [lastState, if_pos (leaves.mpr past)]

theorem getStep_outcome
    (delivers : DeliversTo image fragmentSize nodeId .uploadProcessDeviceOutcome sys)
    (accepted : get.Accepted) :
    (GetServed image fragmentSize nodeId sys get ↔ ¬RequestsData image.length fragmentSize get) ∧
      DeliversTo image fragmentSize nodeId .uploadProcessDeviceOutcome
        (getStep nodeId sys get) := by
  obtain ⟨running, session, found, processing, sessionDelivers⟩ := delivers
  have ignored : getStep nodeId sys get = sys.store nodeId (sys.contextOf session) := by
    simp [getStep, step, running, MdGet.occurrence, processEvent, found, routeEvent, endDelivery,
      contextOf, processing, handlesExternalEvent,
      OtaStepProcessDeviceTransferOutcome.handlesExternalEvent]
  have nothing : answer nodeId sys get = [] := by
    simp [answer, ignored, store, contextOf, mdReports]
  refine ⟨⟨?_, ?_⟩, ?_⟩
  · intro getServed requests
    have positive := accepted.countPositive
    obtain ⟨report, mem, -⟩ := getServed.answers get.first (Nat.le_refl _) (by omega) requests
    rw [nothing] at mem
    cases mem
  · intro requestsNothing
    refine ⟨by simp [nothing], ?_⟩
    intro number notEarlier inRange fragmentExists
    exact absurd (fragmentExists.of_le accepted.firstPositive notEarlier) requestsNothing
  · refine ⟨by simp [ignored, store, contextOf, running], session, ?_, processing, sessionDelivers⟩
    simp [ignored, store, contextOf]

variable {gets : List MdGet}

theorem served_outcome_iff (accepted : ∀ get ∈ gets, get.Accepted)
    (delivers : DeliversTo image fragmentSize nodeId .uploadProcessDeviceOutcome sys) :
    StepsMeet (getStep nodeId) (GetServed image fragmentSize nodeId) sys gets ↔
      ∀ get ∈ gets, ¬RequestsData image.length fragmentSize get := by
  induction gets generalizing sys with
  | nil => simp
  | cons get rest ih =>
    obtain ⟨servedIff, next⟩ := getStep_outcome delivers (accepted get List.mem_cons_self)
    rw [stepsMeet_cons, servedIff, List.forall_mem_cons]
    exact and_congr_right fun _ =>
      ih (fun later mem => accepted later (List.mem_cons_of_mem _ mem))
        next

/-- The numbers of the Gets fit, and none of them asks for a fragment after a range that
left the image. -/
def Servable (imageSize fragmentSize : Nat) (gets : List MdGet) : Prop :=
  (∀ get ∈ gets, FitsNumbers imageSize fragmentSize get) ∧
    gets.Pairwise fun earlier later =>
      PassesEnd imageSize fragmentSize earlier -> ¬RequestsData imageSize fragmentSize later

theorem served_deliver_iff (small : image.length ≤ maxImageSize) (positive : 0 < fragmentSize)
    (accepted : ∀ get ∈ gets, get.Accepted)
    (delivers : DeliversTo image fragmentSize nodeId .uploadDeliverFirmwareChunks sys) :
    StepsMeet (getStep nodeId) (GetServed image fragmentSize nodeId) sys gets ↔
      Servable image.length fragmentSize gets := by
  induction gets generalizing sys with
  | nil => simp [Servable]
  | cons get rest ih =>
    have restAccepted : ∀ later ∈ rest, later.Accepted :=
      fun later mem => accepted later (List.mem_cons_of_mem _ mem)
    obtain ⟨servedIff, stays, leaves⟩ :=
      getStep_deliver small positive delivers (accepted get List.mem_cons_self)
    rw [stepsMeet_cons, servedIff, Servable, List.forall_mem_cons, List.pairwise_cons]
    by_cases past : PassesEnd image.length fragmentSize get
    · rw [served_outcome_iff restAccepted (leaves past)]
      constructor
      · rintro ⟨fits, nothing⟩
        refine ⟨⟨fits, ?_⟩, fun later mem _ => nothing later mem, ?_⟩
        · intro later mem number notEarlier inRange fragmentExists
          exact absurd
            (fragmentExists.of_le (restAccepted later mem).firstPositive notEarlier)
            (nothing later mem)
        · refine List.pairwise_of_forall_sublist ?_
          intro earlier later sublist _
          exact nothing later (sublist.subset (by simp))
      · rintro ⟨⟨fits, -⟩, nothing, -⟩
        exact ⟨fits, fun later mem => nothing later mem past⟩
    · rw [ih restAccepted (stays past)]
      constructor
      · rintro ⟨fits, restFits, restOrder⟩
        exact ⟨⟨fits, restFits⟩, fun later _ isPast => absurd isPast past, restOrder⟩
      · rintro ⟨⟨fits, restFits⟩, -, restOrder⟩
        exact ⟨fits, restFits, restOrder⟩

/-- The Request Report a device accepts an update with. -/
structure Acceptance where
  env : Surroundings
  attributes : AttributeMap
  status : attributes.uint8 "status" = some validCombo

/-- The event of an acceptance from a node. -/
def Acceptance.occurrence (acceptance : Acceptance) (nodeId : Nat) : Occurrence where
  env := acceptance.env
  event := ⟨.firmwareUpdateMdRequestReportReceived, nodeId, .zwaveReport acceptance.attributes⟩

theorem deliversTo_accepted {session : OtaSession} (running : sys.running = true)
    (found : sys.sessions.find nodeId = some session)
    (waiting : session.currentState = .startUpload) (acceptance : Acceptance)
    (stored : acceptance.env.getImage session.upload.imageName ≠ []) :
    DeliversTo (acceptance.env.getImage session.upload.imageName)
      session.firmwareMd.maxFragmentSize.toNat nodeId .uploadDeliverFirmwareChunks
      (step sys (acceptance.occurrence nodeId)) := by
  have handled : step sys (acceptance.occurrence nodeId) =
      sys.settle nodeId
        (transitionToState acceptance.env
          (OtaStepStartUpload.publishReport (sys.contextOf session) "accepted" none)
          .uploadPrepareTransfer) := by
    simp [step, running, Acceptance.occurrence, processEvent, found, routeEvent, endDelivery,
      contextOf, waiting, handlesExternalEvent, OtaStepStartUpload.handlesExternalEvent,
      handleEvent, OtaStepStartUpload.handleEvent, OtaStepStartUpload.handleRequestReport,
      acceptance.status, routeResult, OtaStepStartUpload.publishReport, applyTransition,
      applyResult, nextState, transitionTable]
  rw [handled, transitionToState_prepare_of_stored _ _ stored]
  refine ⟨?_,
    preparedSession (acceptance.env.getImage session.upload.imageName) session, ?_,
    rfl, rfl, rfl, rfl⟩
  · simp [settle, store, OtaState.isTerminal, preparedSession, running,
      OtaStepStartUpload.publishReport, contextOf]
  · simp [settle, store, OtaState.isTerminal, preparedSession, OtaStepStartUpload.publishReport,
      contextOf]

end

/-- In every accepted session, the Gets that arrive before the Status Report are served
exactly when none of them asks for a fragment after the range of an earlier one left the
image, and none asks for a fragment beyond the numbers of 16 bits. -/
theorem served_iff_servable {sys : OtaStateMachine} {nodeId : Nat} {session : OtaSession}
    (running : sys.running = true) (found : sys.sessions.find nodeId = some session)
    (waiting : session.currentState = .startUpload)
    (positive : 0 < session.firmwareMd.maxFragmentSize.toNat) (acceptance : Acceptance)
    (stored : acceptance.env.getImage session.upload.imageName ≠ []) {gets : List MdGet}
    (accepted : ∀ get ∈ gets, get.Accepted) :
    StepsMeet (getStep nodeId)
        (GetServed (acceptance.env.getImage session.upload.imageName)
          session.firmwareMd.maxFragmentSize.toNat nodeId)
        (step sys (acceptance.occurrence nodeId)) gets ↔
      Servable (acceptance.env.getImage session.upload.imageName).length
        session.firmwareMd.maxFragmentSize.toNat gets :=
  served_deliver_iff (acceptance.env.length_getImage_le session.upload.imageName)
    positive accepted (deliversTo_accepted running found waiting acceptance stored)

/-- A node with three bytes of firmware to come, in fragments of two bytes. -/
def sampleSurroundings : Surroundings where
  endpointNode := fun _ => 7
  nodeExists := fun _ => true
  firmwareMdReportGroup := fun _ => some (some ⟨0, 0, 2, 0, 0, 0xFF⟩)
  imageFile := fun _ => [10, 11, 12]
  enqueuesReport := fun _ => true
  acknowledgesNop := fun _ => true
  order := []

/-- The node is asked to take the firmware. -/
def sampleStarted : OtaStateMachine :=
  step initial ⟨sampleSurroundings, ⟨.mqttStartUpload, 2, .startFirmwareUpload 2 "fw.gbl" false⟩⟩

/-- It accepts. -/
def sampleAcceptance : Acceptance where
  env := sampleSurroundings
  attributes := [("status", .uint8 0xFF)]
  status := by decide

/-- A Get of a number of reports from a first one on. -/
def sampleGet (first count : UInt8) : MdGet where
  env := sampleSurroundings
  attributes := [("number_of_reports", .uint8 count), ("report_number_2", .uint8 first)]

/-- The device asks for three reports, and then for the first one again. -/
theorem not_served_repeatedGet :
    ¬StepsMeet (getStep 2) (GetServed [10, 11, 12] 2 2)
      (step sampleStarted (sampleAcceptance.occurrence 2)) [sampleGet 1 3, sampleGet 1 1] := by
  rintro ⟨-, repeated, -⟩
  obtain ⟨report, mem, -⟩ := repeated.answers 1 (by decide) (by decide) (by decide)
  have nothing : answer 2 (getStep 2 (step sampleStarted (sampleAcceptance.occurrence 2))
      (sampleGet 1 3)) (sampleGet 1 1) = [] := by decide +kernel
  rw [nothing] at mem
  cases mem

/-- The device asks for the two reports one by one, and then for the first one again. -/
theorem served_iff_servable_oneByOne :
    StepsMeet (getStep 2) (GetServed [10, 11, 12] 2 2)
      (step sampleStarted (sampleAcceptance.occurrence 2))
        [sampleGet 1 1, sampleGet 2 1, sampleGet 1 1] ↔
      Servable 3 2 [sampleGet 1 1, sampleGet 2 1, sampleGet 1 1] := by
  have found : ∃ session, sampleStarted.sessions.find 2 = some session ∧
      session.currentState = .startUpload ∧ session.firmwareMd.maxFragmentSize.toNat = 2 := by
    decide +kernel
  obtain ⟨session, isFound, waiting, size⟩ := found
  have image : sampleAcceptance.env.getImage session.upload.imageName = [10, 11, 12] := rfl
  have accepted : ∀ get ∈ [sampleGet 1 1, sampleGet 2 1, sampleGet 1 1], get.Accepted := by
    intro get mem
    simp only [List.mem_cons, List.not_mem_nil, or_false] at mem
    rcases mem with same | same | same <;> rw [same] <;>
      exact ⟨by decide, by decide, fun _ => rfl⟩
  have served := served_iff_servable (by decide +kernel) isFound waiting (by omega)
    sampleAcceptance (by simp [image]) accepted
  rwa [image, size] at served

end OtaStateMachine

end Ota
