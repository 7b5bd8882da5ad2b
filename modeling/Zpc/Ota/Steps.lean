import Zpc.Ota.Definitions

/-!
# The steps of a firmware update

The files of `components/ota/src/steps`: what each step does when its state is entered and
when an event arrives in it.  A step that throws returns no result code.
-/

namespace Ota

inductive StepResultCode where
  | stay
  | done
  | skip
  | fail
  deriving DecidableEq

/-- What a step returns, `none` when it throws, with the context it leaves. -/
abbrev StepResult := Option StepResultCode × Context

/-- A report without any optional key. -/
def MqttReport.blank (topic : ReportTopic) (nodeId : Nat) : MqttReport :=
  ⟨topic, nodeId, none, none, none, none, none, none, none, none⟩

namespace OtaSession

/-- The share of the image that was transferred, in percent. -/
def percentage (session : OtaSession) : UInt32 :=
  if 0 < session.transfer.imageSize then
    UInt32.ofNat (session.transfer.bytesTransferred.toNat * 100 / session.transfer.imageSize.toNat)
  else 0

/-- A report with the progress of the transfer. -/
def progressReport (session : OtaSession) (status : Option String) : MqttReport :=
  { MqttReport.blank .progressReport session.nodeId with
    imageSize := some session.transfer.imageSize
    currentSent := some session.transfer.bytesTransferred
    percentage := some session.percentage
    status := status }

end OtaSession

/-- What both terminal steps do on entry: the session is replaced, and a resolution that is
still paused is resumed if the endpoint is left in the attribute store. -/
def clearSession (env : Surroundings) (finalState : OtaState) (ctx : Context) : Context :=
  let cleared := { ctx with session := { OtaSession.ofNode 0 with currentState := finalState } }
  if env.nodeExists ctx.session.endpointNode && ctx.session.resolutionPaused then
    cleared.emit
      (.resumeNodeResolution ctx.session.nodeId ctx.session.endpointNode)
  else cleared

namespace OtaStepTransferDone

def onEnter (env : Surroundings) (ctx : Context) : StepResult :=
  (some .stay, clearSession env .transferDone ctx)

end OtaStepTransferDone

namespace OtaStepFailed

def onEnter (env : Surroundings) (ctx : Context) : StepResult :=
  (some .stay, clearSession env .failed ctx)

end OtaStepFailed

namespace OtaStepStartUpload

def rejectReasonFromStatus (status : UInt8) : String :=
  if status = 0x00 then "invalid_combination"
  else if status = 0x01 then "requires_authentication"
  else if status = 0x02 then "invalid_fragment_size"
  else if status = 0x03 then "not_downloadable"
  else if status = 0x04 then "invalid_hardware_version"
  else "unknown"

def handlesExternalEvent (eventType : ExternalEvent) : Bool :=
  eventType = .firmwareUpdateMdRequestReportReceived || eventType = .mqttAbort

def publishReport (ctx : Context) (reportStatus : String)
    (reportReason : Option String) : Context :=
  ctx.emit <| .published
    { MqttReport.blank .startFirmwareUploadReport ctx.session.nodeId with
      imageName := some ctx.session.upload.imageName
      status := some reportStatus
      reason := reportReason }

/-- The metadata that is read from the group. -/
def firmwareMdOf (group : FirmwareMdReportGroup) : OtaFirmwareMdMetadata where
  manufacturerId := group.manufacturerId
  firmwareId := group.firmware0Id
  maxFragmentSize := group.maxFragmentSize
  hardwareVersion := group.hardwareVersion
  numberOfFirmwareTargets := group.numberOfFirmwareTargets
  firmwareUpgradable := group.firmwareUpgradable = 0xFF

def onEnter (env : Surroundings) (ctx : Context) : StepResult :=
  let epNode := env.endpointNode ctx.session.nodeId
  if epNode = invalidNode then
    (some .fail, publishReport ctx "error" (some "invalid_node"))
  else
    let ctx := { ctx with session := { ctx.session with endpointNode := epNode } }
    match env.firmwareMdReportGroup epNode with
    | none => (some .fail, publishReport ctx "error" (some "unsupported_feature"))
    | some none => (none, ctx)
    | some (some group) =>
        let ctx := { ctx with session := { ctx.session with firmwareMd := firmwareMdOf group } }
        if ctx.session.firmwareMd.firmwareUpgradable = false then
          (some .fail, publishReport ctx "error" (some "firmware_not_upgradable"))
        else
          let imageData := env.getImage ctx.session.upload.imageName
          if imageData = [] then
            (some .fail, publishReport ctx "error" (some "image_not_found"))
          else
            (some .stay,
              { ctx with
                session := { ctx.session with
                  transfer := { ctx.session.transfer with
                    imageSize := UInt32.ofNat imageData.length
                    firmwareChecksum := TransportService.zwaveCrc16 0x1D0F imageData } } })

/-- The initial entry of `OtaStepStartUpload::handle_event`. -/
def handleEntry (env : Surroundings) (ctx : Context) : StepResult :=
  let session := ctx.session
  if env.nodeExists session.endpointNode = false then (some .fail, ctx)
  else
    (some .stay,
      ctx.emit <| .mdRequestGet
        { endpointNode := session.endpointNode
          manufacturerId := session.firmwareMd.manufacturerId
          firmwareId := session.firmwareMd.firmwareId
          checksum := session.transfer.firmwareChecksum
          firmwareTarget := session.upload.firmwareTarget
          fragmentSize := session.firmwareMd.maxFragmentSize
          activation := session.upload.waitForActivation
          hardwareVersion := session.firmwareMd.hardwareVersion })

def handleRequestReport (ctx : Context) (report : AttributeMap) : StepResult :=
  match report.uint8 "status" with
  | none => (some .fail, ctx)
  | some status =>
      if status = validCombo then (some .done, publishReport ctx "accepted" none)
      else
        (some .fail, publishReport ctx "rejected" (some (rejectReasonFromStatus status)))

/-- `OtaStepStartUpload::handle_event` of an event. -/
def handleEvent (ctx : Context) (event : ExternalEventData) : StepResult :=
  match event.event with
  | .firmwareUpdateMdRequestReportReceived =>
      match event.payload with
      | .zwaveReport report => handleRequestReport ctx report
      | _ => (some .fail, ctx)
  | .mqttAbort => (some .skip, publishReport ctx "aborted" none)
  | _ => (some .stay, ctx)

end OtaStepStartUpload

namespace OtaStepUploadPrepare

def pauseResolution (ctx : Context) : Context :=
  { ctx.emit (.pauseNodeResolution ctx.session.nodeId ctx.session.endpointNode) with
    session := { ctx.session with resolutionPaused := true } }

def onEnter (env : Surroundings) (ctx : Context) : StepResult :=
  let image := env.getImage ctx.session.upload.imageName
  let loaded :=
    { ctx with
      session := { ctx.session with
        transfer := { ctx.session.transfer with
          bytesTransferred := 0
          abortRequested := false }
        firmwareImageCache := image } }
  if image = [] then (some .fail, loaded)
  else
    let paused :=
      pauseResolution
        { loaded with
          session := { loaded.session with
            transfer := { loaded.session.transfer with
              imageSize := UInt32.ofNat image.length } } }
    (some .done, { paused with session := { paused.session with uploadInProgress := true } })

end OtaStepUploadPrepare

namespace OtaStepDeliverRequestedFirmwareChunks

def handlesExternalEvent (eventType : ExternalEvent) : Bool :=
  eventType = .firmwareUpdateMdGetReceived

def sendAbortMdReport (ctx : Context) (reportNumber : UInt16) : StepResult :=
  let sent := ctx.emit <| .mdReport
    { endpointNode := ctx.session.endpointNode
      reportNumber := reportNumber
      isLast := true
      data := List.replicate ctx.session.firmwareMd.maxFragmentSize.toNat 0xFF
      qosOffset := 1 }
  (some .stay, sent.emit (.published (sent.session.progressReport (some "aborted"))))

variable (session : OtaSession)

/-- `image_size` of a batch. -/
def batchImageSize : UInt32 := UInt32.ofNat session.firmwareImageCache.length

/-- `offset` of a report. -/
def reportOffset (currentReport : UInt16) : UInt32 :=
  (currentReport.toUInt32 - 1) * session.firmwareMd.maxFragmentSize.toUInt32

/-- `chunk_length` of a report. -/
def chunkLength (currentReport : UInt16) : UInt16 :=
  (min session.firmwareMd.maxFragmentSize.toUInt32
    (batchImageSize session - reportOffset session currentReport)).toUInt16

/-- The end of what a report carries. -/
def newTransferred (currentReport : UInt16) : UInt32 :=
  reportOffset session currentReport + (chunkLength session currentReport).toUInt32

/-- The report that is sent in a round of the loop. -/
def batchReport (numberOfReports : UInt8) (currentReport : UInt16) (index : Nat) : MdReport where
  endpointNode := session.endpointNode
  reportNumber := currentReport
  isLast := decide (batchImageSize session ≤ newTransferred session currentReport)
  data :=
    (session.firmwareImageCache.drop (reportOffset session currentReport).toNat).take
      (chunkLength session currentReport).toNat
  qosOffset := UInt32.ofNat (numberOfReports.toNat - index)

/-- The loop of `send_firmware_report_batch`, with the number of rounds that are left. -/
def sendReports (env : Surroundings) (numberOfReports : UInt8)
    (reportNumber : UInt16) : Nat -> Nat -> Context -> StepResult
  | 0, _, ctx => (some .stay, ctx)
  | rounds + 1, index, ctx =>
      let currentReport := reportNumber + UInt16.ofNat index
      if batchImageSize ctx.session ≤ reportOffset ctx.session currentReport then
        (some .done, ctx)
      else
        let sent := ctx.emit
          (.mdReport (batchReport ctx.session numberOfReports currentReport index))
        if env.enqueuesReport index = false then (some .stay, sent)
        else
          sendReports env numberOfReports reportNumber rounds (index + 1)
            { sent with
              session := { sent.session with
                transfer := { sent.session.transfer with
                  bytesTransferred :=
                    max (newTransferred sent.session currentReport)
                      sent.session.transfer.bytesTransferred } } }

def sendFirmwareReportBatch (env : Surroundings) (ctx : Context) (numberOfReports : UInt8)
    (reportNumber : UInt16) : StepResult :=
  sendReports env numberOfReports reportNumber numberOfReports.toNat 0 ctx

/-- End the transfer after a Get that cannot be served. -/
def refuse (ctx : Context) : StepResult :=
  (some .fail,
    { ctx with
      session := { ctx.session with
        uploadInProgress := false
        firmwareImageCache := [] } })

/-- The number of reports a Get asks for. -/
def numberOfReportsOf (attributes : AttributeMap) : UInt8 :=
  (attributes.uint8 "number_of_reports").getD 1

/-- The report number a Get starts at. -/
def reportNumberOf (attributes : AttributeMap) : UInt16 :=
  (((attributes.uint8 "report_number_1").getD 0).toUInt16 <<< 8) |||
    ((attributes.uint8 "report_number_2").getD 0).toUInt16

/-- `OtaStepDeliverRequestedFirmwareChunks::handle_event` of an event. -/
def handleEvent (env : Surroundings) (ctx : Context) (event : ExternalEventData) : StepResult :=
  match event.payload with
  | .zwaveReport attributes =>
      let numberOfReports := numberOfReportsOf attributes
      let reportNumber := reportNumberOf attributes
      if reportNumber = 0 then refuse ctx
      else if numberOfReports = 0 then refuse ctx
      else if ctx.session.transfer.abortRequested then
        sendAbortMdReport ctx reportNumber
      else if ctx.session.firmwareMd.maxFragmentSize = 0 then refuse ctx
      else sendFirmwareReportBatch env ctx numberOfReports reportNumber
  | _ => (some .stay, ctx)

end OtaStepDeliverRequestedFirmwareChunks

namespace OtaStepPublishTransferProgress

def onEnter (ctx : Context) : StepResult :=
  if ctx.session.transfer.imageSize = 0 then (some .done, ctx)
  else (some .done, ctx.emit (.published (ctx.session.progressReport none)))

end OtaStepPublishTransferProgress

namespace OtaStepRecordPendingTransferAbort

def onEnter (ctx : Context) : StepResult :=
  (some .done,
    { ctx with
      session := { ctx.session with
        transfer := { ctx.session.transfer with abortRequested := true } } })

end OtaStepRecordPendingTransferAbort

namespace OtaStepProcessDeviceTransferOutcome

def handlesExternalEvent (eventType : ExternalEvent) : Bool :=
  eventType = .firmwareUpdateMdStatusReportReceived

/-- The image is not kept after the outcome. -/
def clearImage (ctx : Context) : Context :=
  { ctx with session := { ctx.session with firmwareImageCache := [] } }

/-- A report of a transfer that is complete, with what the outcome adds to it. -/
def publishCompletion (ctx : Context) (status : String) (waittime : Option UInt16) : Context :=
  ctx.emit <| .published
    { MqttReport.blank .progressReport ctx.session.nodeId with
      imageSize := some ctx.session.transfer.imageSize
      currentSent := some ctx.session.transfer.imageSize
      percentage := some 100
      status := some status
      waittime := waittime }

/-- `OtaStepProcessDeviceTransferOutcome::handle_event` of an event. -/
def handleEvent (ctx : Context) (event : ExternalEventData) : StepResult :=
  match event.payload with
  | .zwaveReport attributes =>
      let session := ctx.session
      let status := (attributes.uint8 "status").getD 0
      let waitTime := (attributes.uint16 "waittime").getD 0
      if session.transfer.abortRequested && status = checksumError then
        let reported := ctx.emit (.published (session.progressReport (some "aborted")))
        (some .done, clearImage (OtaStepStartUpload.publishReport reported "aborted" none))
      else if status = statusSuccess then
        (some .done,
          clearImage <| publishCompletion
            { ctx with
              session := { session with
                waitTime := waitTime
                transferOutcome := .success } } "success" none)
      else if status = statusWaitForActivation then
        (some .done,
          clearImage <| publishCompletion
            { ctx with
              session := { session with
                waitTime := waitTime
                transferOutcome := .waitForActivation } } "waiting_for_activation" (some waitTime))
      else if status = statusStoredNoRestart then
        (some .done,
          clearImage <| publishCompletion
            { ctx with
              session := { session with transferOutcome := .storedNoRestart } }
            "stored_no_restart" (some waitTime))
      else
        (some .fail,
          clearImage <| ctx.emit <| .published
            { session.progressReport (some "failed") with statusCode := some status })
  | _ => (some .fail, clearImage ctx)

end OtaStepProcessDeviceTransferOutcome

namespace OtaStepWaitingForActivation

def handlesExternalEvent (eventType : ExternalEvent) : Bool := eventType = .mqttActivate

def onEnter (ctx : Context) : StepResult :=
  if ctx.session.resolutionPaused then
    (some .stay,
      { ctx.emit
          (.resumeNodeResolution ctx.session.nodeId ctx.session.endpointNode) with
        session := { ctx.session with resolutionPaused := false } })
  else (some .stay, ctx)

/-- `OtaStepWaitingForActivation::handle_event` of an event. -/
def handleEvent (ctx : Context) : StepResult :=
  let session := ctx.session
  (some .done,
    ctx.emit <| .activationSet
      { endpointNode := session.endpointNode
        manufacturerId := session.firmwareMd.manufacturerId
        firmwareId := session.firmwareMd.firmwareId
        checksum := session.transfer.firmwareChecksum
        firmwareTarget := session.upload.firmwareTarget
        hardwareVersion := session.firmwareMd.hardwareVersion })

end OtaStepWaitingForActivation

namespace OtaStepActivating

def handlesExternalEvent (eventType : ExternalEvent) : Bool :=
  eventType = .firmwareUpdateActivationStatusReport

/-- `OtaStepActivating::handle_event` of an event. -/
def handleEvent (ctx : Context) (event : ExternalEventData) : StepResult :=
  match event.payload with
  | .zwaveReport attributes =>
      let session := ctx.session
      let activationStatus := (attributes.uint8 "firmware_update_status").getD 0
      if activationStatus ≠ activationStatusSuccess then
        (some .fail,
          ctx.emit <| .published
            { MqttReport.blank .progressReport session.nodeId with
              status := some "failed"
              statusCode := some activationStatus })
      else
        (some .done,
          { ctx with
            session := { session with
              waitTime := (attributes.uint16 "waittime").getD session.waitTime } })
  | _ => (some .fail, ctx)

end OtaStepActivating

namespace OtaStepWaitingForReconnect

/-- `OtaStepWaitingForReconnect::on_enter`: the node is probed until a NOP is acknowledged. -/
def onEnter (env : Surroundings) (ctx : Context) : StepResult :=
  if (List.range maxNopRetries).any env.acknowledgesNop then (some .done, ctx)
  else (some .fail, ctx)

end OtaStepWaitingForReconnect

namespace OtaStepTriggerInterview

def onEnter (ctx : Context) : StepResult :=
  (some .done, ctx.emit (.nodeInterviewRequested ctx.session.nodeId))

end OtaStepTriggerInterview

end Ota
