import AetherIot.Foundation.Interaction
import AetherIot.Io.Iec61850.Mms
import AetherIot.Io.ShmStore

/-!
# The IEC 61850 channel

A channel reads its points one by one over one association with the server and takes values from the
reports that the server sends meanwhile.  The operations are programs that ask the framing layer to
connect, to send a request and wait for its response, and for the reports that have arrived.
-/

namespace AetherIot.Io

open Interaction

/-- A poll result with stamped points. -/
structure StampedPoll where
  data : List StampedPoint
  failures : List PointFailure

namespace Iec61850

structure ReportConfig where
  rcbRef : String
  datasetMembers : List String
  deriving DecidableEq

structure Address where
  domain : String
  item : String
  ctrlModel : UInt8
  deriving DecidableEq

def Address.path (address : Address) : String := address.domain ++ "/" ++ address.item

/-- A configured point.  A point of another protocol has no address here. -/
structure PointSetting where
  id : UInt32
  pointType : PointType
  address : Option Address
  transform : TransformConfig
  enabled : Bool

/-- A point that is polled on every cycle. -/
structure PointEntry where
  domain : String
  item : String
  id : UInt32
  pointType : PointType
  transform : TransformConfig
  acquired : pointType = .telemetry ∨ pointType = .signal

def PointEntry.path (entry : PointEntry) : String := entry.domain ++ "/" ++ entry.item

/-- A point that is written on demand. -/
structure WriteEntry where
  domain : String
  item : String
  ctrlModel : UInt8
  deriving DecidableEq

structure Channel where
  connected : Bool
  state : ConnectionState
  invokeId : UInt8
  points : List PointEntry
  ctrlPoints : List (UInt32 × WriteEntry)
  adjPoints : List (UInt32 × WriteEntry)
  reportConfigs : List ReportConfig
  pathToPoint : String → Option PointEntry
  reportSkipSet : List UInt32

/-- Insertion into a map: the value of an earlier entry with the key is replaced. -/
def insertEntry (entries : List (UInt32 × WriteEntry)) (key : UInt32) (entry : WriteEntry) :
    List (UInt32 × WriteEntry) :=
  if entries.any fun other => other.1 = key then
    entries.map fun other => if other.1 = key then (key, entry) else other
  else entries ++ [(key, entry)]

def lookupEntry (entries : List (UInt32 × WriteEntry)) (key : UInt32) : Option WriteEntry :=
  (entries.find? fun entry => entry.1 = key).map Prod.snd

def pollEntry (setting : PointSetting) : Option PointEntry :=
  match setting.enabled, setting.address, setting.pointType with
  | true, some address, .telemetry =>
    some ⟨address.domain, address.item, setting.id, .telemetry, setting.transform, .inl rfl⟩
  | true, some address, .signal =>
    some ⟨address.domain, address.item, setting.id, .signal, setting.transform, .inr rfl⟩
  | _, _, _ => none

/-- The enabled points of a written kind. -/
def writeEntries (kind : PointType) (settings : List PointSetting) : List (UInt32 × WriteEntry) :=
  settings.foldl (fun entries setting =>
    match setting.enabled, setting.address with
    | true, some address =>
      if setting.pointType = kind then
        insertEntry entries setting.id ⟨address.domain, address.item, address.ctrlModel⟩
      else entries
    | _, _ => entries) []

/-- The map from the path of a point to the point; the last point with a path is kept. -/
def pathMap (entries : List PointEntry) : String → Option PointEntry :=
  entries.foldl (fun map entry => Function.update map entry.path (some entry)) fun _ => none

def skipSet (reports : List ReportConfig) (pathToPoint : String → Option PointEntry) :
    List UInt32 :=
  reports.flatMap fun report =>
    report.datasetMembers.filterMap fun path => (pathToPoint path).map PointEntry.id

def Channel.new (reports : List ReportConfig) (settings : List PointSetting) : Channel :=
  let points := settings.filterMap pollEntry
  { connected := false
    state := .disconnected
    invokeId := 1
    points := points
    ctrlPoints := writeEntries .control settings
    adjPoints := writeEntries .adjustment settings
    reportConfigs := reports
    pathToPoint := pathMap points
    reportSkipSet := skipSet reports (pathMap points) }

inductive GatewayError where
  | connectionTimeout (millis : Nat)
  | readTimeout
  | writeTimeout
  | io (message : String)
  | protocol (message : String)
  deriving DecidableEq

def GatewayError.text : GatewayError → String
  | .connectionTimeout millis => s!"Connection timeout after {millis}ms"
  | .readTimeout => "Read timeout"
  | .writeTimeout => "Write timeout"
  | .io message => "IO error: " ++ message
  | .protocol message => "Protocol error: " ++ message

/-- What a request to the server asks for. -/
inductive Service where
  | read (domain item : String)
  | selectSbo (domain item : String)
  | selectSbow (domain item : String) (value : Bool)
  | operate (domain item : String) (value : Bool)
  | writeFloat (domain item : String) (value : Float32)
  | writeSimple (domain item : String) (value : Bool)

inductive LinkRequest where
  /-- Connect and shake hands. -/
  | connect
  /-- Send a request and wait for the next unit that is not a report. -/
  | transact (invokeId : UInt8) (service : Service)
  /-- Reports that have arrived by now. -/
  | drainSocket
  /-- Reports that arrived while responses were awaited. -/
  | takePendingReports

abbrev LinkReply : LinkRequest → Type
  | .connect => Except GatewayError Unit
  | .transact _ _ => Except GatewayError (List UInt8)
  | .drainSocket => List (List UInt8)
  | .takePendingReports => List (List UInt8)

abbrev Program := Interaction LinkReply Fault

def tryConnect : Program (Except GatewayError Unit) := send LinkRequest.connect

def doRequestRaw (invokeId : UInt8) (service : Service) :
    Program (Except GatewayError (List UInt8)) :=
  send (LinkRequest.transact invokeId service)

def drainSocket : Program (List (List UInt8)) := send LinkRequest.drainSocket

def takePendingReports : Program (List (List UInt8)) :=
  send LinkRequest.takePendingReports

/-- The result of a decoder.  An error that is not a panic becomes an error of the protocol. -/
def decoded {α : Type} (context : String) : Except Fault α → Except Fault (Except GatewayError α)
  | .ok value => .ok (.ok value)
  | .error (.error message) =>
    .ok (.error (.protocol (context ++ (GatewayError.protocol message).text)))
  | .error .panicked => .error .panicked

def readOutcome : Except GatewayError (List UInt8) → Except Fault (Except GatewayError MmsValue)
  | .error error => .ok (.error error)
  | .ok response =>
    decoded "IEC 61850: parse response: " ((parseReadResponse response).map Prod.snd)

/-- Whether the response to a write reports success. -/
def writeOutcome : Except GatewayError (List UInt8) → Except Fault (Except GatewayError Unit)
  | .error error => .ok (.error error)
  | .ok response =>
    decoded "IEC 61850: write response: " ((parseWriteResponse response).map fun _ => ())

def readVariable (invokeId : UInt8) (domain item : String) :
    Program (Except GatewayError MmsValue) := do
  let reply ← doRequestRaw invokeId (.read domain item)
  ofExcept (readOutcome reply)

def doWrite (invokeId : UInt8) (service : Service) : Program (Except GatewayError Unit) := do
  let reply ← doRequestRaw invokeId service
  ofExcept (writeOutcome reply)

namespace Channel

variable (channel : Channel)

/-- The identifier of the next request; it counts from 1 to 255 and around. -/
def nextInvokeId : UInt8 × Channel :=
  (channel.invokeId, { channel with
    invokeId := if channel.invokeId = 255 then 1 else channel.invokeId + 1 })

def goDisconnected : Channel :=
  { channel with connected := false, state := .disconnected }

/-- The text before and after the first occurrence of a separator. -/
def splitOnce (separator : List Char) : List Char → Option (List Char × List Char)
  | [] => if separator = [] then some ([], []) else none
  | first :: rest =>
    if separator <+: first :: rest then some ([], (first :: rest).drop separator.length)
    else (splitOnce separator rest).map fun (before, after) => (first :: before, after)

def deriveCtlmodelItem (item : String) : Option String :=
  (splitOnce "$CO$".toList item.toList).map fun (node, rest) =>
    String.ofList node ++ "$CF$" ++ String.ofList (rest.takeWhile (· ≠ '$')) ++ "$ctlModel"

/-- A point whose control model is to be read. -/
structure ModelProbe where
  isCtrl : Bool
  id : UInt32
  domain : String
  item : String

def modelProbes (isCtrl : Bool) (entries : List (UInt32 × WriteEntry)) : List ModelProbe :=
  entries.filterMap fun (id, entry) =>
    (deriveCtlmodelItem entry.item).map fun item => ⟨isCtrl, id, entry.domain, item⟩

def setModel (entries : List (UInt32 × WriteEntry)) (id : UInt32) (model : UInt8) :
    List (UInt32 × WriteEntry) :=
  entries.map fun entry =>
    if entry.1 = id then (entry.1, { entry.2 with ctrlModel := model }) else entry

def recordModel (probe : ModelProbe) (model : UInt8) : Channel :=
  if probe.isCtrl then { channel with ctrlPoints := setModel channel.ctrlPoints probe.id model }
  else { channel with adjPoints := setModel channel.adjPoints probe.id model }

/-- Read the control models one by one.  A failure of the transport ends the detection, and the
channel stays connected. -/
def detectModels : List ModelProbe → Channel → Program Channel
  | [], channel => .done channel
  | probe :: probes, channel => do
      match ← readVariable channel.nextInvokeId.1 probe.domain probe.item with
      | .ok (.integer value) =>
        detectModels probes (channel.nextInvokeId.2.recordModel probe value.toUInt64.toUInt8)
      | .ok (.unsigned value) =>
        detectModels probes (channel.nextInvokeId.2.recordModel probe value.toUInt8)
      | .ok _ => detectModels probes channel.nextInvokeId.2
      | .error _ => .done channel.nextInvokeId.2

def detectCtrlModels : Program Channel :=
  detectModels (modelProbes true channel.ctrlPoints ++ modelProbes false channel.adjPoints) channel

def splitRcbRef (rcbRef : String) : Option (String × String) :=
  (splitOnce ['/'] rcbRef.toList).map fun (domain, item) =>
    (String.ofList domain, String.ofList item)

inductive RcbWriteResult where
  | ok
  | notFound
  | err (error : GatewayError)
  deriving DecidableEq

/-- How a failed attribute write counts.  Any text with error code 10 in it means that the block does
not exist. -/
def rcbWriteResult : Except GatewayError Unit → RcbWriteResult
  | .ok () => .ok
  | .error error =>
    if "error code 10".toList <:+: error.text.toList then .notFound else .err error

def tryRcbWriteBool (domain baseItem name : String) (value : Bool) :
    Program (Channel × RcbWriteResult) := do
  let outcome ← doWrite channel.nextInvokeId.1 (.writeSimple domain (baseItem ++ "$" ++ name) value)
  return (channel.nextInvokeId.2, rcbWriteResult outcome)

/-- Ask for a report of the whole dataset.  A failure is only logged. -/
def interrogate (domain resolvedBase : String) : Program Channel := do
  let _ ← doWrite channel.nextInvokeId.1 (.writeSimple domain (resolvedBase ++ "$GI") true)
  return channel.nextInvokeId.2

/-- Enable one report control block, under its configured name or with the suffix 01. -/
def subscribeReport (domain baseItem : String) : Program Channel := do
  match ← channel.tryRcbWriteBool domain baseItem "RptEna" true with
  | (channel, .ok) => channel.interrogate domain baseItem
  | (channel, .err _) => .done channel
  | (channel, .notFound) =>
    match ← channel.tryRcbWriteBool domain (baseItem ++ "01") "RptEna" true with
    | (channel, .ok) => channel.interrogate domain (baseItem ++ "01")
    | (channel, .notFound) => .done channel
    | (channel, .err _) => .done channel

def subscribeAll : List (String × String) → Channel → Program Channel
  | [], channel => .done channel
  | (domain, baseItem) :: rest, channel => do
      let channel ← channel.subscribeReport domain baseItem
      subscribeAll rest channel

def subscribeReports : Program Channel :=
  subscribeAll (channel.reportConfigs.filterMap fun report => splitRcbRef report.rcbRef) channel

def connect : Program (Channel × Except GatewayError Unit) := do
  match ← tryConnect with
  | .error error => .done ({ channel with state := .error }, .error error)
  | .ok () =>
    let channel ← ({ channel with connected := true, state := .connected }).detectCtrlModels
    let channel ← channel.subscribeReports
    return (channel, .ok ())

def disconnect : Channel := channel.goDisconnected

end Channel

def mmsToValue : MmsValue → Value
  | .float32 bits => .float (Float32.ofBits bits).toFloat
  | .float64 bits => .float (Float.ofBits bits)
  | .integer value => .integer value.toInt
  | .unsigned value => .integer value.toInt64.toInt
  | .boolean value => .bool value
  | .visibleString text => .text text
  | _ => .null

/-- The point for a value that was read or reported.  The clock is taken to stand still within a
cycle. -/
def stampedPoint (now : Int) (entry : PointEntry) (value : MmsValue) (source : Option Int) :
    StampedPoint where
  id := entry.id
  pointType := entry.pointType
  value := applyTransform (mmsToValue value) entry.transform
  quality := .good
  timestamp := now
  sourceTimestamp := source

namespace Channel

variable (channel : Channel)

/-- The point and the value of one included element, matched against one dataset by position. -/
def matchElement (members : List String) (report : ParsedReport) (element : Nat × Nat) :
    Option (PointEntry × MmsValue) := do
  let path ← members[element.1]?
  let entry ← channel.pathToPoint path
  let value ← report.values[element.2]?
  if value.isOk then some (entry, value) else none

/-- The points of one report: its elements matched against every configured dataset. -/
def reportPoints (now : Int) (report : ParsedReport) : List StampedPoint :=
  channel.reportConfigs.flatMap fun config =>
    report.elementIndices.zipIdx.filterMap fun element =>
      (channel.matchElement config.datasetMembers report element).map fun (entry, value) =>
        stampedPoint now entry value (report.timestampMs.map Int.ofNat)

def processReportPdus (channel : Channel) (now : Int) :
    List (List UInt8) → Except Fault (List StampedPoint)
  | [] => .ok []
  | pdu :: pdus => do
      let report ← parseReport pdu
      let rest ← processReportPdus channel now pdus
      return (match report with
        | some report => channel.reportPoints now report
        | none => []) ++ rest

/-- What a cycle has collected. -/
structure Collected where
  batch : List StampedPoint
  failures : List PointFailure

def Collected.add (collected : Collected) (point : StampedPoint) : Collected :=
  { collected with batch := collected.batch ++ [point] }

def Collected.fail (collected : Collected) (id : UInt32) (message : String) : Collected :=
  { collected with failures := collected.failures ++ [⟨id, message⟩] }

/-- The message for a point whose read did not return. -/
def transportFailure : GatewayError → String
  | .readTimeout | .writeTimeout => "read timeout"
  | error => error.text

/-- Read the points that no report covers.  A failure of the transport ends the cycle. -/
def pollPoints (now : Int) : List PointEntry → Channel → Collected → Program (Channel × Collected)
  | [], channel, collected => .done (channel, collected)
  | entry :: entries, channel, collected =>
    if entry.id ∈ channel.reportSkipSet then pollPoints now entries channel collected
    else do
      match ← readVariable channel.nextInvokeId.1 entry.domain entry.item with
      | .ok (.failure code) =>
        pollPoints now entries channel.nextInvokeId.2
          (collected.fail entry.id s!"MMS data-access error {code.toNat}")
      | .ok value =>
        pollPoints now entries channel.nextInvokeId.2
          (collected.add (stampedPoint now entry value none))
      | .error error =>
        .done (channel.nextInvokeId.2.goDisconnected,
          collected.fail entry.id (transportFailure error))

/-- Reports of the socket or of the buffer, unless none are configured or the channel is down. -/
def collectReports (source : Program (List (List UInt8))) : Program (List (List UInt8)) :=
  if channel.reportConfigs ≠ [] ∧ channel.connected then source else .done []

def pollOnce (now : Int) : Program (Channel × StampedPoll) :=
  if channel.state ≠ .connected then .done (channel, ⟨[], []⟩)
  else do
    let drained ← channel.collectReports drainSocket
    let (channel, collected) ← pollPoints now channel.points channel ⟨[], []⟩
    let pending ← channel.collectReports takePendingReports
    let reported ← ofExcept (channel.processReportPdus now (drained ++ pending))
    return (channel, ⟨collected.batch ++ reported, collected.failures⟩)

/-- What became of the selection before an operation. -/
inductive Selection where
  | selected
  | refused
  | broken
  deriving DecidableEq

/-- The answer to a selection by reading. -/
def selectionOutcome : Except GatewayError (List UInt8) → Except Fault Selection
  | .error _ => .ok .broken
  | .ok response =>
    match parseReadResponse response with
    | .error .panicked => .error .panicked
    | .ok (_, .visibleString text) => .ok (if text = "" then .refused else .selected)
    | _ => .ok .refused

/-- Select a control object if its model asks for that. -/
def select (entry : WriteEntry) (value : Bool) : Program (Channel × Selection) :=
  if entry.ctrlModel = 2 then do
    let reply ← doRequestRaw channel.nextInvokeId.1 (.selectSbo entry.domain entry.item)
    let selection ← ofExcept (selectionOutcome reply)
    return (channel.nextInvokeId.2, selection)
  else if entry.ctrlModel = 4 then do
    match ← doWrite channel.nextInvokeId.1 (.selectSbow entry.domain entry.item value) with
    | .ok () => return (channel.nextInvokeId.2, .selected)
    | .error _ => return (channel.nextInvokeId.2, .broken)
  else .done (channel, .selected)

/-- Operate the commands one by one and count those that succeed.  A failure disconnects and ends the
series; a refused selection skips its command. -/
def operateAll : List (UInt32 × Float) → Channel → Nat → Program (Channel × Nat)
  | [], channel, count => .done (channel, count)
  | (id, value) :: commands, channel, count =>
    match lookupEntry channel.ctrlPoints id with
    | none => operateAll commands channel count
    | some entry => do
        match ← channel.select entry (value != 0.0) with
        | (channel, .broken) => .done (channel.goDisconnected, count)
        | (channel, .refused) => operateAll commands channel count
        | (channel, .selected) =>
          match ← doWrite channel.nextInvokeId.1
            (.operate entry.domain entry.item (value != 0.0)) with
          | .ok () => operateAll commands channel.nextInvokeId.2 (count + 1)
          | .error _ => .done (channel.nextInvokeId.2.goDisconnected, count)

def writeControl (commands : List (UInt32 × Float)) : Program (Channel × Nat) :=
  if channel.state ≠ .connected then .done (channel, 0) else operateAll commands channel 0

def adjustAll : List (UInt32 × Float) → Channel → Nat → Program (Channel × Nat)
  | [], channel, count => .done (channel, count)
  | (id, value) :: adjustments, channel, count =>
    match lookupEntry channel.adjPoints id with
    | none => adjustAll adjustments channel count
    | some entry => do
        match ← doWrite channel.nextInvokeId.1
          (.writeFloat entry.domain entry.item value.toFloat32) with
        | .ok () => adjustAll adjustments channel.nextInvokeId.2 (count + 1)
        | .error _ => .done (channel.nextInvokeId.2.goDisconnected, count)

def writeAdjustment (adjustments : List (UInt32 × Float)) : Program (Channel × Nat) :=
  if channel.state ≠ .connected then .done (channel, 0) else adjustAll adjustments channel 0

end Channel

end Iec61850

end AetherIot.Io
