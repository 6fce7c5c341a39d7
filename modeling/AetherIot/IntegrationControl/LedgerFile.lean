import AetherIot.Foundation.Bytes
import AetherIot.Foundation.JsonText
import AetherIot.IntegrationControl.Ledger

/-!
# The ledger file

The file ledger rewrites its file after every operation that changes the state.  Loading rebuilds
the state from the document in the file and refuses documents that no sequence of operations should
have written.
-/

namespace AetherIot.IntegrationControl

open MachineText OrderedMap CloudLink Bytes JsonText

def fileSchema : String := "aether.edge.integration-control-ledger.v1"

def maxFileBytes : Nat := 16 * 1024 * 1024

structure FileJob where
  key : LedgerJobKey
  entry : LedgerEntry
  deriving DecidableEq

structure FileDocument where
  schema : String
  nextPosition : UInt64
  jobs : List FileJob
  deliveries : List SpooledActionReceipt
  pendingPositions : List UInt64
  lastAck : Option CloudLinkDurableAck
  lastAckTerminal : Option SpooledActionReceipt
  deriving DecidableEq

def validateFileJob (fileJob : FileJob) : Except ControlStoreError Unit := do
  let rebuiltKey ← storeResult (LedgerJobKey.new fileJob.key.gatewayId fileJob.key.jobId)
  if rebuiltKey ≠ fileJob.key then .error {}
  else
    match fileJob.entry.state with
    | .inProgress claim =>
      let rebuilt ← storeResult (LedgerClaim.new rebuiltKey claim.intentDigest claim.target
        claim.value claim.auditRecordId)
      if rebuilt ≠ claim || claim.key ≠ fileJob.key ||
          claim.intentDigest ≠ fileJob.entry.intentDigest then .error {}
      else return ()
    | .complete receipt =>
      storeResult receipt.validateContract
      if receipt.jobId ≠ fileJob.key.jobId ||
          receipt.intentDigest ≠ fileJob.entry.intentDigest then .error {}
      else return ()

/-- Insert a job of the document; keys do not repeat. -/
def loadJob (jobs : BTreeMap LedgerJobKey LedgerEntry) (fileJob : FileJob) :
    Except ControlStoreError (BTreeMap LedgerJobKey LedgerEntry) := do
  validateFileJob fileJob
  if fileJob.key ∈ jobs then .error {} else return jobs.insert fileJob.key fileJob.entry

/-- The deliveries of a document, by receipt and by position. -/
structure LoadedDeliveries where
  byReceipt : BTreeMap String SpooledActionReceipt
  byPosition : BTreeMap UInt64 SpooledActionReceipt
  deriving DecidableEq

variable (digests : CanonicalDigests)

/-- Insert a delivery of the document; neither receipts nor positions repeat. -/
def loadDelivery (loaded : LoadedDeliveries) (delivery : SpooledActionReceipt) :
    Except ControlStoreError LoadedDeliveries := do
  delivery.validate digests
  if delivery.position ∈ loaded.byPosition ∨ delivery.payload.receiptId ∈ loaded.byReceipt then
    .error {}
  else
    return ⟨loaded.byReceipt.insert delivery.payload.receiptId delivery,
      loaded.byPosition.insert delivery.position delivery⟩

def loadPending (byPosition pending : BTreeMap UInt64 SpooledActionReceipt) (position : UInt64) :
    Except ControlStoreError (BTreeMap UInt64 SpooledActionReceipt) :=
  match byPosition[position]? with
  | none => .error {}
  | some delivery =>
    if position ∈ pending then .error {} else .ok (pending.insert position delivery)

/-- The receipt of a terminal job was spooled with the same contents. -/
def hasDelivery (deliveries : BTreeMap String SpooledActionReceipt) (entry : LedgerEntry) : Bool :=
  match entry.state with
  | .complete receipt =>
    deliveries[receipt.receiptId]?.any fun delivery => delivery.payload = receipt
  | .inProgress _ => true

def validateLastAck (nextPosition : UInt64) (deliveries : BTreeMap String SpooledActionReceipt)
    (pending : BTreeMap UInt64 SpooledActionReceipt) (lastAck : Option CloudLinkDurableAck)
    (lastAckTerminal : Option SpooledActionReceipt) : Except ControlStoreError Unit :=
  match lastAck, lastAckTerminal with
  | some ack, some terminal => do
      terminal.validate digests
      validateAckAgainstTerminal ack terminal
      if terminal.position ≥ nextPosition ||
          !(deliveries[terminal.payload.receiptId]?.any fun current =>
            current.payload = terminal.payload) ||
          (firstKey pending).any (fun position => position ≤ ack.acknowledgedPosition) then
        .error {}
      else return ()
  | none, none => .ok ()
  | _, _ => .error {}

/-- A delivery is pending exactly when it lies above the last acknowledgement. -/
def pendingAgrees (byPosition pending : BTreeMap UInt64 SpooledActionReceipt)
    (acknowledgedPosition : UInt64) : Bool :=
  byPosition.toList.all fun (position, delivery) =>
    decide (acknowledgedPosition < position) = decide (pending[position]? = some delivery)

def loadDocument (document : FileDocument) :
    Except ControlStoreError LedgerState := do
  if document.schema ≠ fileSchema || document.jobs.length > maxJobs ||
      document.deliveries.length > maxJobs || document.nextPosition = 0 then .error {}
  else
    let jobs ← document.jobs.foldlM loadJob ∅
    let loaded ← document.deliveries.foldlM (loadDelivery digests) ⟨∅, ∅⟩
    if loaded.byPosition.keys.getLast?.any (fun position => position ≥ document.nextPosition) then
      .error {}
    else if !(valueList jobs).all (hasDelivery loaded.byReceipt) then .error {}
    else
      let pending ← document.pendingPositions.foldlM (loadPending loaded.byPosition) ∅
      validateLastAck digests document.nextPosition loaded.byReceipt pending document.lastAck
        document.lastAckTerminal
      let acknowledgedPosition := (document.lastAck.map fun ack => ack.acknowledgedPosition).getD 0
      if !pendingAgrees loaded.byPosition pending acknowledgedPosition then .error {}
      else
        return { jobs
                 deliveries := loaded.byReceipt
                 pending
                 nextPosition := document.nextPosition
                 lastAck := document.lastAck
                 lastAckTerminal := document.lastAckTerminal }

def load (codec : Codec FileDocument) (file : Option (List UInt8)) :
    Except ControlStoreError LedgerState :=
  match file with
  | none => .ok .empty
  | some bytes =>
    if bytes.length = 0 ∨ bytes.length > maxFileBytes then .error {}
    else
      match codec.decode bytes with
      | .error _ => .error {}
      | .ok document => loadDocument digests document

def LedgerState.document (state : LedgerState) : FileDocument where
  schema := fileSchema
  nextPosition := state.nextPosition
  jobs := state.jobs.toList.map fun (key, entry) => ⟨key, entry⟩
  deliveries := valueList state.deliveries
  pendingPositions := state.pending.keys
  lastAck := state.lastAck
  lastAckTerminal := state.lastAckTerminal

/-- How far the replacement of the file gets: it fails before the rename, or when the directory is
synchronised after it. -/
inductive PersistOutcome where
  | written
  | failed (replaced : Bool)
  deriving DecidableEq

/-- Replace the file.  The result is the file afterwards. -/
def persist (codec : Codec FileDocument) (file : Option (List UInt8)) (state : LedgerState)
    (outcome : PersistOutcome) : Option (List UInt8) × Except ControlStoreError Unit :=
  match codec.encode state.document with
  | .error _ => (file, .error {})
  | .ok bytes =>
    if bytes.isEmpty || bytes.length > maxFileBytes then (file, .error {})
    else
      match outcome with
      | .written => (some bytes, .ok ())
      | .failed replaced => (if replaced then some bytes else file, .error {})

/-- An open ledger and its file. -/
structure FileLedger where
  file : Option (List UInt8)
  state : LedgerState
  deriving DecidableEq

namespace FileLedger

def openLedger (digests : CanonicalDigests) (codec : Codec FileDocument)
    (file : Option (List UInt8)) (outcome : PersistOutcome) :
    Option (List UInt8) × Except ControlStoreError FileLedger :=
  match load digests codec file with
  | .error failure => (file, .error failure)
  | .ok state =>
    match file with
    | some bytes => (file, .ok ⟨some bytes, state⟩)
    | none =>
      match persist codec none state outcome with
      | (created, .error failure) => (created, .error failure)
      | (created, .ok ()) => (created, .ok ⟨created, state⟩)

/-- Keep the result of an operation once it has been persisted. -/
def mutate {α : Type} (codec : Codec FileDocument) (ledger : FileLedger)
    (operation : Except ControlStoreError (LedgerState × α)) (outcome : PersistOutcome) :
    FileLedger × Except ControlStoreError α :=
  match operation with
  | .error failure => (ledger, .error failure)
  | .ok (next, result) =>
    if next = ledger.state then (ledger, .ok result)
    else
      match persist codec ledger.file next outcome with
      | (file, .error failure) => (⟨file, ledger.state⟩, .error failure)
      | (file, .ok ()) => (⟨file, next⟩, .ok result)

end FileLedger

/-- The mutations of a ledger. -/
inductive LedgerOperation where
  | claim (claim : LedgerClaim)
  | complete (key : LedgerJobKey) (intentDigest : String) (receipt : ActionReceiptPayload)
  | requeue (key : LedgerJobKey)
  | acknowledge (ack : CloudLinkDurableAck)
  deriving DecidableEq

inductive LedgerReply where
  | claim (outcome : LedgerClaimOutcome)
  | completed
  | requeued
  | acknowledged (outcome : DurableAckOutcome)
  deriving DecidableEq

/-- The state an operation of the file ledger computes. -/
def LedgerState.compute (state : LedgerState) :
    LedgerOperation → Except ControlStoreError (LedgerState × LedgerReply)
  | .claim claim => (state.claim claim).map (Prod.map id .claim)
  | .complete key intentDigest receipt =>
    (state.complete digests key intentDigest receipt).map (Prod.map id fun () => .completed)
  | .requeue key => (state.requeue digests key).map (Prod.map id fun () => .requeued)
  | .acknowledge ack => (state.acknowledge ack).map (Prod.map id .acknowledged)

def FileLedger.perform (codec : Codec FileDocument) (ledger : FileLedger)
    (operation : LedgerOperation) (outcome : PersistOutcome) :
    FileLedger × Except ControlStoreError LedgerReply :=
  ledger.mutate codec (ledger.state.compute digests operation) outcome

def MemoryState.perform (state : MemoryState) :
    LedgerOperation → MemoryState × Except ControlStoreError LedgerReply
  | .claim claim => Prod.map id (fun outcome => .ok (.claim outcome)) (state.claim claim)
  | .complete key intentDigest receipt =>
    Prod.map id (Except.map fun () => .completed) (state.complete digests key intentDigest receipt)
  | .requeue key => Prod.map id (Except.map fun () => .requeued) (state.requeue digests key)
  | .acknowledge ack => Prod.map id (Except.map .acknowledged) (state.acknowledge ack)

def ActionTarget.json (target : ActionTarget) : List UInt8 :=
  jsonObject [("integration_id", quoted target.integrationId),
    ("snapshot_generation", quoted target.snapshotGeneration),
    ("entity_id", quoted target.entityId), ("point_key", quoted target.pointKey)]

def ActionReceiptStage.json : ActionReceiptStage → List UInt8
  | .edgeAccepted => quoted "edge-accepted"
  | .providerAccepted => quoted "provider-accepted"
  | .edgeRejected => quoted "edge-rejected"
  | .providerRejected => quoted "provider-rejected"
  | .unknown => quoted "unknown"

def ActionDecision.json : ActionDecision → List UInt8
  | .accepted => quoted "accepted"
  | .rejected => quoted "rejected"
  | .unknown => quoted "unknown"

def AuditStatus.json : AuditStatus → List UInt8
  | .complete => quoted "complete"
  | .incomplete => quoted "incomplete"

def PhysicalOutcome.json : PhysicalOutcome → List UInt8
  | .unknown => quoted "unknown"

def ActionReceiptPayload.json (receipt : ActionReceiptPayload) : List UInt8 :=
  jsonObject ([("schema", quoted receipt.schema), ("job_id", quoted receipt.jobId),
      ("receipt_id", quoted receipt.receiptId),
      ("receipt_sequence", quoted receipt.receiptSequence),
      ("capability_id", quoted receipt.capabilityId), ("target", receipt.target.json),
      ("intent_digest", quoted receipt.intentDigest), ("stage", receipt.stage.json),
      ("decision", receipt.decision.json), ("physical_outcome", receipt.physicalOutcome.json),
      ("observed_at_ms", quoted receipt.observedAtMs)] ++
    optionalField "evidence_digest" receipt.evidenceDigest ++
    optionalField "failure_code" receipt.failureCode ++
    [("audit", jsonObject [("audit_record_id", quoted receipt.audit.auditRecordId),
      ("status", receipt.audit.status.json)])])

def SpooledActionReceipt.json (delivery : SpooledActionReceipt) : List UInt8 :=
  jsonObject [("stream_epoch", jsonNumber delivery.streamEpoch),
    ("position", jsonNumber delivery.position), ("batch_id", quoted delivery.batchId),
    ("digest", quoted delivery.digest), ("sent_at_ms", jsonNumber delivery.sentAtMs),
    ("payload", delivery.payload.json)]

def LedgerJobKey.json (key : LedgerJobKey) : List UInt8 :=
  jsonObject [("gateway_id", quoted key.gatewayId), ("job_id", quoted key.jobId)]

def LedgerClaim.json (claim : LedgerClaim) : List UInt8 :=
  jsonObject [("key", claim.key.json), ("intent_digest", quoted claim.intentDigest),
    ("target", claim.target.json), ("value", utf8 (if claim.value then "true" else "false")),
    ("audit_record_id", quoted claim.auditRecordId)]

def LedgerEntryState.json : LedgerEntryState → List UInt8
  | .inProgress claim => jsonObject [("state", quoted "in-progress"), ("value", claim.json)]
  | .complete receipt => jsonObject [("state", quoted "complete"), ("value", receipt.json)]

def FileJob.json (fileJob : FileJob) : List UInt8 :=
  jsonObject [("key", fileJob.key.json), ("entry", jsonObject
    [("intent_digest", quoted fileJob.entry.intentDigest), ("state", fileJob.entry.state.json)])]

def ackJson (ack : CloudLinkDurableAck) : List UInt8 :=
  jsonObject [("session", jsonObject [("session_id", quoted ack.session.sessionId),
      ("session_epoch", jsonNumber ack.session.sessionEpoch)]),
    ("stream_id", quoted ack.streamId), ("stream_epoch", jsonNumber ack.streamEpoch),
    ("acknowledged_position", jsonNumber ack.acknowledgedPosition),
    ("batch_id", quoted ack.batchId), ("digest", quoted ack.digest),
    ("receipt_id", quoted ack.receiptId)]

def FileDocument.json (document : FileDocument) : List UInt8 :=
  jsonObject [("schema", quoted document.schema),
    ("next_position", jsonNumber document.nextPosition),
    ("jobs", jsonArray (document.jobs.map FileJob.json)),
    ("deliveries", jsonArray (document.deliveries.map SpooledActionReceipt.json)),
    ("pending_positions", jsonArray (document.pendingPositions.map jsonNumber)),
    ("last_ack", (document.lastAck.map ackJson).getD (utf8 "null")),
    ("last_ack_terminal", (document.lastAckTerminal.map SpooledActionReceipt.json).getD (utf8 "null"))]

/-- A codec that writes the listed documents as the file has them. -/
def FileDocument.codec (documents : List FileDocument)
    (distinct : (documents.map fun document => document.json.length).Nodup) :
    Codec FileDocument :=
  .ofTable (documents.map fun document => (document, document.json)) (by
    rw [List.map_map]
    exact List.Nodup.of_map List.length (by rwa [List.map_map]))

/-- The documents of the states that successful operations compute in turn. -/
def documentsAlong (digests : CanonicalDigests) (state : LedgerState) :
    List LedgerOperation → List FileDocument
  | [] => []
  | operation :: operations =>
    match state.compute digests operation with
    | .error _ => documentsAlong digests state operations
    | .ok (next, _) => next.document :: documentsAlong digests next operations

end AetherIot.IntegrationControl
