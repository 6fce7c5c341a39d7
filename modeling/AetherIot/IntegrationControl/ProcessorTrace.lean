import AetherIot.Foundation.Attempt
import AetherIot.IntegrationControl.Processor

/-!
# What a processor call asks

Whatever its components answer, a call asks the provider to execute only the target and value of the
offer it was given, and only right after the audit record of the dispatch was returned and the job
was claimed.  Replays, rejections and recovery never ask the provider.
-/

namespace AetherIot.IntegrationControl

inductive ControlCall where
  | process (processor : IntegrationControlProcessor) (bytes : List UInt8)
  | recoverInterrupted (processor : IntegrationControlProcessor)

inductive ControlOutcome where
  | processed (receipt : ProcessedReceipt)
  | recovered (receipts : List ProcessedReceipt)

def ControlCall.gatewayId : ControlCall → String
  | .process processor _ => processor.session.gatewayId
  | .recoverInterrupted processor => processor.session.gatewayId

variable (digests : CanonicalDigests)

section

variable (parse : List UInt8 → Option ActionOffer)

def ControlCall.program : ControlCall → ControlProgram ControlOutcome
  | .process processor bytes => do
      let receipt ← IntegrationControl.process digests parse processor bytes
      return .processed receipt
  | .recoverInterrupted _ => do
      let receipts ← IntegrationControl.recoverInterrupted
      return .recovered receipts

abbrev ControlExchange : Type := Exchange ControlRequest.Reply

/-- The audit record of a dispatch was returned. -/
def authorizedExchange (offer : ActionOffer) (record : AuditRecord) : ControlExchange :=
  ⟨.record ⟨.dispatchAuthorized, offer.jobId, offer.intentDigest, none⟩, .ok record⟩

/-- The job of the offer was claimed. -/
def claimedExchange (offer : ActionOffer) (record : AuditRecord) : ControlExchange :=
  ⟨.claim ⟨.fromOffer offer, offer.intentDigest, offer.intent.target, offer.intent.value,
    record.recordId⟩, .ok .claimed⟩

/-- The call is of an enabled processor, and its offer passes the checks of the session. -/
def ControlCall.Offered (call : ControlCall) (offer : ActionOffer) : Prop :=
  ∃ processor bytes, call = .process processor bytes ∧ processor.config.enabled = true ∧
    digests.decodeOffer parse bytes = .ok offer ∧ validateSession processor.session offer = .ok ()

/-- The exchanges and the offer that an execution follows. -/
structure Dispatches (call : ControlCall)
    (earlier : List ControlExchange) (action : IntegrationPowerAction) (offer : ActionOffer)
    (record : AuditRecord) : Prop where
  offered : call.Offered digests parse offer
  authorized : ∃ front, earlier =
    front ++ [authorizedExchange offer record, claimedExchange offer record]
  job : action.jobId = offer.jobId
  target : action.target.target = offer.intent.target
  value : action.value = offer.intent.value

/-- Only a provider call is restricted. -/
def Permits (call : ControlCall)
    (earlier : List ControlExchange) (request : ControlRequest) : Prop :=
  ∀ timeout action, request = .execute timeout action →
    ∃ offer record, Dispatches digests parse call earlier action offer record

end

def ControlRequest.Quiet : ControlRequest → Prop
  | .execute _ _ => False
  | _ => True

section Programs

variable {digests : CanonicalDigests} {parse : List UInt8 → Option ActionOffer}
  {call : ControlCall} {offer : ActionOffer}

theorem permits_of_quiet (earlier : List ControlExchange) (request : ControlRequest)
    (quiet : request.Quiet) : Permits digests parse call earlier request := by
  rintro _ _ rfl
  exact quiet.elim

theorem quiet_ledgerResult {α : Type} (result : Except ControlStoreError α) :
    (ledgerResult result).Uses ControlRequest.Quiet := by
  cases result with
  | ok | error => trivial

theorem quiet_claimResult (result : Except ControlDependencyError LedgerClaim) :
    (claimResult result).Uses ControlRequest.Quiet := by
  cases result with
  | ok | error => trivial

theorem quiet_makeReceipt (jobId : String) (target : ActionTarget) (intentDigest : String)
    (stage : ActionReceiptStage) (decision : ActionDecision) (failure : Option ControlFailureCode)
    (evidenceDigest : Option String) (auditId : String) (auditStatus : AuditStatus) :
    (makeReceipt jobId target intentDigest stage decision failure evidenceDigest auditId
      auditStatus).Uses ControlRequest.Quiet :=
  ⟨trivial, fun _ => ⟨trivial, fun _ =>
    (Interaction.uses_ofExcept _).bind fun _ => Interaction.uses_ofExcept _⟩⟩

/-- Storing a receipt and returning it does not call the provider. -/
theorem quiet_complete (key : LedgerJobKey) (intentDigest : String)
    (receipt : ActionReceiptPayload) (processed : ProcessedReceipt) :
    (do ledgerResult (← ControlRequest.send (.complete key intentDigest receipt))
        return processed : ControlProgram ProcessedReceipt).Uses ControlRequest.Quiet :=
  ⟨trivial, fun reply => (quiet_ledgerResult reply).bind fun _ => trivial⟩

theorem quiet_replayExisting (key : LedgerJobKey) (existing : LedgerEntry) :
    (replayExisting key offer existing).Uses ControlRequest.Quiet := by
  rw [replayExisting]
  split
  · trivial
  · split
    · exact ⟨trivial, fun reply => (quiet_ledgerResult reply).bind fun _ => trivial⟩
    · trivial

theorem quiet_persistLocalRejection (failure : ControlFailureCode) (requested : AuditStatus) :
    (persistLocalRejection offer failure requested).Uses ControlRequest.Quiet := by
  refine ⟨trivial, fun recorded => (quiet_claimResult _).bind fun claim => ⟨trivial, fun reply => ?_⟩⟩
  refine (quiet_ledgerResult reply).bind fun outcome => ?_
  cases outcome with
  | claimed =>
    exact (quiet_makeReceipt ..).bind fun receipt => quiet_complete _ _ receipt _
  | existing entry => exact quiet_replayExisting claim.key entry
  | digestConflict => trivial

theorem quiet_verifySignature : (verifySignature digests offer).Uses ControlRequest.Quiet := by
  refine (Interaction.uses_ofExcept _).bind fun signingBytes => ⟨trivial, fun reply => ?_⟩
  cases reply with
  | error => trivial
  | ok verified =>
    cases verified with
    | false | true => trivial

theorem quiet_recoverClaims (claims : List LedgerClaim) :
    (recoverClaims claims).Uses ControlRequest.Quiet := by
  induction claims with
  | nil => trivial
  | cons _ _ ih =>
    refine Interaction.Uses.bind ?_ fun recovered => ih.bind fun rest => trivial
    refine ⟨trivial, fun recorded => (quiet_makeReceipt ..).bind fun receipt => ?_⟩
    exact quiet_complete _ _ receipt _

theorem quiet_recoverInterrupted : recoverInterrupted.Uses ControlRequest.Quiet :=
  ⟨trivial, fun reply => (quiet_ledgerResult reply).bind fun claims => quiet_recoverClaims claims⟩

theorem quiet_executed (digests : CanonicalDigests) (offer : ActionOffer)
    (config : IntegrationControlConfig) (target : ResolvedControlTarget)
    (key : LedgerJobKey) (authorized : AuditRecord) :
    ∃ next, executeClaimed digests config offer target key authorized =
        .ask (.execute config.providerTimeout ⟨offer.jobId, target, offer.intent.value⟩) next ∧
      ∀ reply, (next reply).Uses ControlRequest.Quiet := by
  refine ⟨_, rfl, fun reply => ⟨trivial, fun observedAtMs => ?_⟩⟩
  refine (Interaction.uses_ofExcept _).bind fun outcome => ⟨trivial, fun recorded => ?_⟩
  exact (quiet_makeReceipt ..).bind fun receipt => quiet_complete _ _ receipt _

theorem LedgerClaim.fromOffer_eq_ok {auditRecordId : String} {claim : LedgerClaim}
    (formed : LedgerClaim.fromOffer offer auditRecordId = .ok claim) :
    claim = ⟨.fromOffer offer, offer.intentDigest, offer.intent.target, offer.intent.value,
      auditRecordId⟩ := by
  obtain ⟨_, -, ⟨⟩⟩ := Attempt.bind_eq_ok.mp formed
  rfl

variable {target : ResolvedControlTarget}

/-- A claimed job calls the provider once, for the offer. -/
theorem always_executeClaimed (config : IntegrationControlConfig) {key : LedgerJobKey}
    {record : AuditRecord} {earlier : List ControlExchange}
    (dispatches : Dispatches digests parse call earlier ⟨offer.jobId, target, offer.intent.value⟩
      offer record) :
    (executeClaimed digests config offer target key record).Always (Permits digests parse call)
      earlier := by
  obtain ⟨_, program, quiet⟩ := quiet_executed digests offer config target key record
  rw [program]
  refine ⟨?_, fun reply => (quiet reply).always permits_of_quiet _⟩
  rintro _ _ ⟨⟩
  exact ⟨offer, record, dispatches⟩

section

variable (offered : call.Offered digests parse offer)

include offered

section

variable (config : IntegrationControlConfig)

/-- A dispatch calls the provider right after the audit record and the claim. -/
theorem always_dispatch (resolved : target.target = offer.intent.target) (earlier : List ControlExchange) :
    (dispatch digests config offer target).Always (Permits digests parse call) earlier := by
  refine Interaction.always_send.mpr ⟨permits_of_quiet _ _ trivial, fun recorded => ?_⟩
  cases recorded with
  | error => exact (quiet_persistLocalRejection ..).always permits_of_quiet _
  | ok record =>
    dsimp only
    cases formed : LedgerClaim.fromOffer offer record.recordId with
    | error => trivial
    | ok =>
      obtain rfl := LedgerClaim.fromOffer_eq_ok formed
      rw [claimResult, Interaction.done_bind]
      refine Interaction.always_send.mpr ⟨permits_of_quiet _ _ trivial, fun reply => ?_⟩
      cases reply with
      | error => trivial
      | ok outcome =>
        cases outcome with
        | existing entry => exact (quiet_replayExisting _ entry).always permits_of_quiet _
        | digestConflict => trivial
        | claimed =>
          refine always_executeClaimed config ⟨offered, ⟨earlier, ?_⟩, rfl, resolved, rfl⟩
          exact List.append_assoc earlier _ _

theorem always_authorize (resolved : target.target = offer.intent.target) (earlier : List ControlExchange) :
    (authorize digests config offer target).Always (Permits digests parse call) earlier := by
  have rejection : ∀ failure requested later,
      (persistLocalRejection offer failure requested).Always (Permits digests parse call) later :=
    fun failure requested => (quiet_persistLocalRejection failure requested).always permits_of_quiet
  refine Interaction.always_send.mpr ⟨permits_of_quiet _ _ trivial, fun decision => ?_⟩
  cases decision with
  | error => exact rejection ..
  | ok =>
    dsimp only
    split
    · exact rejection ..
    split
    · exact rejection ..
    split
    · exact rejection ..
    split
    · exact rejection ..
    · exact always_dispatch offered config resolved _

theorem always_processUnknown (earlier : List ControlExchange) :
    (processUnknown digests config offer).Always (Permits digests parse call) earlier := by
  refine Interaction.always_send.mpr ⟨permits_of_quiet _ _ trivial, fun now => ?_⟩
  split
  · trivial
  refine Interaction.always_send.mpr ⟨permits_of_quiet _ _ trivial, fun reply => ?_⟩
  cases reply with
  | error => exact (quiet_persistLocalRejection ..).always permits_of_quiet _
  | ok =>
    dsimp only
    split
    · rename_i resolved
      exact always_authorize offered config resolved _
    · exact (quiet_persistLocalRejection ..).always permits_of_quiet _

end

end

/-- Processing an offer calls the provider only for that offer, audited and claimed. -/
theorem always_process (processor : IntegrationControlProcessor) (bytes : List UInt8)
    (earlier : List ControlExchange) :
    (process digests parse processor bytes).Always
      (Permits digests parse (.process processor bytes)) earlier := by
  rw [process]
  split
  · trivial
  rename_i enabled
  cases decoded : digests.decodeOffer parse bytes with
  | error => trivial
  | ok offer =>
    rw [Interaction.ofExcept, Interaction.done_bind]
    cases checked : validateSession processor.session offer with
    | error => trivial
    | ok =>
      rw [Interaction.ofExcept, Interaction.done_bind]
      have offered : (ControlCall.process processor bytes).Offered digests parse offer :=
        ⟨processor, bytes, rfl, by simpa using enabled, decoded, checked⟩
      refine (quiet_verifySignature.always permits_of_quiet _).bind fun verified later => ?_
      refine Interaction.always_send.mpr ⟨permits_of_quiet _ _ trivial, fun found => ?_⟩
      cases found with
      | error => trivial
      | ok existing =>
        cases existing with
        | some entry => exact (quiet_replayExisting _ entry).always permits_of_quiet _
        | none => exact always_processUnknown offered processor.config _

/-- Every call keeps to what is permitted. -/
theorem always_program (call : ControlCall) :
    (call.program digests parse).Always (Permits digests parse call) [] := by
  cases call with
  | process processor bytes => exact (always_process processor bytes []).bind fun _ _ => trivial
  | recoverInterrupted =>
    exact (quiet_recoverInterrupted.always permits_of_quiet []).bind fun _ _ => trivial

end Programs

end AetherIot.IntegrationControl
