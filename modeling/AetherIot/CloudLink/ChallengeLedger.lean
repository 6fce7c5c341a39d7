import AetherIot.Foundation.Bytes
import AetherIot.Foundation.JsonText
import AetherIot.Foundation.KeyedList

/-!
# The CloudLink challenge ledger

A bounded ledger of session challenges.  A challenge is reserved against the pending request, gets
one hello, and is consumed by completing it.  Every operation works on a copy of the state, which
replaces the state once it has been validated and written.
-/

namespace AetherIot.CloudLink.ChallengeLedger

open MachineText Bytes KeyedList JsonText

def ledgerSchema : String := "aether.edge.cloudlink-challenge-ledger.v1"

def maxCapacity : Nat := 256

def maxTranscriptBytes : Nat := 64 * 1024

def maxLedgerBytes : Nat := 32 * 1024 * 1024

inductive CloudLinkChallengeLedgerError where
  | invalidInput
  | capacityExceeded
  | conflictingReplay
  | completedReplay
  | messageExpired
  | missingChallenge
  | invalidTransition
  | insecurePermissions
  | corrupt
  | storage
  deriving DecidableEq, Repr

/-- Result of reserving one exact signed challenge. -/
inductive CloudLinkChallengeReservation where
  | prepare (challenge request : List UInt8)
  | retryHello (hello : List UInt8)
  deriving DecidableEq

/-- The exact bytes of a pending request and its deadline. -/
structure CloudLinkPendingChallengeRequest where
  payload : List UInt8
  expiresAtMs : UInt64
  deriving DecidableEq

inductive ChallengeStatus where
  | pending
  | completed
  deriving DecidableEq

structure ChallengeRecord where
  challengeId : String
  expiresAtMs : UInt64
  challengeDigest : String
  challenge : Option String
  request : Option String
  hello : Option String
  status : ChallengeStatus
  completionOrder : Option UInt64
  deriving DecidableEq

structure PendingRequest where
  expiresAtMs : UInt64
  request : String
  deriving DecidableEq

structure LedgerState where
  schema : String
  capacity : Nat
  pendingRequest : Option PendingRequest
  nextCompletionOrder : UInt64
  records : List ChallengeRecord
  deriving DecidableEq

/-- Canonical lowercase text of a UUID. -/
def validIdentity (value : String) : Bool :=
  let bytes := utf8 value
  let separators := [8, 13, 18, 23]
  let version := bytes.getD 14 0
  bytes.length = 36 && separators.all (fun index => bytes.getD index 0 = ascii '-') &&
    (ascii '1' ≤ version && version ≤ ascii '8') &&
    [ascii '8', ascii '9', ascii 'a', ascii 'b'].contains (bytes.getD 19 0) &&
    bytes.zipIdx.all fun (byte, index) =>
      separators.contains index || (isAsciiHexdigit byte && !isAsciiUppercase byte)

def validTranscript (bytes : List UInt8) : Bool :=
  !bytes.isEmpty && decide (bytes.length ≤ maxTranscriptBytes) && (fromUtf8 bytes).isSome

def validDigest (value : String) : Bool :=
  decide ((utf8 value).length = 64) &&
    (utf8 value).all fun byte => isAsciiHexdigit byte && !isAsciiUppercase byte

variable (record : ChallengeRecord)

/-- The fields of a record agree with its status.  Completed records keep no transcript. -/
def ChallengeRecord.consistent (nextCompletionOrder : UInt64) : Bool :=
  match record.status with
  | .pending =>
    record.challenge.any (fun challenge => validTranscript (utf8 challenge)) &&
      record.request.any (fun request => validTranscript (utf8 request)) &&
      record.hello.all (fun hello => validTranscript (utf8 hello)) &&
      record.completionOrder.isNone
  | .completed =>
    record.challenge.isNone && record.request.isNone && record.hello.isNone &&
      record.completionOrder.any fun order => order < nextCompletionOrder

namespace LedgerState

def empty (capacity : Nat) : LedgerState where
  schema := ledgerSchema
  capacity
  pendingRequest := none
  nextCompletionOrder := 1
  records := []

variable (state : LedgerState)

def completionOrders : List (Option UInt64) :=
  (state.records.filter fun record => record.status = .completed).map (·.completionOrder)

def validate (configuredCapacity : Nat) : Except CloudLinkChallengeLedgerError Unit :=
  if state.schema = ledgerSchema ∧ state.capacity = configuredCapacity ∧
      state.records.length ≤ state.capacity ∧ state.nextCompletionOrder ≠ 0 ∧
      (state.pendingRequest.all fun pending =>
        pending.expiresAtMs ≠ 0 && validTranscript (utf8 pending.request)) ∧
      (state.records.map (·.challengeId)).Nodup ∧ state.completionOrders.Nodup ∧
      (state.records.all fun record =>
        validIdentity record.challengeId && record.expiresAtMs ≠ 0 &&
          validDigest record.challengeDigest &&
          record.consistent state.nextCompletionOrder) then .ok ()
  else .error .corrupt

/-- Persist a request before its first publication.  A live request is returned unchanged. -/
def prepareRequest (request : List UInt8) (expiresAtMs evaluationTimeMs : UInt64) :
    Except CloudLinkChallengeLedgerError (LedgerState × CloudLinkPendingChallengeRequest) :=
  if !validTranscript request || expiresAtMs = 0 then .error .invalidInput
  else if evaluationTimeMs ≥ expiresAtMs then .error .messageExpired
  else
    match fromUtf8 request with
    | none => .error .invalidInput
    | some text =>
      match state.pendingRequest.filter fun pending => evaluationTimeMs < pending.expiresAtMs with
      | some pending =>
        .ok ({ state with pendingRequest := some pending },
          ⟨utf8 pending.request, pending.expiresAtMs⟩)
      | none =>
        .ok ({ state with pendingRequest := some ⟨expiresAtMs, text⟩ },
          ⟨utf8 text, expiresAtMs⟩)

/-- The live pending request, which must be the given one, gets the deadline of the challenge. -/
def extendRequest (request : String) (expiresAtMs evaluationTimeMs : UInt64) :
    Except CloudLinkChallengeLedgerError LedgerState :=
  match state.pendingRequest.filter fun pending => evaluationTimeMs < pending.expiresAtMs with
  | none => .error .missingChallenge
  | some pending =>
    if pending.request ≠ request then .error .conflictingReplay
    else .ok { state with pendingRequest := some { pending with expiresAtMs } }

/-- Drop the pending records that have expired. -/
def purge (evaluationTimeMs : UInt64) : LedgerState :=
  { state with
    records := state.records.filter fun record =>
      record.status = .completed || evaluationTimeMs < record.expiresAtMs }

/-- The completion order as a search key: a missing order comes first. -/
def completionKey (record : ChallengeRecord) : WithBot Nat :=
  record.completionOrder.map UInt64.toNat

/-- The index of the record that was completed first. -/
def oldestCompleted (records : List ChallengeRecord) : Option Nat :=
  ((records.zipIdx.filter fun entry => entry.1.status = .completed).argmin
    fun entry => completionKey entry.1).map Prod.snd

/-- At capacity, give up the record that was completed first. -/
def makeRoom : LedgerState :=
  if state.records.length = state.capacity then
    match oldestCompleted state.records with
    | some index => { state with records := state.records.eraseIdx index }
    | none => state
  else state

/-- Store a record, in the order of challenge identities. -/
def store (record : ChallengeRecord) : LedgerState :=
  { state with
    records := (state.records ++ [record]).insertionSort fun left right =>
      left.challengeId ≤ right.challengeId }

def find (state : LedgerState) (challengeId : String) : Option ChallengeRecord :=
  state.records.find? fun record => record.challengeId = challengeId

def update (challengeId : String) (change : ChallengeRecord → ChallengeRecord) : LedgerState :=
  { state with
    records := updateFirst (fun record => record.challengeId = challengeId) change state.records }

end LedgerState

/-- What a reservation returns for a record that is already pending. -/
def ChallengeRecord.reservation :
    Except CloudLinkChallengeLedgerError CloudLinkChallengeReservation :=
  match record.challenge, record.request with
  | some challenge, some request =>
    match record.hello with
    | some hello => .ok (.retryHello (utf8 hello))
    | none => .ok (.prepare (utf8 challenge) (utf8 request))
  | _, _ => .error .corrupt

/-- A record that has just been reserved. -/
def ChallengeRecord.reserved (challengeId : String) (expiresAtMs : UInt64)
    (challengeDigest challenge request : String) : ChallengeRecord where
  challengeId
  expiresAtMs
  challengeDigest
  challenge := some challenge
  request := some request
  hello := none
  status := .pending
  completionOrder := none

/-- A record whose challenge has been consumed. -/
def ChallengeRecord.consumed (order : UInt64) : ChallengeRecord :=
  { record with
    status := .completed
    challenge := none
    request := none
    hello := none
    completionOrder := some order }

namespace LedgerState

section

variable (transcriptDigest : List UInt8 → String) (state : LedgerState) (challengeId : String)

/-- Reserve an exact challenge.  `transcriptDigest` is the lowercase SHA-256 of a transcript. -/
def reserve (expiresAtMs : UInt64) (challenge request : List UInt8) (evaluationTimeMs : UInt64) :
    Except CloudLinkChallengeLedgerError (LedgerState × CloudLinkChallengeReservation) :=
  if !validIdentity challengeId || expiresAtMs = 0 || !validTranscript challenge ||
      !validTranscript request then .error .invalidInput
  else if evaluationTimeMs ≥ expiresAtMs then .error .messageExpired
  else
    match fromUtf8 challenge, fromUtf8 request with
    | some challengeText, some requestText =>
      let challengeDigest := transcriptDigest (utf8 challengeText)
      let live := state.purge evaluationTimeMs
      match live.find challengeId with
      | some record =>
        if record.expiresAtMs ≠ expiresAtMs ∨ record.challengeDigest ≠ challengeDigest then
          .error .conflictingReplay
        else if record.status = .completed then .error .completedReplay
        else do
          let extended ← live.extendRequest requestText expiresAtMs evaluationTimeMs
          let reservation ← record.reservation
          return (extended, reservation)
      | none => do
          let extended ← live.extendRequest requestText expiresAtMs evaluationTimeMs
          let roomy := extended.makeRoom
          if roomy.records.length = roomy.capacity then .error .capacityExceeded
          else
            return (roomy.store (.reserved challengeId expiresAtMs challengeDigest challengeText
              requestText), .prepare (utf8 challengeText) (utf8 requestText))
    | _, _ => .error .invalidInput

/-- Persist one exact signed hello before it is published. -/
def storeHello (hello : List UInt8) :
    Except CloudLinkChallengeLedgerError (LedgerState × List UInt8) :=
  if !validIdentity challengeId || !validTranscript hello then .error .invalidInput
  else
    match fromUtf8 hello with
    | none => .error .invalidInput
    | some text =>
      match state.find challengeId with
      | none => .error .missingChallenge
      | some record =>
        if record.status = .completed then .error .completedReplay
        else
          match record.hello with
          | some existing =>
            if existing = text then .ok (state, utf8 existing)
            else .error .conflictingReplay
          | none =>
            .ok (state.update challengeId fun record => { record with hello := some text },
              utf8 text)

/-- Mark a challenge consumed. -/
def complete : Except CloudLinkChallengeLedgerError (LedgerState × Unit) :=
  if !validIdentity challengeId then .error .invalidInput
  else
    match state.find challengeId with
    | none => .error .missingChallenge
    | some record =>
      if record.status = .completed then .error .completedReplay
      else if record.hello.isNone then .error .invalidTransition
      else
        match record.request with
        | none => .error .corrupt
        | some recordRequest =>
          if !state.pendingRequest.any fun pending => pending.request = recordRequest then
            .error .invalidTransition
          else
            match checkedAdd state.nextCompletionOrder 1 with
            | none => .error .storage
            | some next =>
              .ok ({ state.update challengeId (·.consumed state.nextCompletionOrder) with
                  nextCompletionOrder := next
                  pendingRequest := none }, ())

end

end LedgerState

inductive LedgerCall where
  | prepareRequest (request : List UInt8) (expiresAtMs evaluationTimeMs : UInt64)
  | reserve (challengeId : String) (expiresAtMs : UInt64) (challenge request : List UInt8)
      (evaluationTimeMs : UInt64)
  | storeHello (challengeId : String) (hello : List UInt8)
  | complete (challengeId : String)
  deriving DecidableEq

inductive LedgerReply where
  | prepared (pending : CloudLinkPendingChallengeRequest)
  | reserved (reservation : CloudLinkChallengeReservation)
  | stored (hello : List UInt8)
  | completed
  deriving DecidableEq

/-- The state a call computes, before it is validated and written. -/
def LedgerState.compute (transcriptDigest : List UInt8 → String) (state : LedgerState) :
    LedgerCall → Except CloudLinkChallengeLedgerError (LedgerState × LedgerReply)
  | .prepareRequest request expiresAtMs evaluationTimeMs =>
    (state.prepareRequest request expiresAtMs evaluationTimeMs).map (Prod.map id .prepared)
  | .reserve challengeId expiresAtMs challenge request evaluationTimeMs =>
    (state.reserve transcriptDigest challengeId expiresAtMs challenge request
      evaluationTimeMs).map (Prod.map id .reserved)
  | .storeHello challengeId hello => (state.storeHello challengeId hello).map (Prod.map id .stored)
  | .complete challengeId => (state.complete challengeId).map (Prod.map id fun () => .completed)

/-- How the replacement of the file ends.  It can fail before the rename, or after it when the
directory is synchronised. -/
inductive WriteOutcome where
  | written
  | failed (replaced : Bool) (failure : CloudLinkChallengeLedgerError)
  deriving DecidableEq

section

variable (codec : Codec LedgerState) (file : Option (List UInt8))

/-- Replace the file.  The result is the file afterwards. -/
def writeState (state : LedgerState)
    (outcome : WriteOutcome) : Option (List UInt8) × Except CloudLinkChallengeLedgerError Unit :=
  match codec.encode state with
  | .error _ => (file, .error .corrupt)
  | .ok bytes =>
    if bytes.isEmpty || bytes.length > maxLedgerBytes then (file, .error .corrupt)
    else
      match outcome with
      | .written => (some bytes, .ok ())
      | .failed replaced failure => (if replaced then some bytes else file, .error failure)

/-- Open the ledger.  `environment` is the outcome of the checks of path, directory, lock and
permissions. -/
def openLedger (capacity : Nat)
    (environment : Except CloudLinkChallengeLedgerError Unit) (outcome : WriteOutcome) :
    Option (List UInt8) × Except CloudLinkChallengeLedgerError LedgerState :=
  if capacity < 1 ∨ maxCapacity < capacity then (file, .error .invalidInput)
  else
    match environment with
    | .error failure => (file, .error failure)
    | .ok () =>
      match file with
      | some bytes =>
        if bytes.length = 0 ∨ bytes.length > maxLedgerBytes then (file, .error .corrupt)
        else
          match codec.decode bytes with
          | .error _ => (file, .error .corrupt)
          | .ok state => (file, (state.validate capacity).map fun () => state)
      | none =>
        match writeState codec none (.empty capacity) outcome with
        | (created, .error failure) => (created, .error failure)
        | (created, .ok ()) => (created, .ok (.empty capacity))

/-- Keep the result of a call once it has been validated and written. -/
def mutate (current : LedgerState)
    (mutation : Except CloudLinkChallengeLedgerError (LedgerState × LedgerReply))
    (outcome : WriteOutcome) :
    (Option (List UInt8) × LedgerState) × Except CloudLinkChallengeLedgerError LedgerReply :=
  match mutation with
  | .error failure => ((file, current), .error failure)
  | .ok (next, reply) =>
    match next.validate current.capacity with
    | .error failure => ((file, current), .error failure)
    | .ok () =>
      if next = current then ((file, current), .ok reply)
      else
        match writeState codec file next outcome with
        | (replaced, .error failure) => ((replaced, current), .error failure)
        | (replaced, .ok ()) => ((replaced, next), .ok reply)

end

def ChallengeRecord.json : List UInt8 :=
  jsonObject ([("challenge_id", quoted record.challengeId),
      ("expires_at_ms", jsonNumber record.expiresAtMs),
      ("challenge_digest", quoted record.challengeDigest)] ++
    optionalField "challenge" record.challenge ++ optionalField "request" record.request ++
    optionalField "hello" record.hello ++
    [("status", quoted (if record.status = .pending then "pending" else "completed"))] ++
    (record.completionOrder.map fun order => ("completion_order", jsonNumber order)).toList)

def PendingRequest.json (pending : PendingRequest) : List UInt8 :=
  jsonObject [("expires_at_ms", jsonNumber pending.expiresAtMs),
    ("request", quoted pending.request)]

def LedgerState.json (state : LedgerState) : List UInt8 :=
  jsonObject ([("schema", quoted state.schema), ("capacity", utf8 (toString state.capacity))] ++
    (state.pendingRequest.map fun pending => ("pending_request", pending.json)).toList ++
    [("next_completion_order", jsonNumber state.nextCompletionOrder),
      ("records", jsonArray (state.records.map ChallengeRecord.json))])

/-- A codec that writes the listed states as the file has them. -/
def LedgerState.codec (states : List LedgerState)
    (distinct : (states.map LedgerState.json).Nodup) : Codec LedgerState :=
  .ofTable (states.map fun state => (state, state.json)) (by rwa [List.map_map])

/-- The states that successful calls compute in turn. -/
def LedgerState.along (transcriptDigest : List UInt8 → String) (state : LedgerState) :
    List LedgerCall → List LedgerState
  | [] => [state]
  | call :: calls =>
    match state.compute transcriptDigest call with
    | .error _ => state.along transcriptDigest calls
    | .ok (next, _) => state :: next.along transcriptDigest calls

end AetherIot.CloudLink.ChallengeLedger
