import AetherIot.CloudLink.Codec

/-!
# Sealed content and the durable stream

What the producer seals is what the stream accepts, except at one boundary: the producer admits an
expiry at the creation time, and the stream does not.
-/

namespace AetherIot.CloudLink

open MachineText CanonicalJson Attempt IntegrationContract OrderedMap

theorem hexDigit_lowercase {value : Nat} (small : value < 16) :
    isAsciiHexdigit (hexDigit value) = true ∧ isAsciiUppercase (hexDigit value) = false ∧
      (hexDigit value).toNat ≤ 127 := by
  interval_cases value <;> decide

theorem length_lowerHex (bytes : List UInt8) : (lowerHex bytes).length = 2 * bytes.length := by
  induction bytes with
  | nil => rfl
  | cons _ _ ih =>
    rw [lowerHex, List.flatMap_cons, List.length_append, ← lowerHex, ih, List.length_cons]
    simp only [List.length_cons, List.length_nil]
    omega

theorem mem_lowerHex {bytes : List UInt8} {digit : UInt8} (member : digit ∈ lowerHex bytes) :
    ∃ value < 16, digit = hexDigit value := by
  obtain ⟨byte, _, nibble⟩ := List.mem_flatMap.mp member
  have bound := byte.toNat_lt
  simp only [List.mem_cons, List.not_mem_nil, or_false] at nibble
  rcases nibble with rfl | rfl
  · exact ⟨byte.toNat / 16, by omega, rfl⟩
  · exact ⟨byte.toNat % 16, by omega, rfl⟩

theorem utf8_hexString (bytes : List UInt8) : utf8 (hexString bytes) = lowerHex bytes := by
  have back : ∀ digit ∈ lowerHex bytes, ascii (Char.ofNat digit.toNat) = digit ∧
      (Char.ofNat digit.toNat).toNat ≤ 127 := by
    intro digit member
    obtain ⟨value, _, rfl⟩ := mem_lowerHex member
    interval_cases value <;> decide
  rw [hexString, utf8_ofList_of_ascii]
  · rw [List.map_map]
    exact (List.map_congr_left fun digit member => (back digit member).1).trans (List.map_id _)
  · intro _ member
    obtain ⟨digit, present, rfl⟩ := List.mem_map.mp member
    exact (back digit present).2

/-- The hexadecimal text of a hash is a digest of the stream. -/
theorem digestValid_hexString (hash : Vector UInt8 32) :
    digestValid ("sha256:" ++ hexString hash.toList) = true := by
  have text :
      utf8 ("sha256:" ++ hexString hash.toList) = utf8 "sha256:" ++ lowerHex hash.toList := by
    rw [utf8_append, utf8_hexString]
  have scheme : (utf8 "sha256:").length = 7 := by decide
  have digits : (lowerHex hash.toList).all
      (fun byte => isAsciiHexdigit byte && !isAsciiUppercase byte) = true := by
    rw [List.all_eq_true]
    intro _ member
    obtain ⟨_, small, rfl⟩ := mem_lowerHex member
    obtain ⟨hexadecimal, lowercase, _⟩ := hexDigit_lowercase small
    simp [hexadecimal, lowercase]
  have size : (lowerHex hash.toList).length = 64 := by
    rw [length_lowerHex, Vector.length_toList]
  have rest : (utf8 "sha256:" ++ lowerHex hash.toList).drop 7 = lowerHex hash.toList :=
    List.drop_left' scheme
  simp only [digestValid, text, List.length_append, scheme, size, rest, digits, Bool.and_true,
    decide_true, Bool.true_and]
  rw [List.isPrefixOf_iff_prefix]
  exact List.prefix_append _ _

/-- The producer's identifiers are identifiers of the stream. -/
theorem validIdentifier_of_codecIdentifier {value field : String} {maximum : Nat}
    (accepted : codecIdentifier value field maximum = .ok ()) :
    validIdentifier value maximum = true := by
  simp only [codecIdentifier] at accepted
  split at accepted
  · rename_i conditions
    simp only [Bool.and_eq_true, decide_eq_true_eq] at conditions
    obtain ⟨⟨bounded, first⟩, rest⟩ := conditions
    cases bytes : utf8 value with
    | nil => simp [bytes] at first
    | cons =>
      rw [bytes] at bounded first rest
      simp only [List.head?_cons, Option.any_some] at first
      simp only [validIdentifier, bytes, List.isEmpty_cons, Bool.not_false, Bool.true_and,
        Bool.and_eq_true, decide_eq_true_eq, List.all_cons]
      exact ⟨bounded, by simp [first], rest⟩
  · cases accepted

variable {codec : CloudLinkCodec} {kind : CloudLinkMessageKind} {batchId : String} {payload : Json}
  {createdAt : UInt64} {expiresAt : Option UInt64} {input : CloudLinkEnqueue}

/-- What sealing has checked and what it produces. -/
structure Sealed (codec : CloudLinkCodec) (kind : CloudLinkMessageKind) (batchId : String)
    (payload : Json) (createdAt : UInt64) (expiresAt : Option UInt64) (input : CloudLinkEnqueue) :
    Prop where
  validPayload : codec.validateBusinessPayload kind payload = .ok ()
  identified : codecIdentifier batchId "batch_id" 128 = .ok ()
  bound : validateIntegrationBatchBinding kind batchId payload = .ok ()
  expiry : checkExpiry createdAt expiresAt = .ok ()
  small : payload.size ≤ maxCloudlinkMessageBytes
  content : ∃ hash : Vector UInt8 32, input =
    { messageKind := kind, batchId, digest := "sha256:" ++ hexString hash.toList,
      payload := payload.text, createdAt, expiresAt }

theorem bound_eq_ok {found : Nat} : bound found = .ok () ↔ found ≤ maxCloudlinkMessageBytes := by
  unfold bound
  split <;> simp_all

theorem sealed_of_prepareValue (lawful : codec.json.Lawful)
    (prepared : codec.prepareValue kind batchId payload createdAt expiresAt = .ok input) :
    Sealed codec kind batchId payload createdAt expiresAt input := by
  obtain ⟨_, validPayload, prepared⟩ := bind_eq_ok.mp prepared
  obtain ⟨_, identified, prepared⟩ := bind_eq_ok.mp prepared
  obtain ⟨_, binding, prepared⟩ := bind_eq_ok.mp prepared
  obtain ⟨_, expiry, prepared⟩ := bind_eq_ok.mp prepared
  obtain ⟨bytes, canonical, prepared⟩ := bind_eq_ok.mp prepared
  obtain ⟨_, bounded, prepared⟩ := bind_eq_ok.mp prepared
  obtain ⟨_, hashed, prepared⟩ := bind_eq_ok.mp prepared
  obtain ⟨_, _, hashed⟩ := bind_eq_ok.mp hashed
  cases prepared
  cases hashed
  have text : bytes = payload.text := lawful.canonical (mapError_eq_ok.mp canonical)
  subst text
  exact ⟨validPayload, identified, binding, expiry, bound_eq_ok.mp bounded, _, rfl⟩

theorem validateEnqueue_iff
    (content : Sealed codec kind batchId payload createdAt expiresAt input) :
    validateEnqueue input = .ok () ↔ expiresAt ≠ some createdAt := by
  obtain ⟨_, identified, _, expiry, small, hash, rfl⟩ := content
  have later : expiresAt.any (· < createdAt) = false := by
    unfold checkExpiry at expiry
    split at expiry
    · cases expiry
    · simp_all
  have fields : validIdentifier batchId 128 = true ∧
      digestValid ("sha256:" ++ hexString hash.toList) = true ∧ payload.text ≠ [] ∧
      payload.text.length ≤ maxSpoolPayloadBytes :=
    ⟨validIdentifier_of_codecIdentifier identified, digestValid_hexString hash,
      payload.text_ne_nil, small⟩
  rw [CloudLinkSpoolState.validateEnqueue_eq_ok]
  constructor
  · rintro ⟨_, _, _, _, after⟩ rfl
    simp at after
  · intro different
    refine ⟨fields.1, fields.2.1, fields.2.2.1, fields.2.2.2, ?_⟩
    cases expiresAt with
    | none => rfl
    | some =>
      simp only [Option.any_some, decide_eq_false_iff_not, UInt64.not_lt, UInt64.not_le] at later ⊢
      exact UInt64.lt_of_le_of_ne later fun same => different (congrArg some same.symm)

theorem checkOffer_fromEnqueue
    (content : Sealed codec kind batchId payload createdAt expiresAt input)
    (identity : CloudLinkRecordIdentity) :
    checkOffer (CloudLinkRecord.fromEnqueue identity input) = .ok () := by
  obtain ⟨_, _, _, expiry, _, _, rfl⟩ := content
  unfold checkExpiry at expiry
  split at expiry
  · cases expiry
  · rename_i later
    exact if_neg later

namespace CloudLinkSpoolState

/-- No retained record has the batch identity with another content. -/
def Agrees (state : CloudLinkSpoolState) (input : CloudLinkEnqueue) : Prop :=
  ∀ (position : UInt64) (record : CloudLinkRecord), state.records[position]? = some record →
    record.batchId = input.batchId →
      record.digest = input.digest ∧ record.messageKind = input.messageKind ∧
        record.payload = input.payload

/-- A stream with a position left accepts valid content without a conflicting batch. -/
theorem enqueue_accepts {state : CloudLinkSpoolState} {input : CloudLinkEnqueue}
    (consistent : state.Consistent) (valid : validateEnqueue input = .ok ())
    (agrees : state.Agrees input) (left : state.nextPosition.toNat + 1 < 2 ^ 64) :
    ∃ record, (state.enqueue input).2 = .ok record := by
  have successor : state.nextPosition < state.nextPosition + 1 ∧
      state.nextPosition + 1 = state.nextPosition + 1 := by
    refine ⟨?_, rfl⟩
    rw [UInt64.lt_iff_toNat_lt, UInt64.toNat_add]
    simp only [UInt64.reduceToNat]
    omega
  cases found : (valueList state.records).find? fun record => record.batchId == input.batchId with
  | some existing =>
    obtain ⟨named, position, retained⟩ := of_valueList_find?_eq_some found
    have same := agrees position existing retained (by simpa using named)
    exact ⟨existing, by simp [enqueue, valid, found, same]⟩
  | none =>
    have fresh : state.FreshBatch input := freshBatch_iff.mpr found
    by_cases full : state.records.size = state.capacity.toNat
    · have positive : 0 < state.records.size := by
        have capacity := UInt64.toNat_inj.not.mpr consistent.capacityPositive
        simp only [UInt64.reduceToNat] at capacity
        omega
      obtain ⟨_, oldest⟩ := exists_firstKey positive
      exact ⟨_, congrArg Prod.snd (enqueue_displaced valid fresh oldest successor full)⟩
    · exact ⟨_, congrArg Prod.snd (enqueue_appended valid fresh successor full)⟩

end CloudLinkSpoolState

/-- What the producer seals is accepted by validation, by every stream without a conflicting batch,
and by the check before an offer, exactly if it does not expire at its creation. -/
theorem sealed_content_accepted (codec : CloudLinkCodec) (kind : CloudLinkMessageKind)
    (batchId : String) (payload : Json) (createdAt : UInt64) (expiresAt : Option UInt64)
    (input : CloudLinkEnqueue) (lawful : codec.json.Lawful)
    (prepared : codec.prepareValue kind batchId payload createdAt expiresAt = .ok input) :
    (validateEnqueue input = .ok () ∧
        (∀ state : CloudLinkSpoolState, state.WellFormed → state.Agrees input →
          state.nextPosition.toNat + 1 < 2 ^ 64 → ∃ record, (state.enqueue input).2 = .ok record) ∧
        ∀ identity, checkOffer (CloudLinkRecord.fromEnqueue identity input) = .ok ()) ↔
      expiresAt ≠ some createdAt := by
  have content := sealed_of_prepareValue lawful prepared
  rw [← validateEnqueue_iff content]
  constructor
  · exact fun accepted => accepted.1
  · intro valid
    exact ⟨valid, fun state wellFormed agrees left =>
      CloudLinkSpoolState.enqueue_accepts wellFormed.toConsistent valid agrees left,
      checkOffer_fromEnqueue content⟩

/-- A library that spells every double as zero and reads nothing. -/
def writingLibrary : JsonLibrary where
  numberText _ := ⟨utf8 "0", by decide⟩
  canonicalize value := .ok value.text
  readValue _ := .error "unread"
  readTopology _ := .error "unread"
  readObservationBatch _ := .error "unread"

section

variable (batch : IntegrationObservationBatch)

/-- A library that reads one batch. -/
def readingLibrary : JsonLibrary :=
  { writingLibrary with
    readValue := fun bytes =>
      if bytes = (batch.toJson writingLibrary).text then .ok (batch.toJson writingLibrary)
      else .error "unread"
    readObservationBatch := fun bytes =>
      if bytes = (batch.toJson writingLibrary).text then .ok batch else .error "unread" }

theorem readingLibrary_lawful : (readingLibrary batch).Lawful where
  canonical := by
    intro _ _ written
    cases written
    rfl
  readsValue := by
    intro _ _ reads
    simp only [readingLibrary] at reads
    split at reads
    · rename_i same
      cases reads
      exact same.symm
    · cases reads
  readsBatch := by
    intro _ _ reads
    simp only [readingLibrary] at reads
    split at reads
    · rename_i same
      cases reads
      exact same.symm
    · cases reads

/-- A codec with the library that reads one batch. -/
def readingCodec : CloudLinkCodec where
  json := readingLibrary batch
  sha256 _ := Vector.replicate 32 0
  validateRuntimeManifestReport _ := .ok ()
  validateTelemetryBatch _ := .ok ()
  validateDataLoss _ := .ok ()

end

def switchBatch : IntegrationObservationBatch where
  schema := observationBatchSchema
  integrationId := "home"
  snapshotGeneration := "1"
  batchId := "readings"
  observedAtMs := "1000"
  observations := [{
    entityId := "switch"
    pointKey := "state"
    observedAtMs := "1000"
    quality := .good
    value := some (.boolean true)
    diagnostic := none }]

/-- The sealed content of the batch. -/
def switchContent (expiresAt : Option UInt64) : CloudLinkEnqueue where
  messageKind := .integrationObservationBatch
  batchId := "readings"
  digest := "sha256:0000000000000000000000000000000000000000000000000000000000000000"
  payload := (switchBatch.toJson writingLibrary).text
  createdAt := 1000
  expiresAt := expiresAt

theorem sealed_content_accepted_later : (validateEnqueue (switchContent (some 2000)) = .ok () ∧
        (∀ state : CloudLinkSpoolState, state.WellFormed →
          state.Agrees (switchContent (some 2000)) → state.nextPosition.toNat + 1 < 2 ^ 64 →
            ∃ record, (state.enqueue (switchContent (some 2000))).2 = .ok record) ∧
        ∀ identity,
          checkOffer (CloudLinkRecord.fromEnqueue identity (switchContent (some 2000))) = .ok ()) ↔
      some (2000 : UInt64) ≠ some 1000 :=
  sealed_content_accepted (readingCodec switchBatch) .integrationObservationBatch "readings"
    (switchBatch.toJson writingLibrary) 1000 (some 2000) (switchContent (some 2000))
    (readingLibrary_lawful switchBatch) (by decide +kernel)

/-- Content that expires at its creation is sealed, and refused by the stream. -/
theorem sealed_content_refused :
    (readingCodec switchBatch).prepareValue .integrationObservationBatch "readings"
        (switchBatch.toJson writingLibrary) 1000 (some 1000) = .ok (switchContent (some 1000)) ∧
      validateEnqueue (switchContent (some 1000)) =
        .error ⟨.invalidData, "CloudLink expiry must be after creation time"⟩ :=
  ⟨by decide +kernel, by decide +kernel⟩

end AetherIot.CloudLink
