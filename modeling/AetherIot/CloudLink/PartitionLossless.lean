import AetherIot.CloudLink.IntegrationPartition

/-!
# Partitioning loses nothing

The sizes added up while a part is filled are the sizes of its envelope.  Hence a filled part is
sealed or refused for another reason, and the sealed parts carry the observations of the batch in
order, under distinct identities.
-/

namespace AetherIot.CloudLink

open MachineText CanonicalJson Attempt IntegrationContract IntegrationObservation

variable {codec : CloudLinkCodec} {topology : IntegrationTopologySnapshot}
  {batch : IntegrationObservationBatch} {createdAt : UInt64} {expiresAt : Option UInt64}
  {kind : CloudLinkMessageKind} {batchId : String} {payload : Json}

section

variable (batch)

/-- The size of the largest envelope of a part. -/
def partSize (batchId : String) (includeExpiry : Bool) (observations : List Json) : Nat :=
  (completeEnvelope .integrationObservationBatch batchId
    (observationPayload batch batchId observations) includeExpiry).size

section

variable (kind) (batchId) (left right : Json) (includeExpiry : Bool)

/-- Envelopes differ in size as their payloads do. -/
theorem size_completeEnvelope :
    (completeEnvelope kind batchId left includeExpiry).size + right.size =
      (completeEnvelope kind batchId right includeExpiry).size + left.size :=
  Json.size_object_exchange _ _ _ _ _

theorem size_observationPayload_snoc (observations : List Json) (observation : Json) :
    (observationPayload batch batchId (observations ++ [observation])).size =
      (observationPayload batch batchId observations).size +
        (if observations.isEmpty then 0 else 1) + observation.size := by
  have exchange := Json.size_object_exchange [("schema", .string observationBatchSchema),
    ("integration_id", .string batch.integrationId),
    ("snapshot_generation", .string batch.snapshotGeneration), ("batch_id", .string batchId),
    ("observed_at_ms", .string batch.observedAtMs)] [] "observations"
    (.array (observations ++ [observation])) (.array observations)
  have items := Json.size_array_snoc observations observation
  simp only [List.cons_append, List.nil_append] at exchange
  rw [observationPayload, observationPayload]
  omega

theorem partSize_snoc (observations : List Json) (observation : Json) :
    partSize batch batchId includeExpiry (observations ++ [observation]) =
      partSize batch batchId includeExpiry observations +
        (if observations.isEmpty then 0 else 1) + observation.size := by
  have exchange := size_completeEnvelope .integrationObservationBatch batchId
    (observationPayload batch batchId (observations ++ [observation]))
    (observationPayload batch batchId observations) includeExpiry
  have payload := size_observationPayload_snoc batch batchId observations observation
  rw [partSize, partSize]
  omega

end

end

theorem size_le_completeEnvelope (kind : CloudLinkMessageKind) (batchId : String) (payload : Json)
    (includeExpiry : Bool) :
    payload.size ≤ (completeEnvelope kind batchId payload includeExpiry).size :=
  Json.size_le_object (List.mem_append_right _ List.mem_cons_self)

variable {includeExpiry : Bool} {size index : Nat} {library : JsonLibrary} {part : CloudLinkEnqueue}
  {observations taken : List IntegrationObservation} {rest : List (Json × Nat)} {bytes : List UInt8}

/-- An observation beside its size. -/
def weighed (library : JsonLibrary) (observation : IntegrationObservation) : Json × Nat :=
  (observation.toJson library, (observation.toJson library).size)

theorem checkedSize_eq_some {separator observation next : Nat}
    (added : checkedSize size separator observation = some next) :
    next = size + separator + observation := by
  unfold checkedSize at added
  split at added
  · cases added
    rfl
  · cases added

/-- A filled part takes the first observations, at least one if there are any, and its envelope
stays within the bound. -/
theorem fillPart_eq_ok {current part : List Json}
    (exact : size = partSize batch batchId includeExpiry current)
    (small : size ≤ maxCloudlinkMessageBytes)
    (filled : fillPart size current (observations.map (weighed library)) = .ok (part, rest)) :
    ∃ taken left, observations = taken ++ left ∧ part = current ++ taken.map (toJson library) ∧
      rest = left.map (weighed library) ∧
      partSize batch batchId includeExpiry part ≤ maxCloudlinkMessageBytes ∧
      (current = [] → observations ≠ [] → taken ≠ []) := by
  induction observations generalizing size current with
  | nil =>
    cases filled
    exact ⟨[], [], rfl, by simp, rfl, exact ▸ small, fun _ nonempty => nonempty⟩
  | cons observation observations ih =>
    simp only [List.map_cons, weighed, fillPart] at filled
    split at filled
    · cases filled
    · rename_i next added
      have total := checkedSize_eq_some added
      split at filled
      · split at filled
        · cases filled
        · rename_i occupied
          cases filled
          refine ⟨[], observation :: observations, rfl, by simp, rfl, exact ▸ small, ?_⟩
          rintro rfl
          simp at occupied
      · rename_i fits
        have grown : next = partSize batch batchId includeExpiry
            (current ++ [observation.toJson library]) := by
          rw [partSize_snoc, ← exact]
          exact total
        obtain ⟨taken, left, rfl, rfl, rfl, bounded, _⟩ := ih grown (by omega) filled
        exact ⟨observation :: taken, left, rfl, by simp, rfl, bounded, fun _ _ => by simp⟩

def partBatch (batch : IntegrationObservationBatch) (batchId : String)
    (observations : List IntegrationObservation) : IntegrationObservationBatch :=
  { batch with schema := observationBatchSchema, batchId, observations }

theorem observationPayload_eq (library : JsonLibrary) (batch : IntegrationObservationBatch)
    (batchId : String) (observations : List IntegrationObservation) :
    observationPayload batch batchId (observations.map (toJson library)) =
      (partBatch batch batchId observations).toJson library := rfl

/-- The result is no complaint about the size. -/
def Fits {α : Type} (result : CodecResult α) : Prop :=
  ∀ found maximum, result ≠ .error (.messageTooLarge found maximum)

theorem Fits.bind {α β : Type} {first : CodecResult α} {next : α → CodecResult β}
    (fits : Fits first) (rest : ∀ value, first = .ok value → Fits (next value)) :
    Fits (first >>= next) := by
  cases first with
  | error =>
    intro found maximum equal
    exact fits found maximum (congrArg Except.error (Except.error.inj equal))
  | ok value => exact rest value rfl

theorem fits_ok {α : Type} (value : α) : Fits (.ok value : CodecResult α) := by
  intro _ _
  simp

theorem fits_mapError {ε α : Type} {translate : ε → CloudLinkCodecError} {result : Except ε α}
    (other : ∀ failure found maximum, translate failure ≠ .messageTooLarge found maximum) :
    Fits (result.mapError translate) := by
  intro found maximum
  cases result with
  | error failure => simpa [Except.mapError] using other failure found maximum
  | ok => simp [Except.mapError]

section

variable (codec)

theorem fits_canonicalBytes (value : Json) : Fits (codec.canonicalBytes value) :=
  fits_mapError fun _ _ _ => by simp

theorem fits_bound {found : Nat} (small : found ≤ maxCloudlinkMessageBytes) :
    Fits (bound found) := by
  rw [bound_eq_ok.mpr small]
  exact fits_ok ()

/-- Digits after a separator can be read off from the end. -/
theorem rtakeWhile_digits {text digits : List Char} {separator : Char}
    (numeric : ∀ digit ∈ digits, digit.isDigit = true) (stops : separator.isDigit = false) :
    (text ++ separator :: digits).rtakeWhile Char.isDigit = digits := by
  rw [List.rtakeWhile, List.reverse_append, List.reverse_cons, List.append_assoc,
    List.takeWhile_append_of_pos (by simpa using numeric), List.singleton_append,
    List.takeWhile_cons_of_neg (by simp [stops]), List.append_nil, List.reverse_reverse]

theorem isDigit_of_mem_toString {number : Nat} {digit : Char}
    (member : digit ∈ (toString number).toList) : digit.isDigit = true := by
  have digits : digit ∈ Nat.toDigits 10 number := by simpa [Nat.repr] using member
  exact Nat.isDigit_of_mem_toDigits (by decide) (by decide) digits

/-- Parts of one batch have different identities. -/
theorem partitionBatchId_injective (original hash : String) :
    Function.Injective fun index => partitionBatchId original index hash := by
  intro _ _ equal
  have text := congrArg String.toList equal
  simp only [partitionBatchId, String.toList_append] at text
  simp only [← List.append_assoc] at text
  have shorter := List.append_cancel_right (List.append_cancel_right text)
  have dash : "-part-".toList = "-part".toList ++ ['-'] := by decide
  rw [dash] at shorter
  simp only [← List.append_assoc, List.append_assoc _ ['-'], List.singleton_append] at shorter
  have digits := congrArg (List.rtakeWhile Char.isDigit) shorter
  rw [rtakeWhile_digits (fun _ => isDigit_of_mem_toString) (by decide),
    rtakeWhile_digits (fun _ => isDigit_of_mem_toString) (by decide)] at digits
  exact Nat.repr_inj.mp (String.toList_inj.mp digits)

section

variable (integrationId snapshotGeneration batchId : String)

def identityHash : String :=
  hexString ((codec.sha256
    (utf8 (integrationId ++ "\x00" ++ snapshotGeneration ++ "\x00" ++ batchId))).toList.take 8)

/-- The identities of some parts from an index on, by the identity of the batch. -/
def partIds (index count : Nat) : List String :=
  (List.range' index count).map fun position =>
    partitionBatchId batchId position (identityHash codec integrationId snapshotGeneration batchId)

theorem nodup_partIds (index count : Nat) :
    (partIds codec integrationId snapshotGeneration batchId index count).Nodup :=
  (List.nodup_range' _).map (partitionBatchId_injective _ _)

end

/-- A part carries a piece of the observations within the bounds. -/
structure Piece (batch : IntegrationObservationBatch)
    (includeExpiry : Bool) (part : CloudLinkEnqueue) (taken : List IntegrationObservation) :
    Prop where
  nonempty : taken ≠ []
  carried : part.payload = ((partBatch batch part.batchId taken).toJson codec.json).text
  short : (utf8 part.batchId).length ≤ 128
  small : (completeEnvelope .integrationObservationBatch part.batchId
    ((partBatch batch part.batchId taken).toJson codec.json) includeExpiry).size ≤
      maxCloudlinkMessageBytes

end

theorem validateAgainst_eq_ok (valid : batch.validateAgainst library topology = .ok ()) :
    batch.schema = observationBatchSchema ∧ batch.observations ≠ [] := by
  obtain ⟨_, _, valid⟩ := bind_eq_ok.mp valid
  obtain ⟨_, wire, _⟩ := bind_eq_ok.mp valid
  obtain ⟨_, schema, wire⟩ := bind_eq_ok.mp wire
  obtain ⟨_, _, wire⟩ := bind_eq_ok.mp wire
  obtain ⟨_, _, wire⟩ := bind_eq_ok.mp wire
  obtain ⟨_, _, wire⟩ := bind_eq_ok.mp wire
  obtain ⟨_, _, wire⟩ := bind_eq_ok.mp wire
  obtain ⟨_, counted, _⟩ := bind_eq_ok.mp wire
  refine ⟨?_, ?_⟩
  · unfold checkSchema at schema
    split at schema
    · cases schema
    · rename_i same
      exact not_not.mp same
  · intro empty
    rw [empty] at counted
    cases counted

section

variable (lawful : codec.json.Lawful)

include lawful

theorem maximumCompleteEnvelopeSize_eq_ok
    (measured : maximumCompleteEnvelopeSize codec kind batchId payload includeExpiry = .ok size) :
    size = (completeEnvelope kind batchId payload includeExpiry).size ∧
      size ≤ maxCloudlinkMessageBytes := by
  obtain ⟨_, canonical, measured⟩ := bind_eq_ok.mp measured
  obtain ⟨_, bounded, measured⟩ := bind_eq_ok.mp measured
  cases measured
  have text := lawful.canonical (mapError_eq_ok.mp canonical)
  subst text
  exact ⟨rfl, bound_eq_ok.mp bounded⟩

theorem measure_eq_ok {observation : IntegrationObservation}
    {measured : Json × Nat} (measures : measure codec observation = .ok measured) :
    measured = weighed codec.json observation := by
  obtain ⟨_, canonical, same⟩ := bind_eq_ok.mp measures
  cases same
  have text := lawful.canonical (mapError_eq_ok.mp canonical)
  subst text
  rfl

/-- Sealing integration content keeps its identity and its text, within the bound. -/
theorem prepareIntegrationValue_eq_ok {input : CloudLinkEnqueue}
    (prepared :
      prepareIntegrationValue codec kind batchId payload createdAt expiresAt = .ok input) :
    input.batchId = batchId ∧ input.payload = payload.text ∧ (utf8 batchId).length ≤ 128 ∧
      (completeEnvelope kind batchId payload expiresAt.isSome).size ≤ maxCloudlinkMessageBytes := by
  obtain ⟨_, measured, prepared⟩ := bind_eq_ok.mp prepared
  obtain ⟨rfl, small⟩ := maximumCompleteEnvelopeSize_eq_ok lawful measured
  have content := sealed_of_prepareValue lawful prepared
  have identified := validIdentifier_of_codecIdentifier content.identified
  simp only [validIdentifier, Bool.and_eq_true, decide_eq_true_eq] at identified
  obtain ⟨_, rfl⟩ := content.content
  exact ⟨rfl, rfl, identified.1.2, small⟩

theorem sealPart_decodes {validated : IntegrationObservationBatch}
    (canonical : codec.canonicalBytes (observationPayload batch batchId
      (taken.map (toJson codec.json))) = .ok bytes)
    (decodes : (decodeObservationBatch codec.json bytes topology).mapError
      CloudLinkCodecError.integrationContract = .ok validated) :
    (validated.toJson codec.json).text =
      ((partBatch batch batchId taken).toJson codec.json).text := by
  rw [observationPayload_eq] at canonical
  have text := lawful.canonical (mapError_eq_ok.mp canonical)
  subst text
  exact lawful.readsBatch (decodeObservationBatch_eq_ok (mapError_eq_ok.mp decodes))

theorem sealPart_eq_ok
    (prepared : sealPart codec topology batch createdAt expiresAt batchId
      (taken.map (toJson codec.json)) = .ok part) :
    part.batchId = batchId ∧
      part.payload = ((partBatch batch batchId taken).toJson codec.json).text ∧
      (utf8 batchId).length ≤ 128 := by
  obtain ⟨_, canonical, prepared⟩ := bind_eq_ok.mp prepared
  obtain ⟨_, decodes, prepared⟩ := bind_eq_ok.mp prepared
  obtain ⟨named, carried, short, _⟩ := prepareIntegrationValue_eq_ok lawful prepared
  exact ⟨named, carried.trans (sealPart_decodes lawful canonical decodes), short⟩

/-- Sealing a part whose payload is small enough does not fail with its size. -/
theorem fits_prepareValue
    (small : payload.size ≤ maxCloudlinkMessageBytes) :
    Fits (codec.prepareValue .integrationObservationBatch batchId payload createdAt expiresAt) := by
  refine Fits.bind ?_ fun _ _ => Fits.bind ?_ fun _ _ => Fits.bind ?_ fun _ _ =>
    Fits.bind ?_ fun _ _ => Fits.bind (fits_canonicalBytes codec payload) fun bytes canonical =>
      Fits.bind ?_ fun _ _ => Fits.bind ?_ fun _ _ => fits_ok _
  · refine Fits.bind (fits_canonicalBytes codec payload) fun _ _ =>
      Fits.bind ?_ fun _ _ => fits_ok _
    exact fits_mapError fun _ _ _ => by simp
  · intro _ _
    simp only [codecIdentifier]
    split <;> simp
  · intro _ _
    unfold validateIntegrationBatchBinding
    split <;> simp
  · intro _ _
    unfold checkExpiry
    split <;> simp
  · have text := lawful.canonical (mapError_eq_ok.mp canonical)
    subst text
    exact fits_bound small
  · exact Fits.bind (fits_canonicalBytes codec _) fun _ _ => fits_ok _

/-- A part within the bound is not refused for its size. -/
theorem fits_sealPart (small : partSize batch batchId expiresAt.isSome
      (taken.map (toJson codec.json)) ≤ maxCloudlinkMessageBytes) :
    Fits (sealPart codec topology batch createdAt expiresAt batchId
      (taken.map (toJson codec.json))) := by
  refine Fits.bind (fits_canonicalBytes codec _) fun bytes canonical =>
    Fits.bind (fits_mapError fun _ _ _ => by simp) fun validated decodes => ?_
  have text := sealPart_decodes lawful canonical decodes
  have size : (completeEnvelope .integrationObservationBatch batchId
      (validated.toJson codec.json) expiresAt.isSome).size ≤ maxCloudlinkMessageBytes := by
    have exchange := size_completeEnvelope .integrationObservationBatch batchId
      (validated.toJson codec.json) ((partBatch batch batchId taken).toJson codec.json)
      expiresAt.isSome
    have same : (validated.toJson codec.json).size =
        ((partBatch batch batchId taken).toJson codec.json).size := congrArg List.length text
    rw [partSize, observationPayload_eq] at small
    omega
  refine Fits.bind ?_ fun _ _ => fits_prepareValue lawful
    ((size_le_completeEnvelope _ _ _ _).trans size)
  refine Fits.bind (fits_canonicalBytes codec _) fun envelope written =>
    Fits.bind ?_ fun _ _ => fits_ok _
  have same := lawful.canonical (mapError_eq_ok.mp written)
  subst same
  exact fits_bound size

/-- One round seals a first piece of the observations. -/
theorem preparePart_eq_ok (occupied : observations ≠ [])
    (prepared : preparePart codec topology batch createdAt expiresAt index
      (observations.map (weighed codec.json)) = .ok (part, rest)) :
    ∃ taken left, observations = taken ++ left ∧ rest = left.map (weighed codec.json) ∧
      part.batchId = partitionBatchId batch.batchId index (partitionIdentityHash codec batch) ∧
      Piece codec batch expiresAt.isSome part taken := by
  obtain ⟨_, measured, prepared⟩ := bind_eq_ok.mp prepared
  obtain ⟨⟨_, _⟩, filled, prepared⟩ := bind_eq_ok.mp prepared
  obtain ⟨_, prepares, same⟩ := bind_eq_ok.mp prepared
  cases same
  obtain ⟨exact, small⟩ := maximumCompleteEnvelopeSize_eq_ok lawful measured
  obtain ⟨taken, left, rfl, rfl, rfl, bounded, first⟩ := fillPart_eq_ok exact small filled
  obtain ⟨named, carried, short⟩ := sealPart_eq_ok lawful prepares
  rw [← named] at carried short bounded
  exact ⟨taken, left, rfl, rfl, named, first rfl occupied, carried, short, bounded⟩

/-- The rounds from an index on seal all the observations, in order. -/
theorem partitionFrom_eq_ok {total room : Nat}
    {parts : List CloudLinkEnqueue}
    (partitioned : partitionFrom codec topology batch createdAt expiresAt total room index
      (observations.map (weighed codec.json)) = .ok parts) :
    ∃ pieces : List (List IntegrationObservation), pieces.flatten = observations ∧
      List.Forall₂ (Piece codec batch expiresAt.isSome) parts pieces ∧
      parts.map CloudLinkEnqueue.batchId =
        partIds codec batch.integrationId batch.snapshotGeneration batch.batchId index
          parts.length := by
  induction room generalizing index observations parts with
  | zero =>
    cases observations with
    | nil =>
      cases partitioned
      exact ⟨[], rfl, .nil, rfl⟩
    | cons => cases partitioned
  | succ _ ih =>
    cases observations with
    | nil =>
      cases partitioned
      exact ⟨[], rfl, .nil, rfl⟩
    | cons =>
      obtain ⟨⟨_, _⟩, prepared, partitioned⟩ := bind_eq_ok.mp partitioned
      obtain ⟨_, follows, same⟩ := bind_eq_ok.mp partitioned
      cases same
      rw [← List.map_cons] at prepared
      obtain ⟨taken, _, split, rfl, named, piece⟩ :=
        preparePart_eq_ok lawful (List.cons_ne_nil _ _) prepared
      obtain ⟨pieces, rfl, sealedPieces, identities⟩ := ih follows
      refine ⟨taken :: pieces, split.symm, .cons piece sealedPieces, ?_⟩
      rw [List.map_cons, named, identities]
      rfl

theorem mapM_measure_eq_ok {measured : List (Json × Nat)}
    (measures : observations.mapM (measure codec) = .ok measured) :
    measured = observations.map (weighed codec.json) := by
  have each := forall₂_of_mapM measures
  clear measures
  induction each with
  | nil => rfl
  | cons first _ ih => rw [measure_eq_ok lawful first, ih, List.map_cons]

theorem piece_whole {whole : Json}
    (encoded : encodeObservationBatch codec.json batch topology = .ok bytes)
    (read : codec.json.readValue bytes = .ok whole)
    (prepared : prepareIntegrationValue codec .integrationObservationBatch batch.batchId whole
      createdAt expiresAt = .ok part) :
    part.batchId = batch.batchId ∧ Piece codec batch expiresAt.isSome part batch.observations := by
  obtain ⟨valid, rfl⟩ := encodeObservationBatch_eq_ok lawful encoded
  obtain ⟨schema, occupied⟩ := validateAgainst_eq_ok valid
  obtain ⟨named, carried, short, _⟩ := prepareIntegrationValue_eq_ok lawful prepared
  have text := lawful.readsValue read
  have same : partBatch batch part.batchId batch.observations = batch := by
    rw [named, partBatch, ← schema]
  refine ⟨named, occupied, ?_, named ▸ short, ?_⟩
  · rw [same, carried, text]
  · have exchange := size_completeEnvelope .integrationObservationBatch batch.batchId
      (batch.toJson codec.json) whole expiresAt.isSome
    have size : whole.size = (batch.toJson codec.json).size := congrArg List.length text
    rw [same, named]
    omega

end

def switchTopology : IntegrationTopologySnapshot where
  schema := topologySnapshotSchema
  integrationId := "home"
  integrationKind := "home-assistant"
  snapshotGeneration := "1"
  observedAtMs := "900"
  areas := []
  devices := []
  entities := [{
    entityId := "switch"
    sourceAddress := "switch.hall"
    name := "Hall switch"
    entityKind := "switch"
    deviceId := none
    areaId := none
    points := [{ pointKey := "state", title := "State", valueType := .boolean, unit := none }] }]

end AetherIot.CloudLink
