import VskLabs.Contracts.Validation
import VskLabs.Library.Outcome

/-! The canonical bytes of signed inventory exports. -/

namespace VskLabs.StateExport
open Library

/-- A Go string is any sequence of bytes. -/
abbrev Text := List UInt8

/-- Nanoseconds since the zero time, and whether the location is `time.UTC`. -/
structure Timestamp where
  nanoseconds : Int
  utc : Bool
  deriving DecidableEq

/-- A slice that is nil is told apart from an empty one. -/
abbrev Slice (α : Type) := Option (List α)

structure KindCount where
  kind : Text
  count : Int
  deriving DecidableEq

structure DraftRef where
  id : Text
  revision : Int
  deriving DecidableEq

structure SourceDescriptor where
  (kind adapterKind adapterVersion sourceRevision digest : Text)
  capturedAt : Timestamp
  deriving DecidableEq

structure DraftIdentity where
  (kind value : Text)
  quarantined : Bool
  deriving DecidableEq

structure DraftHardwareFact where
  (id kind : Text)
  integerValue : Option Int
  textValue : Option Text
  unit : Text
  deriving DecidableEq

structure DraftAsset where
  (id kind lifecycle : Text)
  identities : Slice DraftIdentity
  hardwareFacts : Slice DraftHardwareFact
  deriving DecidableEq

structure DraftNode where
  (id assetID parentID : Text)
  deriving DecidableEq

structure DraftAlias where
  (id targetID value : Text)
  deriving DecidableEq

structure DraftAddress where
  (id nodeID value : Text)
  deriving DecidableEq

structure DraftObservation where
  (id subjectID kind value : Text)
  observedAt : Timestamp
  deriving DecidableEq

structure FieldProvenance where
  (recordKind recordID fieldPath locator : Text)
  capturedAt : Timestamp
  (adapterVersion valueStatus : Text)
  deriving DecidableEq

structure Finding where
  (code severity : Text)
  blocking : Bool
  (recordKind recordID fieldPath location : Text)
  relatedIDs : Slice Text
  deriving DecidableEq

structure CanonicalDraftSnapshot where
  kind : Text
  ref : DraftRef
  validationStatus : Text
  source : SourceDescriptor
  assets : Slice DraftAsset
  nodes : Slice DraftNode
  aliases : Slice DraftAlias
  addresses : Slice DraftAddress
  observations : Slice DraftObservation
  provenance : Slice FieldProvenance
  findings : Slice Finding
  contentDigest : Text
  deriving DecidableEq

structure Payload where
  (schema schemaVersion exportKind subjectKind : Text)
  (recoveryEpoch stateRevision : Int)
  (toolVersion releaseBuildID : Text)
  sourceRevision : Option Text
  contents : Slice KindCount
  draft : CanonicalDraftSnapshot
  deriving DecidableEq

structure DetachedSignature where
  (algorithm keyID keyFingerprint value : Text)
  deriving DecidableEq

structure SignedExport where
  (schema schemaVersion : Text)
  payload : Payload
  contentDigest : Text
  signature : DetachedSignature
  verificationStatus : Text
  deriving DecidableEq

def maxArtifactBytes : Nat := 16 <<< 20

def hexadecimal (byte : UInt8) : Bool := decimalDigit byte || between 'a' 'f' byte

def digestPattern (text : Text) : Bool :=
  text.take 7 == bytes "sha256:" && (text.drop 7).length == 64 && (text.drop 7).all hexadecimal

def revisionPattern (text : Text) : Bool := decide (40 ≤ text.length ∧ text.length ≤ 64) && text.all hexadecimal

def tokenPattern (text : Text) : Bool :=
  let alphanumeric := fun byte => lowercase byte || uppercase byte || decimalDigit byte
  decide (1 ≤ text.length ∧ text.length ≤ 128) && (text.take 1).all alphanumeric &&
    text.all fun byte => alphanumeric byte || oneOf ['.', '_', '+', ':', '-'] byte

def canonicalUTC (value : Timestamp) : Bool :=
  value.nanoseconds != 0 && value.utc && decide (0 ≤ value.nanoseconds % 1000000000)

/-- The elements the loops and the reflection walk over. -/
def Slice.elements {α : Type} (slice : Slice α) : List α := slice.getD []

section Texts

/-! The texts `validateStrings` reaches by reflection, record by record. -/

def DraftAsset.texts (asset : DraftAsset) : List Text :=
  [asset.id, asset.kind, asset.lifecycle] ++
    asset.identities.elements.flatMap (fun identity => [identity.kind, identity.value]) ++
    asset.hardwareFacts.elements.flatMap (fun fact => [fact.id, fact.kind] ++ fact.textValue.toList ++ [fact.unit])

def Finding.texts (finding : Finding) : List Text :=
  [finding.code, finding.severity, finding.recordKind, finding.recordID, finding.fieldPath, finding.location] ++
    finding.relatedIDs.elements

def CanonicalDraftSnapshot.texts (draft : CanonicalDraftSnapshot) : List Text :=
  [draft.kind, draft.ref.id, draft.validationStatus, draft.source.kind, draft.source.adapterKind,
    draft.source.adapterVersion, draft.source.sourceRevision, draft.source.digest] ++
    draft.assets.elements.flatMap DraftAsset.texts ++
    draft.nodes.elements.flatMap (fun node => [node.id, node.assetID, node.parentID]) ++
    draft.aliases.elements.flatMap (fun one => [one.id, one.targetID, one.value]) ++
    draft.addresses.elements.flatMap (fun address => [address.id, address.nodeID, address.value]) ++
    draft.observations.elements.flatMap (fun seen => [seen.id, seen.subjectID, seen.kind, seen.value]) ++
    draft.provenance.elements.flatMap (fun field =>
      [field.recordKind, field.recordID, field.fieldPath, field.locator, field.adapterVersion, field.valueStatus]) ++
    draft.findings.elements.flatMap Finding.texts ++ [draft.contentDigest]

def Payload.texts (payload : Payload) : List Text :=
  [payload.schema, payload.schemaVersion, payload.exportKind, payload.subjectKind, payload.toolVersion,
    payload.releaseBuildID] ++ payload.sourceRevision.toList ++ payload.contents.elements.map KindCount.kind ++
    payload.draft.texts

def SignedExport.texts (value : SignedExport) : List Text :=
  [value.schema, value.schemaVersion] ++ value.payload.texts ++
    [value.contentDigest, value.signature.algorithm, value.signature.keyID, value.signature.keyFingerprint,
      value.signature.value, value.verificationStatus]

def CanonicalDraftSnapshot.times (draft : CanonicalDraftSnapshot) : List Timestamp :=
  draft.source.capturedAt :: (draft.observations.elements.map DraftObservation.observedAt ++
    draft.provenance.elements.map FieldProvenance.capturedAt)

end Texts

/-- What the codec uses of `unicode/utf8`, `encoding/json` and SHA-256. Decoding
reads the first value of the input and leaves the bytes after it. -/
structure Runtime (Digest : Type) where
  validString : Text → Bool
  marshalPayload : Payload → Option (List UInt8)
  marshal : SignedExport → Option (List UInt8)
  decode : List UInt8 → Option (SignedExport × List UInt8)
  sum : List UInt8 → Digest

variable {Digest : Type} (runtime : Runtime Digest)

/-- The documented round trip: the encoding of a value whose texts are UTF-8 and
whose times are UTC decodes to that value and is used up by it. -/
def Runtime.ReadsBack : Prop :=
  ∀ value body, (∀ text ∈ value.texts, runtime.validString text = true) →
    (∀ time ∈ value.payload.draft.times, time.utc = true) →
    runtime.marshal value = some body → runtime.decode body = some (value, [])

def validateStrings (texts : List Text) : Except Failure Unit :=
  ensure (texts.all fun text => runtime.validString text && !text.contains 0 && decide (text.length ≤ 4096))
    (.coded .inputInvalid "inventory-export-string")

def validateDraft (value : CanonicalDraftSnapshot) : Except Failure Unit := do
  let invalid := Failure.coded .inputInvalid "inventory-export-draft"
  ensure (value.kind == bytes "draft" && value.ref.id != [] && decide (1 ≤ value.ref.revision) &&
    (value.validationStatus == bytes "valid" || value.validationStatus == bytes "blocked") &&
    digestPattern value.source.digest && digestPattern value.contentDigest && canonicalUTC value.source.capturedAt &&
    value.assets.isSome && value.nodes.isSome && value.aliases.isSome && value.addresses.isSome &&
    value.observations.isSome && value.provenance.isSome && value.findings.isSome) invalid
  ensure (value.assets.elements.all fun asset => asset.identities.isSome && asset.hardwareFacts.isSome) invalid
  ensure (value.observations.elements.all fun observation => canonicalUTC observation.observedAt) invalid
  ensure (value.provenance.elements.all fun provenance => canonicalUTC provenance.capturedAt) invalid
  ensure (value.findings.elements.all fun finding => finding.relatedIDs.isSome) invalid

def validatePayload (value : Payload) : Except Failure Unit := do
  ensure (value.schema == bytes "vegastack-labs.dev/inventory-draft-snapshot-payload" &&
    value.schemaVersion == bytes "1.0.0" && value.exportKind == bytes "inventory-draft-snapshot" &&
    value.subjectKind == bytes "draft" && decide (0 ≤ value.recoveryEpoch) && decide (0 ≤ value.stateRevision) &&
    tokenPattern value.toolVersion && tokenPattern value.releaseBuildID &&
    value.sourceRevision.all revisionPattern && value.contents == some [⟨bytes "inventory-draft", 1⟩])
    (.coded .inputInvalid "inventory-export-payload")
  validateDraft value.draft
  validateStrings runtime value.texts

/-- An encoding that is neither empty nor too long, with its digest. -/
def Runtime.seal (encoded : Option (List UInt8)) (target : String) : Except Failure (List UInt8 × Digest) := do
  let body ← require encoded (.coded .inputInvalid target)
  ensure (body != [] && decide (body.length ≤ maxArtifactBytes)) (.coded .inputInvalid target)
  return (body, runtime.sum body)

def canonicalPayload (value : Payload) : Except Failure (List UInt8 × Digest) := do
  validatePayload runtime value
  runtime.seal (runtime.marshalPayload value) "inventory-export-payload"

def canonicalSignedExport (value : SignedExport) : Except Failure (List UInt8 × Digest) := do
  ensure (value.schema == bytes "vegastack-labs.dev/signed-inventory-draft-export" &&
    value.schemaVersion == bytes "1.0.0" && digestPattern value.contentDigest &&
    value.verificationStatus == bytes "verified" && value.signature.algorithm != [] && value.signature.keyID != [] &&
    value.signature.keyFingerprint != [] && value.signature.value != [])
    (.coded .inputInvalid "inventory-export-document")
  let _ ← canonicalPayload runtime value.payload
  validateStrings runtime value.texts
  runtime.seal (runtime.marshal value) "inventory-export-document"

def whitespace (byte : UInt8) : Bool := oneOf [' ', '\t', '\r', '\n'] byte

def decodeSignedExport (raw : List UInt8) : Except Failure SignedExport := do
  let invalid := Failure.coded .inputInvalid "inventory-export-document"
  let broken := Failure.coded .integrityFailure "inventory-export-document"
  ensure (raw != [] && decide (raw.length ≤ maxArtifactBytes)) invalid
  let (value, trailing) ← require (runtime.decode raw) invalid
  -- the second `Decode` reports the end of input only after whitespace
  ensure (trailing.all whitespace) invalid
  let (canonical, _) ← (canonicalSignedExport runtime value).mapError fun _ => broken
  ensure (canonical == raw) broken
  return value

variable {runtime}

theorem Runtime.seal_ok {encoded : Option (List UInt8)} {target : String} {body : List UInt8} {digest : Digest} :
    runtime.seal encoded target = .ok (body, digest) ↔
      encoded = some body ∧ body ≠ [] ∧ body.length ≤ maxArtifactBytes ∧ runtime.sum body = digest := by
  simp only [Runtime.seal, peel, checks, Prod.mk.injEq]
  constructor
  · rintro ⟨_, encoded, _, ⟨filled, short⟩, rfl, sum⟩
    exact ⟨encoded, filled, short, sum⟩
  · rintro ⟨encoded, filled, short, sum⟩
    exact ⟨_, encoded, (), ⟨filled, short⟩, rfl, sum⟩

theorem validateDraft_utc {draft : CanonicalDraftSnapshot} (valid : validateDraft draft = .ok ()) :
    ∀ time ∈ draft.times, time.utc = true := by
  simp only [validateDraft, canonicalUTC, peel, checks] at valid
  obtain ⟨_, source, _, _, _, observed, _, captured, _⟩ := valid
  simp only [CanonicalDraftSnapshot.times, List.mem_cons, List.mem_append, List.mem_map]
  rintro _ (rfl | ⟨seen, member, rfl⟩ | ⟨field, member, rfl⟩)
  · tauto
  · exact (observed seen member).1.2
  · exact (captured field member).1.2

/-- An accepted document has bytes within the limits that decode to it. -/
theorem canonicalSignedExport_readsBack (readsBack : runtime.ReadsBack) {value : SignedExport} {body : List UInt8}
    {digest : Digest} (accepted : canonicalSignedExport runtime value = .ok (body, digest)) :
    decodeSignedExport runtime body = .ok value ∧ runtime.sum body = digest := by
  have checked := accepted
  simp only [canonicalSignedExport, canonicalPayload, validatePayload, validateStrings, peel, checks] at checked
  obtain ⟨_, _, _, ⟨_, ⟨_, _, _, draft, _⟩, _⟩, _, texts, sealed⟩ := checked
  obtain ⟨encoded, filled, short, sum⟩ := Runtime.seal_ok.mp sealed
  have decoded := readsBack value body (fun text member => (texts text member).1.1) (validateDraft_utc draft) encoded
  refine ⟨?_, sum⟩
  simp only [decodeSignedExport, peel, mapError_eq_ok]
  exact ⟨(), by simp [filled, short], (value, []), decoded, (), rfl, (body, digest), accepted, (), beq_self_eq_true _, rfl⟩

/-- Decoding closes the gap to a laxer decoder by comparing bytes. -/
theorem decodeSignedExport_canonical {raw : List UInt8} {value : SignedExport}
    (decoded : decodeSignedExport runtime raw = .ok value) :
    canonicalSignedExport runtime value = .ok (raw, runtime.sum raw) := by
  simp only [decodeSignedExport, peel, mapError_eq_ok, checks] at decoded
  obtain ⟨_, _, ⟨value, _⟩, _, _, _, ⟨canonical, digest⟩, accepted, _, rfl, rfl⟩ := decoded
  have sealed := accepted
  simp only [canonicalSignedExport, peel] at sealed
  obtain ⟨_, _, _, _, _, _, sealed⟩ := sealed
  obtain ⟨_, _, _, rfl⟩ := Runtime.seal_ok.mp sealed
  exact accepted

/-- Accepted bytes and accepted documents determine each other, and so do
documents and their digests unless two encodings collide. -/
theorem signedExport_codec (readsBack : runtime.ReadsBack) :
    (∀ raw, (∃ document, decodeSignedExport runtime raw = .ok document) ↔
      ∃ document digest, canonicalSignedExport runtime document = .ok (raw, digest)) ∧
    (∀ raw document, decodeSignedExport runtime raw = .ok document →
      canonicalSignedExport runtime document = .ok (raw, runtime.sum raw)) ∧
    (∀ first second, first ≠ second → ∀ document other, decodeSignedExport runtime first = .ok document →
      decodeSignedExport runtime second = .ok other → document ≠ other) ∧
    ∀ document other first second digest, canonicalSignedExport runtime document = .ok (first, digest) →
      canonicalSignedExport runtime other = .ok (second, digest) →
      (runtime.sum first = runtime.sum second → first = second) → document = other := by
  refine ⟨fun raw => ⟨?_, ?_⟩, fun raw document => decodeSignedExport_canonical, ?_, ?_⟩
  · rintro ⟨document, decoded⟩
    exact ⟨document, _, decodeSignedExport_canonical decoded⟩
  · rintro ⟨document, digest, accepted⟩
    exact ⟨document, (canonicalSignedExport_readsBack readsBack accepted).1⟩
  · rintro first second different document _ decoded again rfl
    have same := (decodeSignedExport_canonical decoded).symm.trans (decodeSignedExport_canonical again)
    cases same
    exact different rfl
  · intro document other first second digest accepted again collisionFree
    obtain ⟨decoded, sum⟩ := canonicalSignedExport_readsBack readsBack accepted
    obtain ⟨decodedAgain, sumAgain⟩ := canonicalSignedExport_readsBack readsBack again
    obtain rfl := collisionFree (sum.trans sumAgain.symm)
    cases decoded.symm.trans decodedAgain
    rfl

def fixtureDigest : String := "sha256:aaaaaaaaaaaaaaaaaaaaaaaaaaaaaaaaaaaaaaaaaaaaaaaaaaaaaaaaaaaaaaaa"

/-- A draft with a record of every kind. -/
def draftPayload : Payload where
  schema := bytes "vegastack-labs.dev/inventory-draft-snapshot-payload"
  schemaVersion := bytes "1.0.0"
  exportKind := bytes "inventory-draft-snapshot"
  subjectKind := bytes "draft"
  recoveryEpoch := 2
  stateRevision := 7
  toolVersion := bytes "0.0.0-test"
  releaseBuildID := bytes "build"
  sourceRevision := none
  contents := some [⟨bytes "inventory-draft", 1⟩]
  draft :=
    -- 2026-09-08T10:00:00Z
    let time := ⟨63924458400000000000, true⟩
    { kind := bytes "draft", ref := ⟨bytes "draft-test-1", 1⟩, validationStatus := bytes "valid"
      source := ⟨bytes "synthetic", bytes "fixture", bytes "1.0.0", bytes "fixture-1", bytes fixtureDigest, time⟩
      assets := some [⟨bytes "asset-1", bytes "physical", bytes "candidate",
        some [⟨bytes "hardware-serial", bytes "S-1", false⟩],
        some [⟨bytes "fact-1", bytes "memory", some 64, none, bytes "gib"⟩]⟩]
      nodes := some [⟨bytes "node-1", bytes "asset-1", []⟩]
      aliases := some [⟨bytes "alias-1", bytes "node-1", bytes "host-a"⟩]
      addresses := some [⟨bytes "address-1", bytes "node-1", bytes "192.0.2.1"⟩]
      observations := some [⟨bytes "seen-1", bytes "node-1", bytes "state", bytes "up", time⟩]
      provenance := some [⟨bytes "node", bytes "node-1", bytes "/id", bytes "row-1", time, bytes "1.0.0",
        bytes "present"⟩]
      findings := some [⟨bytes "stale", bytes "warning", false, bytes "node", bytes "node-1", bytes "/id",
        bytes "row-1", some [bytes "asset-1"]⟩]
      contentDigest := bytes fixtureDigest }

def draftPayloadJSON : Text := List.flatMap bytes
  ["\x7b\"schema\":\"vegastack-labs.dev/inventory-draft-snapshot-payload\",",
    "\"schemaVersion\":\"1.0.0\",\"exportKind\":\"inventory-draft-snapshot\",",
    "\"subjectKind\":\"draft\",\"recoveryEpoch\":2,\"stateRevision\":7,\"toolVersion\":\"0.0.0-test\",",
    "\"releaseBuildId\":\"build\",\"sourceRevision\":null,\"contents\":[\x7b\"kind\":\"inventory-draft\",",
    "\"count\":1\x7d],\"draft\":\x7b\"kind\":\"draft\",\"ref\":\x7b\"id\":\"draft-test-1\",",
    "\"revision\":1\x7d,\"validationStatus\":\"valid\",\"source\":\x7b\"kind\":\"synthetic\",",
    "\"adapterKind\":\"fixture\",\"adapterVersion\":\"1.0.0\",\"sourceRevision\":\"fixture-1\",", "\"digest\":\"",
    fixtureDigest, "\",\"capturedAt\":\"2026-09-08T10:00:00Z\"\x7d,\"assets\":[\x7b\"id\":\"asset-1\",",
    "\"kind\":\"physical\",\"lifecycle\":\"candidate\",\"identities\":[\x7b\"kind\":\"hardware-serial\",",
    "\"value\":\"S-1\",\"quarantined\":false\x7d],\"hardwareFacts\":[\x7b\"id\":\"fact-1\",",
    "\"kind\":\"memory\",\"integerValue\":64,\"textValue\":null,\"unit\":\"gib\"\x7d]\x7d],",
    "\"nodes\":[\x7b\"id\":\"node-1\",\"assetId\":\"asset-1\",\"parentId\":\"\"\x7d],",
    "\"aliases\":[\x7b\"id\":\"alias-1\",\"targetId\":\"node-1\",\"value\":\"host-a\"\x7d],",
    "\"addresses\":[\x7b\"id\":\"address-1\",\"nodeId\":\"node-1\",\"value\":\"192.0.2.1\"\x7d],",
    "\"observations\":[\x7b\"id\":\"seen-1\",\"subjectId\":\"node-1\",\"kind\":\"state\",",
    "\"value\":\"up\",\"observedAt\":\"2026-09-08T10:00:00Z\"\x7d],\"provenance\":[\x7b\"recordKind\":\"node\",",
    "\"recordId\":\"node-1\",\"fieldPath\":\"/id\",\"locator\":\"row-1\",\"capturedAt\":\"2026-09-08T10:00:00Z\",",
    "\"adapterVersion\":\"1.0.0\",\"valueStatus\":\"present\"\x7d],\"findings\":[\x7b\"code\":\"stale\",",
    "\"severity\":\"warning\",\"blocking\":false,\"recordKind\":\"node\",\"recordId\":\"node-1\",",
    "\"fieldPath\":\"/id\",\"location\":\"row-1\",\"relatedIds\":[\"asset-1\"]\x7d],", "\"contentDigest\":\"",
    fixtureDigest, "\"\x7d\x7d"]

/-- The SHA-256 of `draftPayloadJSON`. -/
def draftPayloadSum : String := "c9a25ecbb249e043dc879be9a56c978ba76a289eaab4991db19b9c29a368ab56"

def draftExport : SignedExport where
  schema := bytes "vegastack-labs.dev/signed-inventory-draft-export"
  schemaVersion := bytes "1.0.0"
  payload := draftPayload
  contentDigest := bytes ("sha256:" ++ draftPayloadSum)
  signature := ⟨bytes "ed25519", bytes "key", bytes fixtureDigest, bytes "c2ln"⟩
  verificationStatus := bytes "verified"

def draftExportJSON : Text :=
  List.flatMap bytes ["\x7b\"schema\":\"vegastack-labs.dev/signed-inventory-draft-export\",\"schemaVersion\":\"1.0.0\",",
    "\"payload\":"] ++
  draftPayloadJSON ++ List.flatMap bytes
    [",\"contentDigest\":\"sha256:", draftPayloadSum,
      "\",\"signature\":\x7b\"algorithm\":\"ed25519\",\"keyId\":\"key\",\"keyFingerprint\":\"", fixtureDigest,
      "\",\"value\":\"c2ln\"\x7d,\"verificationStatus\":\"verified\"\x7d"]

/-- The library functions on the one draft: its documents with their JSON, and
the SHA-256 of each. Every text of the draft is ASCII. -/
def draftRuntime : Runtime String where
  validString text := text.all (· < 128)
  marshalPayload value := if value = draftPayload then some draftPayloadJSON else none
  marshal value := if value = draftExport then some draftExportJSON else none
  decode raw := if raw = draftExportJSON then some (draftExport, []) else none
  sum body :=
    if body = draftExportJSON then "87712b067582230564274cee910847d1a617bb94e7419fc2b8a57f2aa4a4450f"
    else if body = draftPayloadJSON then draftPayloadSum else ""

theorem signedExport_codec_draft :
    draftRuntime.ReadsBack ∧ decodeSignedExport draftRuntime draftExportJSON = .ok draftExport := by
  have readsBack : draftRuntime.ReadsBack := by
    intro value body _ _ encoded
    simp only [draftRuntime, Option.ite_none_right_eq_some, Option.some.injEq] at encoded ⊢
    obtain ⟨known, written⟩ := encoded
    exact ⟨written.symm, by rw [known]⟩
  have accepted : canonicalSignedExport draftRuntime draftExport =
      .ok (draftExportJSON, draftRuntime.sum draftExportJSON) := by
    decide +kernel
  have codec := signedExport_codec readsBack
  obtain ⟨document, decoded⟩ := (codec.1 _).mpr ⟨_, _, accepted⟩
  have same := codec.2.2.2 _ _ _ _ _ accepted (codec.2.1 _ _ decoded) fun _ => rfl
  exact ⟨readsBack, same ▸ decoded⟩

end VskLabs.StateExport
