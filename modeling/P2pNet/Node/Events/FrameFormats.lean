/-
**The two frame formats** (`crates/api/mod.rs`, `crates/api/fragmentation.rs`, `crates/api/payload_bytes.rs`).

A frame on an application topic is a whole message or a fragment, both in JSON. `readAppMessage` and
`readAppFragment` are the derived deserialisers over the trees of `P2pNet.Lib.Serde`; a message rejects
unknown fields, so that a fragment, which has all its fields but the version, cannot pass as one.

`frame_formats_disjoint`: no byte string is accepted as both, in object form because the fragment has a
field the message does not know, in array form because it has more fields than a message may have items.
So a handler that tries the fragment first does the same as `handleAppMessage`.
-/

import P2pNet.Lib.Serde
import P2pNet.Node.Events.App

set_option linter.unusedSectionVars false

namespace P2pNet.Api

open Lib Serde

/-! ### The derived deserialisers -/

/-- The code outside: the JSON grammar, the error texts and the base64 decoder. -/
structure JsonText where
  parse : List UInt8 → Option Json
  complaint : List UInt8 → String
  base64 : String → Option (List UInt8)

/-- `serde_json::from_slice`: the text is one tree and the tree has the type. -/
def JsonText.fromSlice {α : Type} (text : JsonText) (read : Reader α) (raw : List UInt8) : Except String α :=
  match (text.parse raw).bind read with
  | some value => .ok value
  | none => .error (text.complaint raw)

/-- A base64 string or an array of bytes. -/
def readPayload (base64 : String → Option (List UInt8)) : Reader (List UInt8)
  | .string encoded => base64 encoded
  | .array items => items.mapM readU8
  | _ => none

def appMessageFields : List String :=
  ["schema_version", "network_id", "topic", "source_peer_id", "target_peer_id", "timestamp_ns", "nonce_hex",
    "payload"]

def readAppMessage (text : JsonText) : Reader AppMessage :=
  readStruct appMessageFields true fun source => do
    let schemaVersion ← source.field 0 (defaulted "schema_version" readU16 appMessageSchemaVersion)
    let networkId ← source.field 1 (required "network_id" readU32)
    let topic ← source.field 2 (required "topic" readString)
    let sourcePeerId ← source.field 3 (required "source_peer_id" readString)
    let targetPeerId ← source.field 4 (optional "target_peer_id" readString)
    let timestampNs ← source.field 5 (required "timestamp_ns" readU64)
    let nonceHex ← source.field 6 (required "nonce_hex" readString)
    let payload ← source.field 7 (required "payload" (readPayload text.base64))
    return { schemaVersion, networkId, topic, sourcePeerId, targetPeerId, timestampNs, nonceHex, payload }

def appFragmentFields : List String :=
  ["fragment_schema_version", "message_schema_version", "network_id", "topic", "source_peer_id",
    "target_peer_id", "timestamp_ns", "nonce_hex", "payload_hash_hex", "payload_len", "index", "total", "payload"]

def readAppFragment (text : JsonText) : Reader AppFragment :=
  readStruct appFragmentFields false fun source => do
    let fragmentSchemaVersion ← source.field 0 (required "fragment_schema_version" readU16)
    let messageSchemaVersion ← source.field 1 (required "message_schema_version" readU16)
    let networkId ← source.field 2 (required "network_id" readU32)
    let topic ← source.field 3 (required "topic" readString)
    let sourcePeerId ← source.field 4 (required "source_peer_id" readString)
    let targetPeerId ← source.field 5 (optional "target_peer_id" readString)
    let timestampNs ← source.field 6 (required "timestamp_ns" readU64)
    let nonceHex ← source.field 7 (required "nonce_hex" readString)
    let payloadHashHex ← source.field 8 (required "payload_hash_hex" readString)
    let payloadLen ← source.field 9 (required "payload_len" readUsize)
    let index ← source.field 10 (required "index" readUsize)
    let total ← source.field 11 (required "total" readUsize)
    let payload ← source.field 12 (required "payload" (readPayload text.base64))
    let fragment : AppFragment := {
      fragmentSchemaVersion, messageSchemaVersion, networkId, topic, sourcePeerId, targetPeerId, timestampNs,
      nonceHex, payloadHashHex, payloadLen, index, total, payload }
    return fragment

def JsonText.messages (text : JsonText) (toVec : AppMessage → Except String (List UInt8)) :
    SerdeJson AppMessage := ⟨toVec, text.fromSlice (readAppMessage text)⟩

def JsonText.fragments (text : JsonText) (toVec : AppFragment → Except String (List UInt8)) :
    SerdeJson AppFragment := ⟨toVec, text.fromSlice (readAppFragment text)⟩

/-! ### No tree is both -/

theorem fromSlice_ok_iff {α : Type} {text : JsonText} {read : Reader α} {raw : List UInt8} {value : α} :
    text.fromSlice read raw = .ok value ↔ ∃ json, text.parse raw = some json ∧ read json = some value := by
  unfold JsonText.fromSlice
  rw [← Option.bind_eq_some_iff]
  cases (text.parse raw).bind read with
  | none => simp
  | some found => simp

/-- A fragment has its version, and its hash beyond the fields of a message. -/
theorem readAppFragment_source {text : JsonText} {json : Json} {fragment : AppFragment}
    (reads : readAppFragment text json = some fragment) :
    (∃ members, json = .object members ∧ ∃ member ∈ members, member.1 = "fragment_schema_version") ∨
      ∃ items, json = .array items ∧ 8 < items.length := by
  rcases readStruct_source reads with ⟨members, rfl, built⟩ | ⟨items, rfl, built⟩
  · obtain ⟨_, version, _⟩ := Option.bind_eq_some_iff.mp built
    exact .inl ⟨members, rfl, required_member version⟩
  · refine .inr ⟨items, rfl, ?_⟩
    iterate 8 obtain ⟨_, _, built⟩ := Option.bind_eq_some_iff.mp built
    obtain ⟨_, hash, _⟩ := Option.bind_eq_some_iff.mp built
    exact required_item hash

/-- **No tree reads as a message and as a fragment.** -/
theorem not_message_and_fragment {text : JsonText} {json : Json} {message : AppMessage} {fragment : AppFragment}
    (whole : readAppMessage text json = some message) (part : readAppFragment text json = some fragment) :
    False := by
  rcases readAppFragment_source part with ⟨members, rfl, member, inside, version⟩ | ⟨items, rfl, long⟩
  · have known := strict_keys whole member inside
    rw [version] at known
    exact absurd known (by decide)
  · have short := array_length_le whole
    exact absurd (long.trans_le short) (by decide)

example : (readAppMessage ⟨fun _ => none, fun _ => "", fun _ => none⟩ (.object [("network_id", .natural 1),
    ("topic", .string "chat"), ("source_peer_id", .string "Qm"), ("timestamp_ns", .natural 7),
    ("nonce_hex", .string "00"), ("payload", .array [.natural 255])])).isSome = true := by decide

example : (readAppFragment ⟨fun _ => none, fun _ => "", fun _ => some []⟩ (.array [.natural 1, .natural 2,
    .natural 1, .string "chat", .string "Qm", .null, .natural 7, .string "00", .string "ff", .natural 16385,
    .natural 0, .natural 2, .string ""])).isSome = true := by decide

variable (PeerId : Type) [PeerIdentity PeerId]

theorem decodeAppMessage_fromSlice {messages : SerdeJson AppMessage} {raw : List UInt8} {message : AppMessage}
    (decoded : decodeAppMessage PeerId messages raw = .ok message) : messages.fromSlice raw = .ok message := by
  unfold decodeAppMessage at decoded
  rw [bind_unit_ok_iff, bind_ok_iff] at decoded
  obtain ⟨_, read, parsed, rest⟩ := decoded
  rw [bind_unit_ok_iff] at rest
  obtain ⟨_, returned⟩ := rest
  cases returned
  exact mapError_ok_iff.mp parsed

theorem not_decoded_twice (text : JsonText) (toVec : AppMessage → Except String (List UInt8))
    (fragmentToVec : AppFragment → Except String (List UInt8)) (raw : List UInt8) (message : AppMessage)
    (fragment : AppFragment) : ¬ (decodeAppMessage PeerId (text.messages toVec) raw = .ok message ∧
      decodeFragment PeerId (text.fragments fragmentToVec) raw = .ok fragment) := by
  rintro ⟨whole, part⟩
  obtain ⟨json, parsed, reads⟩ := fromSlice_ok_iff.mp (decodeAppMessage_fromSlice PeerId whole)
  obtain ⟨_, sliced, _⟩ := (decodeFragment_ok_iff PeerId _ raw fragment).mp part
  obtain ⟨other, again, partly⟩ := fromSlice_ok_iff.mp sliced
  obtain rfl := Option.some.inj (parsed.symm.trans again)
  exact not_message_and_fragment reads partly

end P2pNet.Api

namespace P2pNet.Node

open Lib PeerIdentity Api Protocol

variable {PeerId MessageId : Type} [PeerIdentity PeerId]

/-! ### The order of the decoders -/

/-- The handler with the two decoders in the other order. -/
def handleFragmentFirst (blake3 : Blake3) (messages : SerdeJson AppMessage)
    (fragments : SerdeJson AppFragment) (ctx : AppContext PeerId) (gossip : GossipMessage PeerId MessageId)
    (readings : Readings) : Except Fault (List (AppEffect PeerId MessageId) × AppContext PeerId) :=
  let accountedBytes := accountedTransportBytes gossip.data.length
  match gossip.authenticatedSource with
  | none =>
    .ok (rejectAppMessage gossip none accountedBytes "missing authenticated Gossipsub author", ctx)
  | some author =>
    match decodeFragment PeerId fragments gossip.data with
    | .ok _ => handleFragment blake3 fragments ctx gossip author accountedBytes readings
    | .error _ =>
      match decodeAppMessage PeerId messages gossip.data with
      | .ok message =>
        .ok (processCompleteMessage ctx gossip author accountedBytes message readings.unixTimestampNs)
      | .error _ => handleFragment blake3 fragments ctx gossip author accountedBytes readings

/-- **The two formats are disjoint**, and the order of the decoders makes no difference. -/
theorem frame_formats_disjoint (blake3 : Blake3) (text : JsonText)
    (messageToVec : AppMessage → Except String (List UInt8))
    (fragmentToVec : AppFragment → Except String (List UInt8)) :
    (∀ (raw : List UInt8) (message : AppMessage) (fragment : AppFragment),
      ¬ (decodeAppMessage PeerId (text.messages messageToVec) raw = .ok message ∧
        decodeFragment PeerId (text.fragments fragmentToVec) raw = .ok fragment)) ∧
    ∀ (ctx : AppContext PeerId) (gossip : GossipMessage PeerId MessageId) (readings : Readings),
      handleAppMessage blake3 (text.messages messageToVec) (text.fragments fragmentToVec) ctx gossip readings
        = handleFragmentFirst blake3 (text.messages messageToVec) (text.fragments fragmentToVec) ctx gossip
          readings := by
  refine ⟨not_decoded_twice PeerId text messageToVec fragmentToVec, ?_⟩
  intro ctx gossip readings
  unfold handleAppMessage handleFragmentFirst
  cases gossip.authenticatedSource with
  | none => rfl
  | some author =>
    cases whole : decodeAppMessage PeerId (text.messages messageToVec) gossip.data with
    | ok message =>
      cases part : decodeFragment PeerId (text.fragments fragmentToVec) gossip.data with
      | ok fragment => exact (not_decoded_twice PeerId text _ _ _ _ _ ⟨whole, part⟩).elim
      | error reason => rfl
    | error reason =>
      cases part : decodeFragment PeerId (text.fragments fragmentToVec) gossip.data with
      | ok fragment => rfl
      | error reason => rfl

end P2pNet.Node
