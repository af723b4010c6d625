/-
**Fragments of a large message** (`crates/api/fragmentation.rs`, the stateless half).

A message whose payload is longer than 16 KiB travels as fragments: one per 16 KiB chunk, each with
the message's metadata, the BLAKE3 hash of the whole payload, its index and the number of fragments
(`fragmentMessage`). A receiver decodes a frame and checks it on its own (`decodeFragment`,
`validateFragment`).
-/

import P2pNet.Api.AppMessage

namespace P2pNet.Api

open Lib PeerIdentity

/-! ### Limits and data -/

def appFragmentSchemaVersion : UInt16 := 1
def appFragmentPayloadBytes : ℕ := 16 * 1024
def maxAppFragments : ℕ := divCeil maxAppMessageBytes appFragmentPayloadBytes
def maxFragmentWireBytes : ℕ := 128 * 1024

structure AppFragment where
  fragmentSchemaVersion : UInt16
  messageSchemaVersion : UInt16
  networkId : UInt32
  topic : String
  sourcePeerId : String
  targetPeerId : Option String
  timestampNs : UInt64
  nonceHex : String
  payloadHashHex : String
  payloadLen : ℕ
  index : ℕ
  total : ℕ
  payload : List UInt8
  deriving DecidableEq, Repr

def appError (topic reason : String) : NetError := .appMessage topic reason

/-- The payload length the check prescribes for an index. -/
def expectedLen (payloadLen total index : ℕ) : ℕ :=
  if index + 1 = total then payloadLen - appFragmentPayloadBytes * (total - 1)
  else appFragmentPayloadBytes

/-- `blake3::hash(payload).to_hex()`. -/
def payloadHash (blake3 : Blake3) (payload : List UInt8) : String := Hex.encode (blake3 payload).toList

/-- The fragment `fragment_message` builds for one chunk. -/
def fragmentOf (blake3 : Blake3) (message : AppMessage) (index : ℕ) (payload : List UInt8) :
    AppFragment where
  fragmentSchemaVersion := appFragmentSchemaVersion
  messageSchemaVersion := message.schemaVersion
  networkId := message.networkId
  topic := message.topic
  sourcePeerId := message.sourcePeerId
  targetPeerId := message.targetPeerId
  timestampNs := message.timestampNs
  nonceHex := message.nonceHex
  payloadHashHex := payloadHash blake3 message.payload
  payloadLen := message.payload.length
  index := index
  total := divCeil message.payload.length appFragmentPayloadBytes
  payload := payload

/-- Do two fragments carry the same message metadata? -/
def sameMessage (a b : AppFragment) : Bool :=
  a.messageSchemaVersion == b.messageSchemaVersion
    && a.networkId == b.networkId
    && a.topic == b.topic
    && a.sourcePeerId == b.sourcePeerId
    && a.targetPeerId == b.targetPeerId
    && a.timestampNs == b.timestampNs
    && a.nonceHex == b.nonceHex
    && a.payloadHashHex == b.payloadHashHex
    && a.payloadLen == b.payloadLen
    && a.total == b.total

/-! ### Sending and receiving frames -/

section Codec

variable (PeerId : Type) [PeerIdentity PeerId] (blake3 : Blake3) (messages : SerdeJson AppMessage)
  (fragments : SerdeJson AppFragment)

def encodeFragment (topic : String) (fragment : AppFragment) : Except NetError (List UInt8) := do
  let wire ← (fragments.toVec fragment).mapError (appError topic)
  rejectIf (wire.length > maxFragmentWireBytes) (appError topic "encoded fragment exceeds wire bound")
  return wire

def fragmentMessage (message : AppMessage) : Except NetError (List (List UInt8)) := do
  validateAppMessage PeerId message
  if message.payload.length ≤ appFragmentPayloadBytes then
    let wire ← encodeAppMessage PeerId messages message
    return [wire]
  else
    let total := divCeil message.payload.length appFragmentPayloadBytes
    rejectIf (total = 0 ∨ total > maxAppFragments)
      (appError message.topic "fragment count exceeds bounded maximum")
    (chunks appFragmentPayloadBytes message.payload).zipIdx.mapM fun (payload, index) =>
      encodeFragment fragments message.topic (fragmentOf blake3 message index payload)

def validateFragment (fragment : AppFragment) : Except NetError Unit := do
  rejectIf (fragment.fragmentSchemaVersion ≠ appFragmentSchemaVersion
      ∨ fragment.messageSchemaVersion ≠ appMessageSchemaVersion)
    (appError fragment.topic "unsupported fragment/message schema version")
  let _ ← normalizeAppTopic fragment.topic
  checkPeerId PeerId fragment.topic "invalid fragment source peer id" fragment.sourcePeerId
  checkTargetPeerId PeerId fragment.topic "invalid fragment target peer id" fragment.targetPeerId
  rejectIf (fragment.payloadLen > maxAppMessageBytes ∨ fragment.payloadLen ≤ appFragmentPayloadBytes)
    (appError fragment.topic "invalid fragmented payload length")
  let expectedTotal := divCeil fragment.payloadLen appFragmentPayloadBytes
  rejectIf (fragment.total ≠ expectedTotal ∨ fragment.total = 0 ∨ fragment.total > maxAppFragments
      ∨ fragment.index ≥ fragment.total)
    (appError fragment.topic "invalid fragment index/total")
  rejectIf (fragment.payload.length ≠ expectedLen fragment.payloadLen fragment.total fragment.index)
    (appError fragment.topic "fragment payload length does not match index/total")
  rejectIf (fragment.payloadHashHex.utf8ByteSize ≠ 64 ∨ ¬ fragment.payloadHashHex.toList.all Hex.isDigit)
    (appError fragment.topic "invalid fragment payload hash")

def decodeFragment (raw : List UInt8) : Except NetError AppFragment := do
  rejectIf (raw.length > maxFragmentWireBytes) (appError "<unknown>" "fragment wire exceeds bound")
  let fragment ← (fragments.fromSlice raw).mapError (appError "<unknown>")
  validateFragment PeerId fragment
  return fragment

/-! ### The receiver's check -/

/-- **What an accepted fragment satisfies.** -/
structure AppFragment.Valid (fragment : AppFragment) : Prop where
  fragmentSchema : fragment.fragmentSchemaVersion = appFragmentSchemaVersion
  messageSchema : fragment.messageSchemaVersion = appMessageSchemaVersion
  topic : IsTopic fragment.topic
  source : IsPeerId PeerId fragment.sourcePeerId
  target : ∀ target, fragment.targetPeerId = some target → IsPeerId PeerId target
  bounded : fragment.payloadLen ≤ maxAppMessageBytes
  long : appFragmentPayloadBytes < fragment.payloadLen
  total_eq : fragment.total = divCeil fragment.payloadLen appFragmentPayloadBytes
  total_ne : fragment.total ≠ 0
  total_le : fragment.total ≤ maxAppFragments
  index_lt : fragment.index < fragment.total
  length_eq : fragment.payload.length = expectedLen fragment.payloadLen fragment.total fragment.index
  hash_size : fragment.payloadHashHex.utf8ByteSize = 64
  hash_digits : fragment.payloadHashHex.toList.all Hex.isDigit = true

theorem validateFragment_ok_iff (fragment : AppFragment) :
    validateFragment PeerId fragment = .ok () ↔ fragment.Valid PeerId := by
  unfold validateFragment
  rw [bind_unit_ok_iff, rejectIf_ok_iff, bind_ok_iff]
  constructor
  · rintro ⟨schemas, normal, topic, rest⟩
    rw [bind_unit_ok_iff, checkPeerId_ok_iff, bind_unit_ok_iff, checkTargetPeerId_ok_iff,
      bind_unit_ok_iff, rejectIf_ok_iff, bind_unit_ok_iff, rejectIf_ok_iff, bind_unit_ok_iff,
      rejectIf_ok_iff, rejectIf_ok_iff] at rest
    obtain ⟨source, target, lengths, counts, exact, hash⟩ := rest
    push Not at schemas lengths counts exact hash
    exact ⟨schemas.1, schemas.2, ⟨normal, topic⟩, source, target, lengths.1, lengths.2, counts.1,
      counts.2.1, counts.2.2.1, counts.2.2.2, exact, hash.1, hash.2⟩
  · intro valid
    obtain ⟨normal, topic⟩ := valid.topic
    refine ⟨?_, normal, topic, ?_⟩
    · push Not
      exact ⟨valid.fragmentSchema, valid.messageSchema⟩
    · rw [bind_unit_ok_iff, checkPeerId_ok_iff, bind_unit_ok_iff, checkTargetPeerId_ok_iff,
        bind_unit_ok_iff, rejectIf_ok_iff, bind_unit_ok_iff, rejectIf_ok_iff, bind_unit_ok_iff,
        rejectIf_ok_iff, rejectIf_ok_iff]
      push Not
      exact ⟨valid.source, valid.target, ⟨valid.bounded, valid.long⟩,
        ⟨valid.total_eq, valid.total_ne, valid.total_le, valid.index_lt⟩, valid.length_eq,
        valid.hash_size, valid.hash_digits⟩

theorem decodeFragment_ok_iff (raw : List UInt8) (fragment : AppFragment) :
    decodeFragment PeerId fragments raw = .ok fragment ↔
      raw.length ≤ maxFragmentWireBytes ∧ fragments.fromSlice raw = .ok fragment ∧
        fragment.Valid PeerId := by
  unfold decodeFragment
  rw [bind_unit_ok_iff, rejectIf_ok_iff, not_lt, bind_ok_iff]
  refine and_congr_right fun _ => ?_
  constructor
  · rintro ⟨decoded, read, rest⟩
    rw [bind_unit_ok_iff, validateFragment_ok_iff] at rest
    obtain ⟨valid, same⟩ := rest
    cases same
    exact ⟨mapError_ok_iff.mp read, valid⟩
  · rintro ⟨read, valid⟩
    refine ⟨fragment, mapError_ok_iff.mpr read, ?_⟩
    rw [bind_unit_ok_iff, validateFragment_ok_iff]
    exact ⟨valid, rfl⟩

theorem encodeFragment_ok_iff (topic : String) (fragment : AppFragment) (wire : List UInt8) :
    encodeFragment fragments topic fragment = .ok wire ↔
      fragments.toVec fragment = .ok wire ∧ wire.length ≤ maxFragmentWireBytes := by
  unfold encodeFragment
  rw [bind_ok_iff]
  constructor
  · rintro ⟨encoded, written, rest⟩
    rw [bind_unit_ok_iff, rejectIf_ok_iff, not_lt] at rest
    obtain ⟨short, same⟩ := rest
    cases same
    exact ⟨mapError_ok_iff.mp written, short⟩
  · rintro ⟨written, short⟩
    refine ⟨wire, mapError_ok_iff.mpr written, ?_⟩
    rw [bind_unit_ok_iff, rejectIf_ok_iff, not_lt]
    exact ⟨short, rfl⟩

/-! ### The fragments of a message -/

/-- The number of fragments of a message. -/
def fragmentCount (message : AppMessage) : ℕ := divCeil message.payload.length appFragmentPayloadBytes

/-- The fragment of a message at an index. -/
def fragmentAt (message : AppMessage) (index : ℕ) : AppFragment :=
  fragmentOf blake3 message index (chunk appFragmentPayloadBytes message.payload index)

theorem fragmentCount_le {message : AppMessage} (bounded : message.payload.length ≤ maxAppMessageBytes) :
    fragmentCount message ≤ maxAppFragments := by
  unfold fragmentCount maxAppFragments divCeil
  exact Nat.div_le_div_right (Nat.sub_le_sub_right (Nat.add_le_add_right bounded _) _)

theorem two_le_divCeil {len : ℕ} (long : appFragmentPayloadBytes < len) :
    2 ≤ divCeil len appFragmentPayloadBytes := by
  have positive : 0 < appFragmentPayloadBytes := by decide
  obtain ⟨covers, _⟩ := divCeil_bounds (a := len) positive
  by_contra few
  have atMostOne : appFragmentPayloadBytes * divCeil len appFragmentPayloadBytes
      ≤ appFragmentPayloadBytes * 1 := Nat.mul_le_mul_left _ (by omega)
  omega

/-- **Every fragment of an accepted message passes the receiver's check.** -/
theorem fragmentAt_valid {message : AppMessage} (accepted : validateAppMessage PeerId message = .ok ())
    (long : appFragmentPayloadBytes < message.payload.length) {index : ℕ}
    (within : index < fragmentCount message) : (fragmentAt blake3 message index).Valid PeerId := by
  obtain ⟨schema, topic, source, target, bounded⟩ := (validateAppMessage_ok_iff PeerId message).mp accepted
  have several := two_le_divCeil long
  exact {
    fragmentSchema := rfl
    messageSchema := schema
    topic := topic
    source := source
    target := target
    bounded := bounded
    long := long
    total_eq := rfl
    total_ne := by
      show divCeil _ _ ≠ 0
      omega
    total_le := fragmentCount_le bounded
    index_lt := within
    length_eq := length_chunk (by decide) within
    hash_size := by
      show (Hex.encode (blake3 message.payload).toList).utf8ByteSize = 64
      rw [Hex.utf8ByteSize_encode, List.Vector.toList_length]
    hash_digits := by
      rw [List.all_eq_true]
      exact fun char member => Hex.isDigit_of_mem_encode member }

/-- Two fragments of one message carry the same metadata. -/
theorem sameMessage_fragmentAt (message : AppMessage) (first second : ℕ) :
    sameMessage (fragmentAt blake3 message first) (fragmentAt blake3 message second) = true := by
  simp [sameMessage, fragmentAt, fragmentOf]

/-- **The frames of a fragmented message** are the encodings of its fragments, in order, and each is
accepted as the fragment it was made from. -/
theorem fragmentMessage_wire {message : AppMessage} {wires : List (List UInt8)}
    (long : appFragmentPayloadBytes < message.payload.length)
    (sent : fragmentMessage PeerId blake3 messages fragments message = .ok wires)
    (inverts : ∀ index < fragmentCount message,
      fragments.RoundTrips (fragmentAt blake3 message index)) :
    wires.length = fragmentCount message ∧ ∀ index < fragmentCount message, ∃ wire,
      wires[index]? = some wire ∧
        decodeFragment PeerId fragments wire = .ok (fragmentAt blake3 message index) := by
  unfold fragmentMessage at sent
  rw [bind_unit_ok_iff, if_neg (not_le.mpr long), bind_unit_ok_iff, mapM_ok_iff, zipIdx_chunks,
    List.forall₂_map_left_iff] at sent
  obtain ⟨accepted, _, each⟩ := sent
  have sameLength := each.length_eq
  rw [List.length_range] at sameLength
  refine ⟨sameLength.symm, fun index within => ?_⟩
  have inside : index < wires.length := sameLength ▸ within
  refine ⟨wires[index], List.getElem?_eq_getElem inside, ?_⟩
  have written := List.forall₂_iff_get.mp each |>.2 index (by rwa [List.length_range]) inside
  simp only [List.get_eq_getElem, List.getElem_range] at written
  obtain ⟨encoded, short⟩ := (encodeFragment_ok_iff fragments _ _ _).mp written
  rw [decodeFragment_ok_iff]
  exact ⟨short, inverts index within _ encoded, fragmentAt_valid PeerId blake3 accepted long within⟩

/-- A message whose fragments all encode within the wire bound is sent. -/
theorem fragmentMessage_ok {message : AppMessage} (accepted : validateAppMessage PeerId message = .ok ())
    (long : appFragmentPayloadBytes < message.payload.length) {wire : ℕ → List UInt8}
    (encodes : ∀ index < fragmentCount message,
      encodeFragment fragments message.topic (fragmentAt blake3 message index) = .ok (wire index)) :
    fragmentMessage PeerId blake3 messages fragments message
      = .ok ((List.range (fragmentCount message)).map wire) := by
  obtain ⟨_, _, _, _, bounded⟩ := (validateAppMessage_ok_iff PeerId message).mp accepted
  unfold fragmentMessage
  rw [bind_unit_ok_iff, if_neg (not_le.mpr long), bind_unit_ok_iff, rejectIf_ok_iff, mapM_ok_iff,
    zipIdx_chunks, List.forall₂_map_left_iff, List.forall₂_map_right_iff]
  refine ⟨accepted, ?_, List.forall₂_same.mpr fun index member => encodes index (List.mem_range.mp member)⟩
  have several := two_le_divCeil long
  have few : divCeil message.payload.length appFragmentPayloadBytes ≤ maxAppFragments :=
    fragmentCount_le bounded
  rintro (zero | many)
  · omega
  · omega

end Codec

end P2pNet.Api
