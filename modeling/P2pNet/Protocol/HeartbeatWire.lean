/-
**The heartbeat frame** (`crates/protocol/pulse.rs`, the wire codec).

A heartbeat travels as `magic | schema (u16) | peer length (u16) | peer id | timestamp (u64) | nonce |
entropy`, words in big-endian order, nonce and entropy of 32 bytes. The decoder slices the frame at
cursor positions; a slice out of range aborts.
-/

import P2pNet.Common.Basic

namespace P2pNet.Protocol

open Lib PeerIdentity

/-! ### Envelope and constants -/

def heartbeatSchemaVersion : UInt16 := 2
def heartbeatEntropyBytes : ℕ := 32
def nonceBytes : ℕ := 32

/-- The bytes of `P2PH`. -/
def heartbeatWireMagic : List UInt8 := [80, 50, 80, 72]

def fixedWireBytes : ℕ := heartbeatWireMagic.length + 2 + 2 + 8 + nonceBytes + heartbeatEntropyBytes

structure HeartbeatEnvelope where
  schemaVersion : UInt16
  peerId : String
  timestampNs : UInt64
  nonceHex : String
  entropy : List UInt8
  deriving DecidableEq, Repr

/-- A heartbeat of the peer, from random bytes and a clock reading. -/
def HeartbeatEnvelope.new {PeerId : Type} [PeerIdentity PeerId] (blake3 : Blake3) (peer : PeerId)
    (entropy : List UInt8) (timestampNs : UInt64) : HeartbeatEnvelope where
  schemaVersion := heartbeatSchemaVersion
  peerId := toText peer
  timestampNs := timestampNs
  nonceHex := Hex.encode (blake3 entropy).toList
  entropy := entropy

/-- `hex::decode` followed by the conversion to an array. -/
def decodeNonce (nonceHex : String) : Option (ByteArrayOf nonceBytes) := do
  let decoded ← Hex.decode nonceHex
  if sized : decoded.length = nonceBytes then some ⟨decoded, sized⟩ else none

/-! ### The codec -/

section Codec

variable (PeerId : Type) [PeerIdentity PeerId]

def encodeHeartbeatWire (env : HeartbeatEnvelope) : Except NetError (List UInt8) := do
  let peer : PeerId ← (parse env.peerId).mapError fun err =>
    .gossipCodec ("invalid heartbeat peer id: " ++ err)
  let peerBytes := toBytes peer
  rejectIf (peerBytes.length ≥ 2 ^ 16) (.gossipCodec "heartbeat peer id is too long")
  let nonce ← okOr (.gossipCodec "heartbeat nonce must be 32-byte hex") (decodeNonce env.nonceHex)
  rejectIf (env.entropy.length ≠ heartbeatEntropyBytes)
    (.gossipCodec s!"heartbeat entropy must be {heartbeatEntropyBytes} bytes")
  return heartbeatWireMagic ++ BigEndian.write 2 env.schemaVersion.toNat
    ++ BigEndian.write 2 peerBytes.length ++ peerBytes ++ BigEndian.write 8 env.timestampNs.toNat
    ++ nonce.toList ++ env.entropy

/-- Read a word of some width at the cursor; the cursor moves behind it. -/
def readWord (width : ℕ) (data : List UInt8) (cursor : ℕ) : Fallible (ℕ × ℕ) :=
  let last := saturatingAdd cursor width
  match getRange data cursor last with
  | some bytes =>
    if bytes.length = width then .ok (BigEndian.read bytes, last)
    else .error (.inr (.gossipCodec "heartbeat frame is truncated"))
  | none => .error (.inr (.gossipCodec "heartbeat frame is truncated"))

def readU16 (data : List UInt8) (cursor : ℕ) : Fallible (UInt16 × ℕ) := do
  let (word, cursor) ← readWord 2 data cursor
  return (UInt16.ofNat word, cursor)

def readU64 (data : List UInt8) (cursor : ℕ) : Fallible (UInt64 × ℕ) := do
  let (word, cursor) ← readWord 8 data cursor
  return (UInt64.ofNat word, cursor)

/-- The decoder after the length check, with the cursor behind the two words. -/
def decodeHeartbeatBody (data : List UInt8) (schemaVersion : UInt16) (peerLen cursor : ℕ) :
    Fallible HeartbeatEnvelope := do
  let peerEnd := cursor + peerLen
  let peerBytes ← orAbort (slice data cursor peerEnd)
  let peer : PeerId ← (fromBytes peerBytes).mapError fun err =>
    .inr (.gossipCodec ("invalid heartbeat peer id bytes: " ++ err))
  let (timestampNs, cursor) ← readU64 data peerEnd
  let nonce ← orAbort (slice data cursor (cursor + nonceBytes))
  let cursor := cursor + nonceBytes
  let entropy ← orAbort (slice data cursor (cursor + heartbeatEntropyBytes))
  return {
    schemaVersion
    peerId := toText peer
    timestampNs
    nonceHex := Hex.encode nonce
    entropy }

def decodeHeartbeatWire (data : List UInt8) : Fallible HeartbeatEnvelope := do
  rejectIf (data.length < fixedWireBytes) (.inr (.gossipCodec "heartbeat frame is truncated"))
  let magic ← orAbort (slice data 0 heartbeatWireMagic.length)
  rejectIf (magic ≠ heartbeatWireMagic) (.inr (.gossipCodec "heartbeat frame magic mismatch"))
  let (schemaVersion, cursor) ← readU16 data heartbeatWireMagic.length
  let (peerLen, cursor) ← readU16 data cursor
  let expectedLen ← okOr (.inr (.gossipCodec "heartbeat frame length overflow"))
    (checkedAdd fixedWireBytes peerLen.toNat)
  rejectIf (data.length ≠ expectedLen) (.inr (.gossipCodec "heartbeat frame length mismatch"))
  decodeHeartbeatBody PeerId data schemaVersion peerLen.toNat cursor

end Codec

/-! ### The layout of a frame -/

structure Frame where
  schemaVersion : UInt16
  peerBytes : List UInt8
  timestampNs : UInt64
  nonce : ByteArrayOf nonceBytes
  entropy : ByteArrayOf heartbeatEntropyBytes
  short : peerBytes.length < 2 ^ 16

namespace Frame

/-- The envelope a frame stands for, with the text of its peer id. -/
def envelope (frame : Frame) (peerId : String) : HeartbeatEnvelope where
  schemaVersion := frame.schemaVersion
  peerId := peerId
  timestampNs := frame.timestampNs
  nonceHex := Hex.encode frame.nonce.toList
  entropy := frame.entropy.toList

/-- The variable part, behind the magic and the two words. -/
def body (frame : Frame) : List UInt8 :=
  frame.peerBytes ++ (BigEndian.write 8 frame.timestampNs.toNat
    ++ (frame.nonce.toList ++ frame.entropy.toList))

def bytes (frame : Frame) : List UInt8 :=
  heartbeatWireMagic ++ (BigEndian.write 2 frame.schemaVersion.toNat
    ++ (BigEndian.write 2 frame.peerBytes.length ++ frame.body))

theorem length_bytes (frame : Frame) : frame.bytes.length = fixedWireBytes + frame.peerBytes.length := by
  unfold bytes body fixedWireBytes
  simp only [List.length_append, BigEndian.length_write, List.Vector.toList_length]
  omega

end Frame

/-! ### Reading a frame -/

theorem readWord_middle {front middle back : List UInt8} {width cursor : ℕ} (begins : cursor = front.length)
    (sized : middle.length = width) (small : cursor + width ≤ wordMax) :
    readWord width (front ++ (middle ++ back)) cursor = .ok (BigEndian.read middle, cursor + width) := by
  have cut : slice (front ++ (middle ++ back)) cursor (cursor + width) = .ok middle :=
    slice_middle begins (by rw [begins, sized])
  unfold readWord getRange
  rw [saturatingAdd_eq small]
  simp only [cut, Except.toOption, sized, if_true]

theorem readU16_middle {front middle back : List UInt8} {cursor : ℕ} (begins : cursor = front.length)
    (sized : middle.length = 2) (small : cursor + 2 ≤ wordMax) :
    readU16 (front ++ (middle ++ back)) cursor
      = .ok (UInt16.ofNat (BigEndian.read middle), cursor + 2) := by
  unfold readU16
  rw [readWord_middle begins sized small]
  rfl

theorem readU64_middle {front middle back : List UInt8} {cursor : ℕ} (begins : cursor = front.length)
    (sized : middle.length = 8) (small : cursor + 8 ≤ wordMax) :
    readU64 (front ++ (middle ++ back)) cursor
      = .ok (UInt64.ofNat (BigEndian.read middle), cursor + 8) := by
  unfold readU64
  rw [readWord_middle begins sized small]
  rfl

theorem ofNat_read_write_u16 (word : UInt16) :
    UInt16.ofNat (BigEndian.read (BigEndian.write 2 word.toNat)) = word := by
  have below : word.toNat < 256 ^ 2 := word.toNat_lt
  rw [BigEndian.read_write, Nat.mod_eq_of_lt below, UInt16.ofNat_toNat]

theorem ofNat_read_write_u64 (word : UInt64) :
    UInt64.ofNat (BigEndian.read (BigEndian.write 8 word.toNat)) = word := by
  have below : word.toNat < 256 ^ 8 := word.toNat_lt
  rw [BigEndian.read_write, Nat.mod_eq_of_lt below, UInt64.ofNat_toNat]

section Decode

variable (PeerId : Type) [PeerIdentity PeerId]

/-- **The decoder up to its length check**, on a byte string cut behind the magic and the two words. -/
theorem decodeHeartbeatWire_header {magic schema len rest : List UInt8} (magicSize : magic.length = 4)
    (schemaSize : schema.length = 2) (lenSize : len.length = 2)
    (long : fixedWireBytes ≤ (magic ++ (schema ++ (len ++ rest))).length) :
    decodeHeartbeatWire PeerId (magic ++ (schema ++ (len ++ rest)))
      = if magic ≠ heartbeatWireMagic then .error (.inr (.gossipCodec "heartbeat frame magic mismatch"))
        else if (magic ++ (schema ++ (len ++ rest))).length ≠ fixedWireBytes + BigEndian.read len then
          .error (.inr (.gossipCodec "heartbeat frame length mismatch"))
        else decodeHeartbeatBody PeerId (magic ++ (schema ++ (len ++ rest)))
          (UInt16.ofNat (BigEndian.read schema)) (BigEndian.read len) 8 := by
  have below : BigEndian.read len < 2 ^ 16 := by
    have bound := BigEndian.read_lt len
    rw [lenSize] at bound
    exact bound
  have word : (UInt16.ofNat (BigEndian.read len)).toNat = BigEndian.read len :=
    UInt16.toNat_ofNat_of_lt' below
  have front : slice (magic ++ (schema ++ (len ++ rest))) 0 heartbeatWireMagic.length = .ok magic := by
    show slice ([] ++ (magic ++ (schema ++ (len ++ rest)))) 0 4 = .ok magic
    exact slice_middle rfl (by rw [magicSize]; rfl)
  have first : readU16 (magic ++ (schema ++ (len ++ rest))) heartbeatWireMagic.length
      = .ok (UInt16.ofNat (BigEndian.read schema), 6) := by
    exact readU16_middle magicSize.symm schemaSize (by decide)
  have second : readU16 (magic ++ (schema ++ (len ++ rest))) 6
      = .ok (UInt16.ofNat (BigEndian.read len), 8) := by
    rw [← List.append_assoc]
    refine readU16_middle ?_ lenSize (by decide)
    rw [List.length_append, magicSize, schemaSize]
  have sum : checkedAdd fixedWireBytes (BigEndian.read len) = some (fixedWireBytes + BigEndian.read len) := by
    refine if_pos ?_
    have small : fixedWireBytes + 2 ^ 16 ≤ wordMax := by decide
    omega
  unfold decodeHeartbeatWire
  rw [rejectIf_neg (not_lt.mpr long), front]
  simp only [orAbort, Except.mapError, ok_bind, first, second, word, sum, okOr]
  by_cases known : magic = heartbeatWireMagic
  · rw [rejectIf_neg (not_not.mpr known), if_neg (not_not.mpr known), ok_bind]
    by_cases fits : (magic ++ (schema ++ (len ++ rest))).length = fixedWireBytes + BigEndian.read len
    · rw [rejectIf_neg (not_not.mpr fits), if_neg (not_not.mpr fits), ok_bind]
    · rw [rejectIf_pos fits, if_pos fits, error_bind]
  · rw [rejectIf_pos known, if_pos known, error_bind]

/-- **The decoder behind its length check.** -/
theorem decodeHeartbeatBody_bytes (frame : Frame) :
    decodeHeartbeatBody PeerId frame.bytes frame.schemaVersion frame.peerBytes.length 8
      = match (fromBytes frame.peerBytes : Except String PeerId) with
        | .ok peer => .ok (frame.envelope (toText peer))
        | .error err => .error (.inr (.gossipCodec ("invalid heartbeat peer id bytes: " ++ err))) := by
  obtain ⟨schemaVersion, peerBytes, timestampNs, nonce, entropy, short⟩ := frame
  have room : 8 + peerBytes.length + 8 ≤ wordMax := by
    have small : 8 + 2 ^ 16 + 8 ≤ wordMax := by decide
    omega
  -- the frame, cut at each position the decoder reads
  obtain ⟨front, frontSize, layout⟩ : ∃ front : List UInt8, front.length = 8 ∧
      Frame.bytes ⟨schemaVersion, peerBytes, timestampNs, nonce, entropy, short⟩
        = front ++ (peerBytes ++ (BigEndian.write 8 timestampNs.toNat
          ++ (nonce.toList ++ (entropy.toList ++ [])))) := by
    refine ⟨heartbeatWireMagic ++ (BigEndian.write 2 schemaVersion.toNat
      ++ BigEndian.write 2 peerBytes.length), ?_, ?_⟩
    · simp only [List.length_append, BigEndian.length_write]
      rfl
    · simp only [Frame.bytes, Frame.body, List.append_assoc, List.append_nil]
  rw [layout]
  have peerCut : slice (front ++ (peerBytes ++ (BigEndian.write 8 timestampNs.toNat
      ++ (nonce.toList ++ (entropy.toList ++ []))))) 8 (8 + peerBytes.length) = .ok peerBytes :=
    slice_middle frontSize.symm (by rw [frontSize])
  have stampCut : readU64 (front ++ (peerBytes ++ (BigEndian.write 8 timestampNs.toNat
      ++ (nonce.toList ++ (entropy.toList ++ []))))) (8 + peerBytes.length)
        = .ok (timestampNs, 8 + peerBytes.length + 8) := by
    rw [← List.append_assoc, readU64_middle (by rw [List.length_append, frontSize])
      (BigEndian.length_write _ _) room, ofNat_read_write_u64]
  have nonceCut : slice (front ++ (peerBytes ++ (BigEndian.write 8 timestampNs.toNat
      ++ (nonce.toList ++ (entropy.toList ++ []))))) (8 + peerBytes.length + 8)
        (8 + peerBytes.length + 8 + nonceBytes) = .ok nonce.toList := by
    rw [← List.append_assoc, ← List.append_assoc]
    refine slice_middle ?_ ?_
    · simp only [List.length_append, frontSize, BigEndian.length_write]
    · simp only [List.length_append, frontSize, BigEndian.length_write, List.Vector.toList_length]
  have entropyCut : slice (front ++ (peerBytes ++ (BigEndian.write 8 timestampNs.toNat
      ++ (nonce.toList ++ (entropy.toList ++ []))))) (8 + peerBytes.length + 8 + nonceBytes)
        (8 + peerBytes.length + 8 + nonceBytes + heartbeatEntropyBytes) = .ok entropy.toList := by
    rw [← List.append_assoc, ← List.append_assoc, ← List.append_assoc]
    refine slice_middle ?_ ?_
    · simp only [List.length_append, frontSize, BigEndian.length_write, List.Vector.toList_length]
    · simp only [List.length_append, frontSize, BigEndian.length_write, List.Vector.toList_length]
  unfold decodeHeartbeatBody
  simp only [peerCut, orAbort, Except.mapError, ok_bind]
  cases (fromBytes peerBytes : Except String PeerId) with
  | error err => rfl
  | ok peer =>
    simp only [ok_bind, stampCut, nonceCut, entropyCut]
    rfl

/-- **The decoder on a frame.** -/
theorem decodeHeartbeatWire_bytes (frame : Frame) :
    decodeHeartbeatWire PeerId frame.bytes
      = match (fromBytes frame.peerBytes : Except String PeerId) with
        | .ok peer => .ok (frame.envelope (toText peer))
        | .error err => .error (.inr (.gossipCodec ("invalid heartbeat peer id bytes: " ++ err))) := by
  have size := frame.length_bytes
  have len : BigEndian.read (BigEndian.write 2 frame.peerBytes.length) = frame.peerBytes.length := by
    rw [BigEndian.read_write]
    exact Nat.mod_eq_of_lt frame.short
  have long : fixedWireBytes ≤ frame.bytes.length := by omega
  unfold Frame.bytes at size long
  have header := decodeHeartbeatWire_header PeerId rfl
    (BigEndian.length_write 2 frame.schemaVersion.toNat) (BigEndian.length_write 2 frame.peerBytes.length) long
  rw [if_neg (not_not.mpr rfl), len, if_neg (not_not.mpr size), ofNat_read_write_u16] at header
  exact header.trans (decodeHeartbeatBody_bytes PeerId frame)

theorem exists_split {data : List UInt8} {count : ℕ} (within : count ≤ data.length) :
    ∃ front back, data = front ++ back ∧ front.length = count :=
  ⟨data.take count, data.drop count, (List.take_append_drop count data).symm, by
    rw [List.length_take, min_eq_left within]⟩

/-- **A byte string is refused with an error or is the frame of some fields.** -/
theorem decodeHeartbeatWire_frame (data : List UInt8) :
    (∃ error, decodeHeartbeatWire PeerId data = .error (.inr error)) ∨ ∃ frame : Frame, data = frame.bytes := by
  by_cases truncated : data.length < fixedWireBytes
  · left
    refine ⟨.gossipCodec "heartbeat frame is truncated", ?_⟩
    unfold decodeHeartbeatWire
    rw [rejectIf_pos truncated, error_bind]
  have long := not_lt.mp truncated
  have fixed : fixedWireBytes = 80 := rfl
  have nonceFixed : nonceBytes = 32 := rfl
  obtain ⟨magic, afterMagic, rfl, magicSize⟩ := exists_split (by omega : 4 ≤ data.length)
  rw [List.length_append, magicSize] at long
  obtain ⟨schema, afterSchema, rfl, schemaSize⟩ := exists_split (by omega : 2 ≤ afterMagic.length)
  rw [List.length_append, schemaSize] at long
  obtain ⟨len, rest, rfl, lenSize⟩ := exists_split (by omega : 2 ≤ afterSchema.length)
  have header := decodeHeartbeatWire_header PeerId magicSize schemaSize lenSize (not_lt.mp truncated)
  by_cases known : magic = heartbeatWireMagic
  swap
  · left
    rw [if_pos known] at header
    exact ⟨_, header⟩
  by_cases fits : (magic ++ (schema ++ (len ++ rest))).length = fixedWireBytes + BigEndian.read len
  swap
  · left
    rw [if_neg (not_not.mpr known), if_pos fits] at header
    exact ⟨_, header⟩
  -- the length check leaves exactly the peer id and the fixed fields
  right
  simp only [List.length_append, magicSize, schemaSize, lenSize] at fits
  obtain ⟨peerBytes, afterPeer, rfl, peerSize⟩ := exists_split (by omega : BigEndian.read len ≤ rest.length)
  rw [List.length_append] at fits
  obtain ⟨stamp, afterStamp, rfl, stampSize⟩ := exists_split (by omega : 8 ≤ afterPeer.length)
  rw [List.length_append] at fits
  obtain ⟨nonce, entropy, rfl, nonceSize⟩ := exists_split (by omega : nonceBytes ≤ afterStamp.length)
  rw [List.length_append, nonceSize] at fits
  have entropySize : entropy.length = heartbeatEntropyBytes := by
    show entropy.length = 32
    omega
  have schemaBound := BigEndian.read_lt schema
  have lenBound := BigEndian.read_lt len
  have stampBound := BigEndian.read_lt stamp
  rw [schemaSize] at schemaBound
  rw [lenSize] at lenBound
  rw [stampSize] at stampBound
  refine ⟨⟨UInt16.ofNat (BigEndian.read schema), peerBytes, UInt64.ofNat (BigEndian.read stamp),
    ⟨nonce, nonceSize⟩, ⟨entropy, entropySize⟩, by rw [peerSize]; exact lenBound⟩, ?_⟩
  unfold Frame.bytes Frame.body
  simp only
  rw [UInt16.toNat_ofNat_of_lt' schemaBound, UInt64.toNat_ofNat_of_lt' stampBound, peerSize, ← known,
    ← schemaSize, ← stampSize, BigEndian.write_read, BigEndian.write_read, schemaSize, ← lenSize,
    BigEndian.write_read]
  rfl

/-! ### Both directions -/

theorem decodeNonce_eq_some_iff (text : String) (nonce : ByteArrayOf nonceBytes) :
    decodeNonce text = some nonce ↔ Hex.decode text = some nonce.toList := by
  unfold decodeNonce
  cases Hex.decode text with
  | none => simp
  | some decoded =>
    by_cases sized : decoded.length = nonceBytes
    · simp only [Option.bind_eq_bind, Option.bind_some, dif_pos sized, Option.some.injEq]
      constructor
      · intro same
        exact congrArg List.Vector.toList (Option.some.inj same)
      · intro same
        exact congrArg some (Subtype.ext same)
    · simp only [Option.bind_eq_bind, Option.bind_some, dif_neg sized, Option.some.injEq]
      constructor
      · rintro ⟨⟩
      · intro same
        exact absurd (same ▸ nonce.toList_length) sized

/-- **When an envelope is encoded**, and to which frame. -/
theorem encodeHeartbeatWire_ok_iff (env : HeartbeatEnvelope) (wire : List UInt8) :
    encodeHeartbeatWire PeerId env = .ok wire ↔ ∃ (peer : PeerId) (frame : Frame),
      parse env.peerId = .ok peer ∧ frame.peerBytes = toBytes peer ∧
        frame.schemaVersion = env.schemaVersion ∧ frame.timestampNs = env.timestampNs ∧
        Hex.decode env.nonceHex = some frame.nonce.toList ∧ frame.entropy.toList = env.entropy ∧
        wire = frame.bytes := by
  unfold encodeHeartbeatWire
  rw [bind_ok_iff]
  constructor
  · rintro ⟨peer, parsed, rest⟩
    rw [bind_unit_ok_iff, rejectIf_ok_iff, bind_ok_iff] at rest
    obtain ⟨short, nonce, decoded, rest⟩ := rest
    rw [bind_unit_ok_iff, rejectIf_ok_iff, not_not] at rest
    obtain ⟨sized, written⟩ := rest
    refine ⟨peer, ⟨env.schemaVersion, toBytes peer, env.timestampNs, nonce, ⟨env.entropy, sized⟩,
      not_le.mp short⟩, mapError_ok_iff.mp parsed, rfl, rfl, rfl,
      (decodeNonce_eq_some_iff _ _).mp (okOr_ok_iff.mp decoded), rfl, ?_⟩
    refine (Except.ok.inj written).symm.trans ?_
    simp only [Frame.bytes, Frame.body, List.append_assoc]
    rfl
  · rintro ⟨peer, frame, parsed, bytes, schema, stamp, decoded, entropy, rfl⟩
    refine ⟨peer, mapError_ok_iff.mpr parsed, ?_⟩
    rw [bind_unit_ok_iff, rejectIf_ok_iff, bind_ok_iff]
    refine ⟨?_, frame.nonce, ?_, ?_⟩
    · rw [← bytes]
      exact not_le.mpr frame.short
    · exact okOr_ok_iff.mpr ((decodeNonce_eq_some_iff _ _).mpr decoded)
    · rw [bind_unit_ok_iff, rejectIf_ok_iff, not_not]
      refine ⟨?_, ?_⟩
      · rw [← entropy]
        exact frame.entropy.toList_length
      · rw [← bytes, ← schema, ← stamp, ← entropy]
        simp only [Frame.bytes, Frame.body, List.append_assoc]
        rfl

/-- **When a byte string is decoded**, and to which envelope. -/
theorem decodeHeartbeatWire_ok_iff (wire : List UInt8) (env : HeartbeatEnvelope) :
    decodeHeartbeatWire PeerId wire = .ok env ↔ ∃ (frame : Frame) (peer : PeerId),
      wire = frame.bytes ∧ fromBytes frame.peerBytes = .ok peer ∧ env = frame.envelope (toText peer) := by
  constructor
  · intro decoded
    rcases decodeHeartbeatWire_frame PeerId wire with ⟨error, refused⟩ | ⟨frame, rfl⟩
    · rw [refused] at decoded
      cases decoded
    · rw [decodeHeartbeatWire_bytes] at decoded
      cases read : (fromBytes frame.peerBytes : Except String PeerId) with
      | error err =>
        rw [read] at decoded
        cases decoded
      | ok peer =>
        rw [read] at decoded
        exact ⟨frame, peer, rfl, read, (Except.ok.inj decoded).symm⟩
  · rintro ⟨frame, peer, rfl, read, rfl⟩
    rw [decodeHeartbeatWire_bytes, read]

theorem decodeHeartbeatWire_no_fault (data : List UInt8) (fault : Fault) :
    decodeHeartbeatWire PeerId data ≠ .error (.inl fault) := by
  rcases decodeHeartbeatWire_frame PeerId data with ⟨error, refused⟩ | ⟨frame, rfl⟩
  · rw [refused]
    rintro ⟨⟩
  · rw [decodeHeartbeatWire_bytes]
    cases (fromBytes frame.peerBytes : Except String PeerId) with
    | error err => rintro ⟨⟩
    | ok peer => rintro ⟨⟩

/-- What was decoded encodes to the same bytes. -/
theorem encode_of_decodeHeartbeatWire (lawful : Lawful PeerId) {wire : List UInt8} {env : HeartbeatEnvelope}
    (decoded : decodeHeartbeatWire PeerId wire = .ok env) : encodeHeartbeatWire PeerId env = .ok wire := by
  obtain ⟨frame, peer, rfl, read, rfl⟩ := (decodeHeartbeatWire_ok_iff PeerId wire env).mp decoded
  rw [encodeHeartbeatWire_ok_iff]
  exact ⟨peer, frame, lawful.parse_toText peer, (lawful.toBytes_of_fromBytes _ _ read).symm, rfl, rfl,
    Hex.decode_encode _, rfl, rfl⟩

/-- What was encoded decodes to the envelope in canonical form. -/
theorem decode_of_encodeHeartbeatWire (lawful : Lawful PeerId) {wire : List UInt8} {env : HeartbeatEnvelope}
    (encoded : encodeHeartbeatWire PeerId env = .ok wire) : ∃ peer : PeerId, parse env.peerId = .ok peer ∧
      decodeHeartbeatWire PeerId wire
        = .ok { env with peerId := toText peer, nonceHex := Hex.lower env.nonceHex } := by
  obtain ⟨peer, frame, parsed, bytes, schema, stamp, nonce, entropy, rfl⟩ :=
    (encodeHeartbeatWire_ok_iff PeerId env wire).mp encoded
  refine ⟨peer, parsed, ?_⟩
  rw [decodeHeartbeatWire_ok_iff]
  refine ⟨frame, peer, rfl, ?_, ?_⟩
  · rw [bytes]
    exact lawful.fromBytes_toBytes peer
  · unfold Frame.envelope
    rw [schema, stamp, entropy, Hex.encode_of_decode nonce]

end Decode

/-- **The heartbeat codec**: both directions, injectivity of the decoder, and no slice out of range. -/
theorem heartbeat_wire_codec (PeerId : Type) [PeerIdentity PeerId] (lawful : Lawful PeerId) :
    (∀ env wire, encodeHeartbeatWire PeerId env = .ok wire → ∃ peer : PeerId, parse env.peerId = .ok peer ∧
        decodeHeartbeatWire PeerId wire
          = .ok { env with peerId := toText peer, nonceHex := Hex.lower env.nonceHex }) ∧
      (∀ wire env, decodeHeartbeatWire PeerId wire = .ok env → encodeHeartbeatWire PeerId env = .ok wire) ∧
      (∀ first second env, decodeHeartbeatWire PeerId first = .ok env →
        decodeHeartbeatWire PeerId second = .ok env → first = second) ∧
      ∀ data fault, decodeHeartbeatWire PeerId data ≠ .error (.inl fault) := by
  refine ⟨?_, ?_, ?_, decodeHeartbeatWire_no_fault PeerId⟩
  · intro env wire encoded
    exact decode_of_encodeHeartbeatWire PeerId lawful encoded
  · intro wire env decoded
    exact encode_of_decodeHeartbeatWire PeerId lawful decoded
  · intro first second env one two
    have written := encode_of_decodeHeartbeatWire PeerId lawful one
    rw [encode_of_decodeHeartbeatWire PeerId lawful two] at written
    exact (Except.ok.inj written).symm

/-- A heartbeat with its nonce in capitals. -/
def loudHeartbeat : HeartbeatEnvelope where
  schemaVersion := 2
  peerId := Seed.nnoo.text
  timestampNs := 1700000000000000000
  nonceHex := "ABABABABABABABABABABABABABABABABABABABABABABABABABABABABABABABAB"
  entropy := List.replicate 32 5

theorem heartbeat_wire_codec_loud : ∃ wire, encodeHeartbeatWire Seed loudHeartbeat = .ok wire ∧
    decodeHeartbeatWire Seed wire = .ok { loudHeartbeat with
      nonceHex := "abababababababababababababababababababababababababababababababab" } := by
  obtain ⟨encodes, _⟩ := heartbeat_wire_codec Seed Seed.lawful
  have written : encodeHeartbeatWire Seed loudHeartbeat = .ok (heartbeatWireMagic ++ [0, 2, 0, 34]
      ++ Seed.nnoo.bytes ++ [23, 151, 156, 254, 54, 42, 0, 0] ++ List.replicate 32 171
      ++ List.replicate 32 5) := by decide
  obtain ⟨peer, parsed, decoded⟩ := encodes loudHeartbeat _ written
  have own : (.ok peer : Except String Seed) = .ok Seed.nnoo := parsed.symm.trans (Seed.lawful.parse_toText .nnoo)
  rw [Except.ok.inj own] at decoded
  exact ⟨_, written, decoded⟩

end P2pNet.Protocol
