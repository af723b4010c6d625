/-
**The JSON text of a fragment** (`serde_json::to_vec`, with `crates/api/payload_bytes.rs`).

A fragment is one JSON object with its fields in the order of the struct; the payload is one standard
base64 string. `fragmentJson` writes that text, `fragmentWire` its UTF-8 bytes. `knownJson` is the
serialiser together with a deserialiser of the texts of a given list of fragments: the concrete
codec of the executions below.
-/

import P2pNet.Api.Fragment

namespace P2pNet.Api

open Lib PeerIdentity

/-! ### Base64 -/

namespace Base64

def symbol (value : ℕ) : Char :=
  if value < 26 then Char.ofNat (65 + value)
  else if value < 52 then Char.ofNat (71 + value)
  else if value < 62 then Char.ofNat (value - 4)
  else if value = 62 then '+'
  else '/'

/-- `STANDARD.encode`: the alphabet with `+` and `/`, padded with `=`. -/
def encode : List UInt8 → List Char
  | [] => []
  | [a] => [symbol (a.toNat / 4), symbol (a.toNat % 4 * 16), '=', '=']
  | [a, b] => [symbol (a.toNat / 4), symbol (a.toNat % 4 * 16 + b.toNat / 16),
      symbol (b.toNat % 16 * 4), '=']
  | a :: b :: c :: rest => symbol (a.toNat / 4) :: symbol (a.toNat % 4 * 16 + b.toNat / 16)
      :: symbol (b.toNat % 16 * 4 + c.toNat / 64) :: symbol (c.toNat % 64) :: encode rest

theorem length_encode (bytes : List UInt8) : (encode bytes).length = 4 * divCeil bytes.length 3 := by
  induction bytes using encode.induct with
  | case1 => rfl
  | case2 a => simp [encode, divCeil]
  | case3 a b => simp [encode, divCeil]
  | case4 a b c rest ih =>
    rw [encode, List.length_cons, List.length_cons, List.length_cons, List.length_cons, ih]
    simp only [List.length_cons, divCeil]
    omega

example : encode [77, 97, 110, 77, 97] = "TWFuTWE=".toList := by decide

end Base64

/-! ### JSON -/

/-- The escapes of `serde_json`; every other character stands for itself. -/
def jsonEscape (char : Char) : List Char :=
  if char = '"' then ['\\', '"']
  else if char = '\\' then ['\\', '\\']
  else if char = Char.ofNat 8 then ['\\', 'b']
  else if char = Char.ofNat 9 then ['\\', 't']
  else if char = Char.ofNat 10 then ['\\', 'n']
  else if char = Char.ofNat 12 then ['\\', 'f']
  else if char = Char.ofNat 13 then ['\\', 'r']
  else if char.toNat < 32 then
    ['\\', 'u', '0', '0', Hex.digit (char.toNat / 16), Hex.digit (char.toNat % 16)]
  else [char]

def jsonString (text : List Char) : List Char := '"' :: text.flatMap jsonEscape ++ ['"']

def jsonNumber (number : ℕ) : List Char := (Nat.repr number).toList

def jsonOptional : Option String → List Char
  | some text => jsonString text.toList
  | none => ['n', 'u', 'l', 'l']

def jsonField (name : String) (value : List Char) : List Char := jsonString name.toList ++ ':' :: value

/-- The text of a fragment before and after its nonce. -/
def fragmentHead (fragment : AppFragment) : List Char :=
  '\x7b' :: jsonField "fragment_schema_version" (jsonNumber fragment.fragmentSchemaVersion.toNat)
    ++ ',' :: jsonField "message_schema_version" (jsonNumber fragment.messageSchemaVersion.toNat)
    ++ ',' :: jsonField "network_id" (jsonNumber fragment.networkId.toNat)
    ++ ',' :: jsonField "topic" (jsonString fragment.topic.toList)
    ++ ',' :: jsonField "source_peer_id" (jsonString fragment.sourcePeerId.toList)
    ++ ',' :: jsonField "target_peer_id" (jsonOptional fragment.targetPeerId)
    ++ ',' :: jsonField "timestamp_ns" (jsonNumber fragment.timestampNs.toNat)

def fragmentTail (fragment : AppFragment) : List Char :=
  ',' :: jsonField "payload_hash_hex" (jsonString fragment.payloadHashHex.toList)
    ++ ',' :: jsonField "payload_len" (jsonNumber fragment.payloadLen)
    ++ ',' :: jsonField "index" (jsonNumber fragment.index)
    ++ ',' :: jsonField "total" (jsonNumber fragment.total)
    ++ ',' :: jsonField "payload" ('"' :: Base64.encode fragment.payload ++ ['"'])
    ++ ['\x7d']

def fragmentJson (fragment : AppFragment) : List Char :=
  fragmentHead fragment ++ ',' :: jsonField "nonce_hex" (jsonString fragment.nonceHex.toList)
    ++ fragmentTail fragment

/-- The UTF-8 bytes of a text. -/
def utf8Bytes (chars : List Char) : List UInt8 := (String.ofList chars).toByteArray.data.toList

def fragmentWire (fragment : AppFragment) : List UInt8 := utf8Bytes (fragmentJson fragment)

/-- The serialiser, with a deserialiser that knows the texts of the given fragments. -/
def knownJson (known : List AppFragment) : SerdeJson AppFragment where
  toVec fragment := .ok (fragmentWire fragment)
  fromSlice raw :=
    match known.find? fun fragment => fragmentWire fragment = raw with
    | some fragment => .ok fragment
    | none => .error "expected value at line 1 column 1"

/-! ### Sizes -/

theorem length_utf8Bytes_le (chars : List Char) : (utf8Bytes chars).length ≤ 4 * chars.length := by
  rw [utf8Bytes, Array.length_toList, String.toByteArray_ofList]
  induction chars with
  | nil => exact Nat.zero_le _
  | cons char rest ih =>
    have small := char.utf8Size_le_four
    rw [List.utf8Encode_cons]
    show (_ ++ _ : ByteArray).size ≤ _
    rw [ByteArray.size_append, List.utf8Encode_singleton, List.size_toByteArray,
      String.length_utf8EncodeChar, List.length_cons]
    change rest.utf8Encode.size ≤ _ at ih
    omega

theorem fragmentWire_length_le (fragment : AppFragment) :
    (fragmentWire fragment).length ≤ 4 * (fragmentJson fragment).length :=
  length_utf8Bytes_le _

theorem utf8Bytes_injective : Function.Injective utf8Bytes := by
  intro first second same
  have arrays := ByteArray.ext (Array.toList_inj.mp same)
  exact String.ofList_injective (String.toByteArray_inj.mp arrays)

/-! ### Reading back -/

theorem knownJson_fromSlice {known : List AppFragment} {fragment : AppFragment}
    (distinct : ∀ other ∈ known, fragmentWire other = fragmentWire fragment → other = fragment)
    (member : fragment ∈ known) :
    (knownJson known).fromSlice (fragmentWire fragment) = .ok fragment := by
  unfold knownJson
  simp only
  cases found : known.find? fun other => fragmentWire other = fragmentWire fragment with
  | none =>
    have missing := List.find?_eq_none.mp found fragment member
    simp at missing
  | some other =>
    have same := List.find?_some found
    rw [decide_eq_true_eq] at same
    rw [distinct other (List.mem_of_find?_eq_some found) same]

theorem jsonEscape_of_isDigit {char : Char} (digit : Hex.isDigit char = true) : jsonEscape char = [char] := by
  have plain : ∀ code < 128, Hex.isDigit (Char.ofNat code) = true →
      jsonEscape (Char.ofNat code) = [Char.ofNat code] := by decide
  have ascii : char.toNat < 128 := by
    have small := Hex.utf8Size_of_isDigit digit
    rw [Char.utf8Size_eq_one_iff, UInt32.le_iff_toNat_le] at small
    exact Nat.lt_succ_of_le small
  have written := plain char.toNat ascii
  rw [Char.ofNat_toNat] at written
  exact written digit

theorem jsonString_hex (bytes : List UInt8) :
    jsonString (Hex.encode bytes).toList = '"' :: (Hex.encode bytes).toList ++ ['"'] := by
  have plain : ∀ chars : List Char, (∀ char ∈ chars, Hex.isDigit char = true) →
      chars.flatMap jsonEscape = chars := by
    intro chars digits
    induction chars with
    | nil => rfl
    | cons char rest ih =>
      rw [List.flatMap_cons, jsonEscape_of_isDigit (digits char List.mem_cons_self),
        ih fun other member => digits other (List.mem_cons_of_mem _ member)]
      rfl
  rw [jsonString, plain _ fun char member => Hex.isDigit_of_mem_encode member]

theorem length_hex (bytes : List UInt8) : (Hex.encode bytes).toList.length = 2 * bytes.length := by
  rw [Hex.encode, String.toList_ofList, Hex.length_flatMap_encodeByte]

/-- Frames with one head and hexadecimal nonces of one length are equal only when the nonces and the
tails are. -/
theorem fragmentWire_split {first second : AppFragment} {a b : List UInt8}
    (firstNonce : first.nonceHex = Hex.encode a) (secondNonce : second.nonceHex = Hex.encode b)
    (lengths : a.length = b.length) (head : fragmentHead first = fragmentHead second)
    (same : fragmentWire first = fragmentWire second) :
    a = b ∧ fragmentTail first = fragmentTail second := by
  have texts := utf8Bytes_injective same
  unfold fragmentJson jsonField at texts
  rw [head, firstNonce, secondNonce, jsonString_hex, jsonString_hex] at texts
  simp only [List.append_assoc, List.cons_append, List.append_cancel_left_eq, List.cons.injEq,
    true_and] at texts
  obtain ⟨nonces, rest⟩ := List.append_inj texts (by rw [length_hex, length_hex, lengths])
  exact ⟨Hex.encode_injective (String.toList_injective nonces), (List.cons.inj rest).2⟩

/-! ### A family of messages with two fragments each -/

namespace Sample

def message (tag : UInt8) : AppMessage where
  schemaVersion := 2
  networkId := 1
  topic := "fragment-test"
  sourcePeerId := "QmNnooDu7bfjPFoTZYxMNLWUQJyrVwtbZg5gBMjTezGAJN"
  targetPeerId := none
  timestampNs := 1700000000000000000
  nonceHex := Hex.encode (tag :: List.replicate 31 0)
  payload := List.replicate 16385 7

/-- BLAKE3 at the payload of the sample messages. -/
def blake3 : Blake3 := fun _ => ⟨[199, 157, 47, 241, 76, 238, 56, 109, 229, 183, 12, 255, 104, 119,
  168, 248, 101, 254, 125, 214, 84, 129, 191, 105, 36, 67, 197, 23, 19, 239, 158, 65], rfl⟩

def fragment (tag : UInt8) (index : ℕ) : AppFragment := fragmentAt blake3 (message tag) index

theorem payload_length (tag : UInt8) : (message tag).payload.length = 16385 := List.length_replicate

theorem message_accepted (tag : UInt8) : validateAppMessage Seed (message tag) = .ok () := by
  rw [validateAppMessage_ok_iff]
  have topic : normalizeAppTopic "fragment-test" = .ok "fragment-test" := by decide
  have source : parse Seed.nnoo.text = .ok Seed.nnoo := Seed.lawful.parse_toText Seed.nnoo
  refine ⟨rfl, ⟨_, topic⟩, ⟨_, source⟩, ?_, ?_⟩
  · rintro target ⟨⟩
  · rw [payload_length]
    decide

theorem length_payload (tag : UInt8) : (fragment tag 0).payload.length = 16384 := by
  show (chunk appFragmentPayloadBytes (message tag).payload 0).length = 16384
  rw [chunk, List.length_take, List.length_drop, payload_length]
  rfl

theorem fragmentCount_eq (tag : UInt8) : fragmentCount (message tag) = 2 := by
  rw [fragmentCount, payload_length]
  decide

theorem fragment_valid (tag : UInt8) {index : ℕ} (within : index < 2) :
    (fragment tag index).Valid Seed := by
  refine fragmentAt_valid Seed blake3 (message_accepted tag) ?_ (fragmentCount_eq tag ▸ within)
  rw [payload_length]
  decide

theorem head_eq (a b : UInt8) (i j : ℕ) : fragmentHead (fragment a i) = fragmentHead (fragment b j) := rfl

theorem wire_length_le (tag : UInt8) (index : ℕ) (within : index < 2) :
    (fragmentWire (fragment tag index)).length ≤ maxFragmentWireBytes := by
  refine (fragmentWire_length_le _).trans ?_
  have head : (fragmentHead (fragment tag index)).length ≤ 400 := by
    rw [head_eq tag 0 index 0]
    decide +kernel
  have nonce : (jsonString (fragment tag index).nonceHex.toList).length = 66 := by
    show (jsonString (Hex.encode (tag :: List.replicate 31 0)).toList).length = 66
    rw [jsonString_hex, List.length_append, List.length_cons, length_hex]
    rfl
  have payload : (fragment tag index).payload.length ≤ 16384 := List.length_take_le _ _
  have encoded : (Base64.encode (fragment tag index).payload).length ≤ 21848 := by
    rw [Base64.length_encode]
    unfold divCeil
    omega
  have hash : (jsonString (fragment tag index).payloadHashHex.toList).length = 66 := by
    show (jsonString (Hex.encode _).toList).length = 66
    rw [jsonString_hex, List.length_append, List.length_cons, length_hex]
    rfl
  have len : (jsonNumber (fragment tag index).payloadLen).length = 5 := by
    show (jsonNumber (message tag).payload.length).length = 5
    rw [payload_length]
    decide
  have count : (jsonNumber (fragment tag index).total).length = 1 := by
    show (jsonNumber (fragmentCount (message tag))).length = 1
    rw [fragmentCount_eq]
    decide
  have position : (jsonNumber (fragment tag index).index).length = 1 := by
    show (jsonNumber index).length = 1
    interval_cases index <;> decide
  have tail : (fragmentTail (fragment tag index)).length ≤ 22200 := by
    unfold fragmentTail jsonField
    simp only [List.length_append, List.length_cons, hash, len, count, position]
    have names : (jsonString "payload_hash_hex".toList).length = 18 ∧
        (jsonString "payload_len".toList).length = 13 ∧ (jsonString "index".toList).length = 7 ∧
        (jsonString "total".toList).length = 7 ∧ (jsonString "payload".toList).length = 9 := by
      decide
    simp only [names, List.length_nil]
    omega
  have limit : maxFragmentWireBytes = 131072 := rfl
  have name : (jsonString "nonce_hex".toList).length = 11 := by decide
  unfold fragmentJson jsonField
  simp only [List.length_append, List.length_cons, nonce, name]
  omega
theorem wire_injective {a b : UInt8} {i j : ℕ} (first : i < 2) (second : j < 2)
    (same : fragmentWire (fragment a i) = fragmentWire (fragment b j)) : a = b ∧ i = j := by
  obtain ⟨nonces, tails⟩ := fragmentWire_split (a := a :: List.replicate 31 0)
    (b := b :: List.replicate 31 0) rfl rfl rfl (head_eq a b i j) same
  refine ⟨(List.cons.inj nonces).1, ?_⟩
  unfold fragmentTail jsonField at tails
  rw [show (fragment a i).payloadHashHex = (fragment b j).payloadHashHex from rfl,
    show (fragment a i).payloadLen = (fragment b j).payloadLen from rfl] at tails
  simp only [List.append_assoc, List.cons_append, List.append_cancel_left_eq, List.cons.injEq,
    true_and] at tails
  change jsonNumber i ++ _ = jsonNumber j ++ _ at tails
  interval_cases i <;> interval_cases j
  · rfl
  · exact absurd (List.cons.inj tails).1 (by decide)
  · exact absurd (List.cons.inj tails).1 (by decide)
  · rfl

def fragments : List AppFragment :=
  (List.range 256).flatMap fun tag => [fragment (UInt8.ofNat tag) 0, fragment (UInt8.ofNat tag) 1]

theorem mem_fragments_iff (other : AppFragment) :
    other ∈ fragments ↔ ∃ tag index, index < 2 ∧ other = fragment tag index := by
  unfold fragments
  rw [List.mem_flatMap]
  constructor
  · rintro ⟨number, _, inside⟩
    rcases List.mem_cons.mp inside with first | rest
    · exact ⟨_, 0, Nat.zero_lt_two, first⟩
    · exact ⟨_, 1, Nat.one_lt_two, List.mem_singleton.mp rest⟩
  · rintro ⟨tag, index, within, rfl⟩
    refine ⟨tag.toNat, List.mem_range.mpr tag.toNat_lt, ?_⟩
    rw [UInt8.ofNat_toNat]
    interval_cases index
    · exact List.mem_cons_self
    · exact List.mem_cons_of_mem _ (List.mem_singleton_self _)

/-- The codec that knows the fragments of all the sample messages. -/
def codec : SerdeJson AppFragment := knownJson fragments

theorem codec_fromSlice (tag : UInt8) {index : ℕ} (within : index < 2) :
    codec.fromSlice (fragmentWire (fragment tag index)) = .ok (fragment tag index) := by
  unfold codec
  apply knownJson_fromSlice
  · intro other member same
    obtain ⟨number, position, inside, rfl⟩ := (mem_fragments_iff other).mp member
    obtain ⟨rfl, rfl⟩ := wire_injective inside within same
    rfl
  · exact (mem_fragments_iff _).mpr ⟨tag, index, within, rfl⟩

theorem codec_roundTrips (tag : UInt8) {index : ℕ} (within : index < 2) :
    codec.RoundTrips (fragment tag index) := by
  intro wire written
  have same : Except.ok (fragmentWire (fragment tag index)) = Except.ok wire := written
  rw [← Except.ok.inj same]
  exact codec_fromSlice tag within

/-- **Every sample frame is accepted** and decodes to its fragment. -/
theorem decodeFragment_wire (tag : UInt8) {index : ℕ} (within : index < 2) :
    decodeFragment Seed codec (fragmentWire (fragment tag index)) = .ok (fragment tag index) := by
  rw [decodeFragment_ok_iff]
  exact ⟨wire_length_le tag index within, codec_fromSlice tag within, fragment_valid tag within⟩

/-- The whole-message codec at the frames of fragments, which it does not read. -/
def messages : SerdeJson AppMessage where
  toVec _ := .error "not a whole message"
  fromSlice _ := .error "missing field `schema_version`"

theorem fragmentMessage_eq (tag : UInt8) : fragmentMessage Seed blake3 messages codec (message tag)
    = .ok ((List.range (fragmentCount (message tag))).map fun index => fragmentWire (fragment tag index)) := by
  refine fragmentMessage_ok Seed blake3 messages codec (message_accepted tag) ?_ fun index within => ?_
  · rw [payload_length]
    decide
  · rw [fragmentCount_eq] at within
    rw [encodeFragment_ok_iff]
    exact ⟨rfl, wire_length_le tag index within⟩

end Sample

end P2pNet.Api
