/-
**Errors, peer identities and the codecs of other crates.**
-/

import Mathlib.Data.Nat.Digits.Defs
import P2pNet.Lib.Bytes
import P2pNet.Lib.Checked

namespace P2pNet

open Lib

/-! ### Errors -/

inductive NetError
  | gossipCodec (reason : String)
  | config (path reason : String)
  | dial (target reason : String)
  | appTopic (topic reason : String)
  | appMessage (topic reason : String)
  deriving DecidableEq, Repr

/-- `Display`. -/
def NetError.toText : NetError → String
  | gossipCodec reason => s!"gossip message encode/decode failed: {reason}"
  | config path reason => s!"config failed for {path}: {reason}"
  | dial target reason => s!"dial failed for {target}: {reason}"
  | appTopic topic reason => s!"app topic `{topic}` is invalid: {reason}"
  | appMessage topic reason => s!"app message for topic `{topic}` failed: {reason}"

/-- The result of a function that may also abort. -/
abbrev Fallible (α : Type) := Except (Fault ⊕ NetError) α

def orAbort {α : Type} (result : Except Fault α) : Fallible α := result.mapError .inl

def configError (reason : String) : NetError := .config "<config>" reason

/-- A number of the configuration that must not be zero. -/
def atLeastOne (field : String) (value : ℕ) : Except NetError Unit :=
  rejectIf (value = 0) (configError s!"{field} must be at least 1")

theorem atLeastOne_ok_iff {field : String} {value : ℕ} : atLeastOne field value = .ok () ↔ 1 ≤ value := by
  unfold atLeastOne
  rw [rejectIf_ok_iff]
  omega

/-! ### Peer identities -/

/-- The operations the code uses on `libp2p::PeerId`: `to_string` and `str::parse`, `to_bytes` and
`from_bytes`. A failed reading carries its message. -/
class PeerIdentity (PeerId : Type) extends LinearOrder PeerId where
  toText : PeerId → String
  parse : String → Except String PeerId
  toBytes : PeerId → List UInt8
  fromBytes : List UInt8 → Except String PeerId

/-- Texts and bytes of an id read back as that id, and no other bytes read as it. -/
structure PeerIdentity.Lawful (PeerId : Type) [PeerIdentity PeerId] : Prop where
  parse_toText : ∀ peer : PeerId, parse (toText peer) = .ok peer
  fromBytes_toBytes : ∀ peer : PeerId, fromBytes (toBytes peer) = .ok peer
  toBytes_of_fromBytes : ∀ (bytes : List UInt8) (peer : PeerId),
    fromBytes bytes = .ok peer → toBytes peer = bytes

theorem PeerIdentity.Lawful.toText_injective {PeerId : Type} [PeerIdentity PeerId]
    (lawful : PeerIdentity.Lawful PeerId) : Function.Injective (toText : PeerId → String) := by
  intro first second same
  have parsed := lawful.parse_toText first
  rw [same, lawful.parse_toText] at parsed
  exact (Except.ok.inj parsed).symm

/-! ### Serialisers -/

/-- `serde_json::to_vec` and `serde_json::from_slice` at one type; errors are their messages. -/
structure SerdeJson (Value : Type) where
  toVec : Value → Except String (List UInt8)
  fromSlice : List UInt8 → Except String Value

def SerdeJson.RoundTrips {Value : Type} (json : SerdeJson Value) (value : Value) : Prop :=
  ∀ wire, json.toVec value = .ok wire → json.fromSlice wire = .ok value

abbrev Blake3 := List UInt8 → ByteArrayOf 32

/-! ### Two built-in bootstrap seeds: base58 text and SHA-256 multihash -/

inductive Seed
  | nnoo
  | qcu2
  deriving Repr

namespace Seed

/-- The order of the digests: `06…` before `1b…`. -/
def rank : Seed → ℕ
  | nnoo => 0
  | qcu2 => 1

theorem rank_injective : Function.Injective rank := by
  intro first second same
  cases first <;> cases second <;> first | rfl | cases same

def text : Seed → String
  | nnoo => "QmNnooDu7bfjPFoTZYxMNLWUQJyrVwtbZg5gBMjTezGAJN"
  | qcu2 => "QmQCU2EcMqAqQPR2i9bChDtGNJchTbq5TbXJJ16u19uLTa"

def bytes : Seed → List UInt8
  | nnoo => [18, 32, 6, 179, 96, 138, 160, 0, 39, 64, 73, 235, 40, 173, 142, 121, 58, 38, 255, 111,
      171, 40, 26, 125, 59, 215, 124, 209, 142, 183, 69, 223, 170, 187]
  | qcu2 => [18, 32, 27, 158, 164, 159, 146, 207, 147, 11, 194, 74, 193, 24, 62, 120, 237, 19, 88,
      161, 226, 157, 198, 144, 49, 38, 156, 31, 215, 213, 63, 246, 95, 209]

instance : PeerIdentity Seed where
  __ := LinearOrder.lift' rank rank_injective
  toText := text
  parse written :=
    if written = text nnoo then .ok nnoo
    else if written = text qcu2 then .ok qcu2
    else .error "not a seed"
  toBytes := bytes
  fromBytes read :=
    if read = bytes nnoo then .ok nnoo
    else if read = bytes qcu2 then .ok qcu2
    else .error "not a seed"

theorem lawful : PeerIdentity.Lawful Seed where
  parse_toText peer := by cases peer <;> decide
  fromBytes_toBytes peer := by cases peer <;> decide
  toBytes_of_fromBytes read peer found := by
    change (if read = bytes nnoo then Except.ok nnoo
      else if read = bytes qcu2 then .ok qcu2 else .error "not a seed") = .ok peer at found
    split_ifs at found with first second
    · cases found
      exact first.symm
    · cases found
      exact second.symm

end Seed

/-! ### Ed25519 identities: the encoded key is its own digest -/

/-- The identities whose key is zero but for its last byte. -/
structure KeyPeer where
  last : UInt8
  deriving DecidableEq

namespace KeyPeer

def bytes (peer : KeyPeer) : List UInt8 := [0, 36, 8, 1, 18, 32] ++ List.replicate 31 0 ++ [peer.last]

def base58Alphabet : List Char := "123456789ABCDEFGHJKLMNPQRSTUVWXYZabcdefghijkmnopqrstuvwxyz".toList

/-- The leading zero byte is a `1`, the rest is a number in base 58. -/
def text (peer : KeyPeer) : String :=
  let value := peer.bytes.foldl (fun value byte => value * 256 + byte.toNat) 0
  String.ofList ('1' :: (Nat.digits 58 value).reverse.map fun digit => base58Alphabet.getD digit '1')

def all : List KeyPeer := (List.range 256).map fun last => ⟨UInt8.ofNat last⟩

instance : PeerIdentity KeyPeer where
  __ := LinearOrder.lift' (fun peer : KeyPeer => peer.last.toNat) (by
    rintro ⟨first⟩ ⟨second⟩ same
    exact congrArg mk (UInt8.toNat_inj.mp same))
  toText := text
  parse written := match all.find? fun peer => peer.text = written with
    | some peer => .ok peer
    | none => .error "not such a key"
  toBytes := bytes
  fromBytes read := match all.find? fun peer => peer.bytes = read with
    | some peer => .ok peer
    | none => .error "not such a key"

end KeyPeer

end P2pNet
