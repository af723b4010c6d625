/-
**Multiaddresses.**

`libp2p::Multiaddr` is a sequence of protocols with a text. The program compares addresses, writes and
reads their texts and looks for a few protocols in them; `Multiaddr` is that much of the type.
`Endpoint` is a small family of real addresses: an IPv4 host and a port over TCP or QUIC, and the peer
that is expected there; `TcpHost` are addresses that name no peer.
-/

import P2pNet.Lib.Text
import P2pNet.Common.Basic

namespace P2pNet

/-- The protocols the program asks for; any other one is its text. -/
inductive Protocol (PeerId : Type)
  | quic
  | quicV1
  | p2pCircuit
  | p2p (peer : PeerId)
  | other (text : String)
  deriving DecidableEq

/-- `Display`, `FromStr` and `iter` of `Multiaddr`. -/
class Multiaddr (PeerId : outParam Type) (Addr : Type) where
  toText : Addr → String
  parse : String → Except String Addr
  iter : Addr → List (Protocol PeerId)

/-- `Multiaddr::with` for a peer. -/
class AppendPeer (PeerId : outParam Type) (Addr : Type) [Multiaddr PeerId Addr] where
  withP2p : Addr → PeerId → Addr
  iter_withP2p : ∀ addr peer, Multiaddr.iter (withP2p addr peer) = Multiaddr.iter addr ++ [.p2p peer]

/-- The text of an address reads back as that address. -/
structure Multiaddr.Lawful (PeerId Addr : Type) [Multiaddr PeerId Addr] : Prop where
  parse_toText : ∀ addr : Addr, Multiaddr.parse (Multiaddr.toText addr) = .ok addr

theorem Multiaddr.Lawful.toText_injective {PeerId Addr : Type} [Multiaddr PeerId Addr]
    (lawful : Multiaddr.Lawful PeerId Addr) : Function.Injective (Multiaddr.toText : Addr → String) := by
  intro first second same
  have parsed := lawful.parse_toText first
  rw [same, lawful.parse_toText] at parsed
  exact (Except.ok.inj parsed).symm

/-! ### IPv4 endpoints of the seeds -/

structure Endpoint where
  host : UInt8 × UInt8 × UInt8 × UInt8
  port : UInt16
  quic : Bool
  peer : Seed
  deriving DecidableEq

namespace Endpoint

def transport (endpoint : Endpoint) : String :=
  if endpoint.quic then s!"/udp/{endpoint.port}/quic-v1" else s!"/tcp/{endpoint.port}"

def text (endpoint : Endpoint) : String :=
  let (a, b, c, d) := endpoint.host
  s!"/ip4/{a}.{b}.{c}.{d}{endpoint.transport}/p2p/{endpoint.peer.text}"

/-- The endpoints the reader knows. -/
def known : List Endpoint :=
  [⟨(203, 0, 113, 1), 4001, true, .nnoo⟩, ⟨(203, 0, 113, 1), 4001, false, .nnoo⟩]

def parse (written : String) : Except String Endpoint :=
  match known.find? fun endpoint => endpoint.text = written with
  | some endpoint => .ok endpoint
  | none => .error "unknown protocol string"

instance : Multiaddr Seed Endpoint where
  toText := text
  parse := parse
  iter endpoint :=
    let (a, b, c, d) := endpoint.host
    [.other s!"/ip4/{a}.{b}.{c}.{d}"] ++
      (if endpoint.quic then [.other s!"/udp/{endpoint.port}", .quicV1]
        else [.other s!"/tcp/{endpoint.port}"]) ++ [.p2p endpoint.peer]

/-- A text starts with the first number of the host. -/
theorem text_toList (endpoint : Endpoint) : ∃ rest, endpoint.text.toList
    = ['/', 'i', 'p', '4', '/'] ++ ((toString endpoint.host.1).toList ++ rest) := by
  unfold text
  simp only [String.toList_append, List.append_assoc]
  exact ⟨_, rfl⟩

/-- Two ports of one host have different texts. -/
theorem text_port {host : UInt8 × UInt8 × UInt8 × UInt8} {peer : Seed} {first second : UInt16}
    (same : text ⟨host, first, false, peer⟩ = text ⟨host, second, false, peer⟩) : first = second := by
  unfold text transport at same
  simp only [String.append_assoc, String.append_right_inj] at same
  change "/tcp/" ++ toString first ++ _ = "/tcp/" ++ toString second ++ _ at same
  rw [String.append_left_inj, String.append_right_inj] at same
  exact UInt16.toNat_inj.mp (Lib.Text.repr_injective same)

end Endpoint

/-! ### TCP hosts of the Ed25519 identities -/

structure TcpHost where
  last : UInt8
  deriving DecidableEq

namespace TcpHost

def text (host : TcpHost) : String := s!"/ip4/203.0.113.{host.last}/tcp/4001"

def all : List TcpHost := (List.range 256).map fun last => ⟨UInt8.ofNat last⟩

instance : Multiaddr KeyPeer TcpHost where
  toText := text
  parse written := match all.find? fun host => host.text = written with
    | some host => .ok host
    | none => .error "unknown protocol string"
  iter host := [.other s!"/ip4/203.0.113.{host.last}", .other "/tcp/4001"]

end TcpHost

/-- The host of an identity, with the identity in its address. -/
structure KeyHost where
  owner : KeyPeer
  deriving DecidableEq

namespace KeyHost

def text (host : KeyHost) : String := s!"/ip4/203.0.113.{host.owner.last}/tcp/4001/p2p/{host.owner.text}"

def all : List KeyHost := KeyPeer.all.map KeyHost.mk

instance : Multiaddr KeyPeer KeyHost where
  toText := text
  parse written := match all.find? fun host => host.text = written with
    | some host => .ok host
    | none => .error "unknown protocol string"
  iter host := [.other s!"/ip4/203.0.113.{host.owner.last}", .other "/tcp/4001", .p2p host.owner]

end KeyHost

/-! ### Routes between the seeds -/

/-- A few protocols, no text of which begins another one. -/
inductive RoutePart
  | publicHost
  | lanHost
  | tcp
  | circuit
  | p2p (peer : Seed)
  deriving DecidableEq

namespace RoutePart

def text : RoutePart → String
  | publicHost => "/ip4/8.8.8.8"
  | lanHost => "/ip4/192.168.0.5"
  | tcp => "/tcp/4001"
  | circuit => "/p2p-circuit"
  | p2p peer => "/p2p/" ++ peer.text

def protocol : RoutePart → Protocol Seed
  | circuit => .p2pCircuit
  | p2p peer => .p2p peer
  | part => .other part.text

def all : List RoutePart := [publicHost, lanHost, tcp, circuit, p2p .nnoo, p2p .qcu2]

theorem mem_all (part : RoutePart) : part ∈ all := by
  cases part with
  | p2p peer => cases peer <;> decide
  | _ => decide

/-- The parts that a text begins with. -/
def read : ℕ → List Char → Option (List RoutePart)
  | _, [] => some []
  | 0, _ => none
  | fuel + 1, chars =>
    match all.find? fun part => part.text.toList.isPrefixOf chars with
    | some part => (read fuel (chars.drop part.text.toList.length)).map (part :: ·)
    | none => none

theorem prefixFree : ∀ first ∈ all, ∀ second ∈ all, first.text.toList <+: second.text.toList → first = second := by
  decide

theorem find_text (part : RoutePart) (rest : List Char) :
    (all.find? fun other => other.text.toList.isPrefixOf (part.text.toList ++ rest)) = some part := by
  have only : ∀ other ∈ all, other.text.toList.isPrefixOf (part.text.toList ++ rest) = true ↔ other = part := by
    intro other listed
    rw [List.isPrefixOf_iff_prefix]
    constructor
    · intro begins
      rcases List.prefix_or_prefix_of_prefix begins (List.prefix_append _ rest) with shorter | longer
      · exact prefixFree other listed part (mem_all part) shorter
      · exact (prefixFree part (mem_all part) other listed longer).symm
    · rintro rfl
      exact List.prefix_append _ _
  cases found : all.find? fun other => other.text.toList.isPrefixOf (part.text.toList ++ rest) with
  | none => exact absurd ((only part (mem_all part)).mpr rfl) (List.find?_eq_none.mp found part (mem_all part))
  | some other =>
    have begins := List.find?_some found
    rw [(only other (List.mem_of_find?_eq_some found)).mp begins]

theorem text_ne_nil (part : RoutePart) : part.text.toList ≠ [] := by
  have listed : ∀ part ∈ all, part.text.toList ≠ [] := by decide
  exact listed part (mem_all part)

theorem length_le_texts (parts : List RoutePart) :
    parts.length ≤ (parts.flatMap fun part => part.text.toList).length := by
  induction parts with
  | nil => exact le_rfl
  | cons part rest ih =>
    have := List.length_pos_iff.mpr part.text_ne_nil
    rw [List.flatMap_cons, List.length_append, List.length_cons]
    omega

theorem read_texts (parts : List RoutePart) (fuel : ℕ) (enough : parts.length ≤ fuel) :
    read fuel (parts.flatMap fun part => part.text.toList) = some parts := by
  induction parts generalizing fuel with
  | nil => cases fuel <;> rfl
  | cons part rest ih =>
    obtain ⟨fuel, rfl⟩ : ∃ less, fuel = less + 1 := ⟨fuel - 1, by simp at enough; omega⟩
    obtain ⟨first, chars, split⟩ := List.exists_cons_of_ne_nil part.text_ne_nil
    rw [List.flatMap_cons, split, List.cons_append, read, ← List.cons_append, ← split, find_text]
    dsimp only
    rw [List.drop_left, ih fuel (by simpa using enough)]
    · rfl
    · simp

end RoutePart

structure SeedRoute where
  parts : List RoutePart
  deriving DecidableEq

namespace SeedRoute

def text (route : SeedRoute) : String := String.ofList (route.parts.flatMap fun part => part.text.toList)

def parse (written : String) : Except String SeedRoute :=
  (RoutePart.read written.toList.length written.toList).elim (.error "unknown protocol string") fun parts =>
    .ok ⟨parts⟩

instance : Multiaddr Seed SeedRoute where
  toText := text
  parse := parse
  iter route := route.parts.map RoutePart.protocol

instance : AppendPeer Seed SeedRoute where
  withP2p route peer := ⟨route.parts ++ [.p2p peer]⟩
  iter_withP2p _ _ := List.map_append

theorem lawful : Multiaddr.Lawful Seed SeedRoute where
  parse_toText route := by
    show parse (text route) = .ok route
    unfold parse text
    rw [String.toList_ofList, RoutePart.read_texts _ _ (RoutePart.length_le_texts _), Option.elim_some]

end SeedRoute

end P2pNet
