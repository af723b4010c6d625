/-
**The peers a TURN relay sends to** (`crates/connectivity/turn/server.rs`).

A relay socket hands calls on to the socket that was allocated. Unless private peers are allowed, it refuses to connect
or to send to an address that is not public. The allocated socket may reply to a call whatever it likes, depending on
all calls it has had.
-/

import P2pNet.Lib.Run
import P2pNet.Connectivity.IpText

namespace P2pNet.Connectivity.Turn

open Lib

/-! ### Relay sockets -/

inductive SocketAddr
  | v4 (a b c d : UInt8) (port : UInt16)
  | v6 (segments : Fin 8 → UInt16) (port : UInt16) (flowinfo scopeId : UInt32)
  deriving DecidableEq

namespace SocketAddr

def ip : SocketAddr → IpAddr
  | v4 a b c d _ => .v4 a b c d
  | v6 segments _ _ _ => .v6 segments

def toText : SocketAddr → String
  | v4 a b c d port => s!"{ipv4Text a b c d}:{port}"
  | v6 segments port _ scopeId =>
    if scopeId = 0 then s!"[{ipv6Text segments}]:{port}" else s!"[{ipv6Text segments}%{scopeId}]:{port}"

end SocketAddr

/-- The calls of `Conn`. -/
inductive ConnCall
  | connect (addr : SocketAddr)
  | recv (room : ℕ)
  | recvFrom (room : ℕ)
  | send (buf : List UInt8)
  | sendTo (buf : List UInt8) (target : SocketAddr)
  | localAddr
  | remoteAddr
  | close
  deriving DecidableEq

/-- The address that is connected or sent to. -/
def ConnCall.target : ConnCall → Option SocketAddr
  | connect addr => some addr
  | sendTo _ target => some target
  | _ => none

/-- What the allocated socket replies to a call, after the calls it has had. -/
abbrev Conn (Reply : Type) := List ConnCall → ConnCall → Except String Reply

/-- What `allocate_conn` returns: the allocated socket, or that socket behind `PublicPeersOnly`. -/
inductive RelayConn
  | bare
  | publicPeersOnly
  deriving DecidableEq

/-- `PeerFilteringRelayGenerator::allocate_conn`; `allocated` is what the inner generator returns. -/
def allocateConn (allowPrivatePeers : Bool) (allocated : Except String SocketAddr) :
    Except String (RelayConn × SocketAddr) := do
  let relayAddr ← allocated
  if allowPrivatePeers then return (.bare, relayAddr)
  return (.publicPeersOnly, relayAddr)

def ensurePublic (addr : SocketAddr) : Except String Unit :=
  if addr.ip.isPublic then .ok () else .error s!"TURN relay to non-public address {addr.toText} refused"

/-- The check that comes before a call is handed on. -/
def RelayConn.check : RelayConn → ConnCall → Except String Unit
  | .publicPeersOnly, .connect addr => ensurePublic addr
  | .publicPeersOnly, .sendTo _ target => ensurePublic target
  | _, _ => .ok ()

variable {Reply : Type}

/-- One call to a relay socket. The state is the list of calls that the allocated socket has had. -/
def relayStep (conn : RelayConn) (inner : Conn Reply) (had : List ConnCall) (call : ConnCall) :
    Except String Reply × List ConnCall :=
  match conn.check call with
  | .ok () => (inner had call, had ++ [call])
  | .error err => (.error err, had)

/-! ### What is handed on -/

theorem ensurePublic_ok_iff (addr : SocketAddr) : ensurePublic addr = .ok () ↔ addr.ip.isPublic = true := by
  unfold ensurePublic
  split_ifs with isPublic
  · simp [isPublic]
  · simp [isPublic]

theorem check_ok_iff (call : ConnCall) : RelayConn.publicPeersOnly.check call = .ok () ↔
    ∀ target, call.target = some target → target.ip.isPublic = true := by
  cases call with
  | connect addr => simp [RelayConn.check, ConnCall.target, ensurePublic_ok_iff]
  | sendTo buf target => simp [RelayConn.check, ConnCall.target, ensurePublic_ok_iff]
  | _ => simp [RelayConn.check, ConnCall.target]

theorem relayStep_had (conn : RelayConn) (inner : Conn Reply) (had : List ConnCall) (call : ConnCall) :
    (relayStep conn inner had call).2 = had ++ [call].filter fun call => conn.check call = .ok () := by
  unfold relayStep
  cases checked : conn.check call with
  | ok => simp [checked]
  | error err => simp [checked]

/-- **The calls that reach the allocated socket** are those that pass the check. -/
theorem final_relayStep (conn : RelayConn) (inner : Conn Reply) (had calls : List ConnCall) :
    final (relayStep conn inner) had calls = had ++ calls.filter fun call => conn.check call = .ok () := by
  induction calls generalizing had with
  | nil => simp
  | cons call rest ih =>
    rw [final_cons, ih, relayStep_had, List.append_assoc, ← List.filter_append, List.singleton_append]

/-- The IPv4-mapped form of an address that is not public. -/
def Disguised (ip : IpAddr) : Prop := ∃ a b c d, ip = .mapped a b c d ∧ isPublicIpv4 a b c d = false

/-- Every mapped address passes for public. -/
theorem isPublic_mapped (a b c d : UInt8) : (IpAddr.mapped a b c d).isPublic = true := by
  have first : toIpv6Mapped a b c d 0 = 0 := rfl
  have mark : toIpv6Mapped a b c d 5 = 0xffff := rfl
  have marked : ¬ ∀ index, toIpv6Mapped a b c d index = 0 := by
    intro zero
    exact absurd (mark.symm.trans (zero 5)) (by decide)
  have unlike : ¬ ∀ index, toIpv6Mapped a b c d index = if index = 7 then 1 else 0 := by
    intro loopback
    exact absurd (mark.symm.trans (loopback 5)) (by decide)
  simp [IpAddr.mapped, IpAddr.isPublic, isPublicIpv6, marked, unlike, first]

theorem denoted_public_iff (ip : IpAddr) :
    (ip.isPublic = true → ip.denoted.isPublic = true) ↔ ¬ Disguised ip := by
  by_cases mapped : ∃ a b c d, ip = .mapped a b c d
  · obtain ⟨a, b, c, d, rfl⟩ := mapped
    rw [isPublic_mapped, IpAddr.denoted_mapped]
    constructor
    · rintro isPublic ⟨a', b', c', d', same, hidden⟩
      have read := congrArg IpAddr.denoted same
      rw [IpAddr.denoted_mapped, IpAddr.denoted_mapped] at read
      cases read
      exact absurd (isPublic rfl) (by simp [IpAddr.isPublic, hidden])
    · intro plain _
      by_contra hidden
      exact plain ⟨a, b, c, d, rfl, by simpa [IpAddr.isPublic] using hidden⟩
  · have self : ip.denoted = ip := IpAddr.denoted_eq_self fun a b c d same => mapped ⟨a, b, c, d, same⟩
    rw [self]
    exact ⟨fun _ ⟨a, b, c, d, same, _⟩ => mapped ⟨a, b, c, d, same⟩, fun _ isPublic => isPublic⟩

/-- **What a relay without private peers sends to.** For every sequence of calls, the hosts that are connected or sent
to are public exactly when none of the calls names a disguised address; and an address and its mapped form are judged
alike exactly when the address is public. -/
theorem forwarded_public_iff {allocated : Except String SocketAddr} {conn : RelayConn} {relayAddr : SocketAddr}
    (created : allocateConn false allocated = .ok (conn, relayAddr)) (inner : Conn Reply) (calls : List ConnCall) :
    ((∀ call ∈ final (relayStep conn inner) [] calls, ∀ target, call.target = some target →
        target.ip.denoted.isPublic = true) ↔
      ∀ call ∈ calls, ∀ target, call.target = some target → ¬ Disguised target.ip) ∧
    ∀ a b c d, (IpAddr.mapped a b c d).isPublic = (IpAddr.v4 a b c d).isPublic ↔ isPublicIpv4 a b c d = true := by
  have filtered : conn = .publicPeersOnly := by
    cases allocated with
    | error err => cases created
    | ok addr =>
      cases created
      rfl
  subst filtered
  constructor
  · rw [final_relayStep, List.nil_append]
    constructor
    · intro all call member target named
      refine (denoted_public_iff _).mp fun isPublic => all call ?_ target named
      refine List.mem_filter.mpr ⟨member, decide_eq_true ((check_ok_iff call).mpr fun other also => ?_)⟩
      rw [named] at also
      exact Option.some.inj also ▸ isPublic
    · intro plain call member target named
      obtain ⟨asked, passed⟩ := List.mem_filter.mp member
      refine (denoted_public_iff _).mpr (plain call asked target named) ?_
      exact (check_ok_iff call).mp (of_decide_eq_true passed) target named
  · intro a b c d
    rw [isPublic_mapped]
    exact eq_comm

namespace MappedLoopback

def relayAddr : SocketAddr := .v4 198 51 100 7 50100

/-- `[::ffff:127.0.0.1]:22`. -/
def target : SocketAddr := .v6 (toIpv6Mapped 127 0 0 1) 22 0 0

def inner : Conn Unit := fun _ _ => .ok ()

/-- **The relay sends to the loopback address**, which it refuses in the usual notation. -/
theorem forwarded : allocateConn false (.ok relayAddr) = .ok (.publicPeersOnly, relayAddr) ∧
    final (relayStep .publicPeersOnly inner) [] [.sendTo [1] (.v4 127 0 0 1 22), .sendTo [1] target] =
      [.sendTo [1] target] ∧
    target.ip.denoted = .v4 127 0 0 1 ∧ (IpAddr.v4 127 0 0 1).isPublic = false := by
  decide

/-- Calls without a disguised address: a private peer is refused, and public peers are reached in both notations. -/
theorem plain_calls : allocateConn false (.ok relayAddr) = .ok (.publicPeersOnly, relayAddr) ∧
    ∀ call ∈ final (relayStep .publicPeersOnly inner) []
      [.connect (.v4 10 0 0 5 80), .sendTo [1] (.v4 8 8 8 8 53), .sendTo [1] (.v6 (toIpv6Mapped 8 8 8 8) 53 0 0)],
    ∀ target, call.target = some target → target.ip.denoted.isPublic = true := by
  have created : allocateConn false (.ok relayAddr) = .ok (.publicPeersOnly, relayAddr) := rfl
  have plain : ∀ ip : IpAddr, ip.denoted.isPublic = true → ¬ Disguised ip := fun ip isPublic =>
    (denoted_public_iff ip).mp fun _ => isPublic
  refine ⟨created, (forwarded_public_iff created inner _).1.mpr fun call member other named => ?_⟩
  simp only [List.mem_cons, List.not_mem_nil, or_false] at member
  rcases member with rfl | rfl | rfl
  · cases named
    rintro ⟨a, b, c, d, same, _⟩
    cases same
  · cases named
    exact plain _ (by decide)
  · cases named
    exact plain _ (by decide)

end MappedLoopback

end P2pNet.Connectivity.Turn
