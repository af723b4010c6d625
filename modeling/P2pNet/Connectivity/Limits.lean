/-
**Connection caps** (`ConnectionCapState` of `crates/connectivity/limits.rs`).

The cap per IP address is enforced after a connection has been established: the connection is counted, and
the caller closes it when the count is above the limit. The cap on outgoing connections is enforced by the
swarm; here they are counted, to make room for a dial.
-/

import P2pNet.Lib.Table
import P2pNet.Lib.Checked
import P2pNet.Common.Multiaddr

namespace P2pNet.Connectivity

open Lib

variable {PeerId Addr : Type} [PeerIdentity PeerId] [Multiaddr PeerId Addr]

/-- `libp2p::swarm::ConnectionId`, a counter. -/
abbrev ConnectionId := ℕ

structure ConnectionCapState (PeerId : Type) where
  maxEstablishedPerIp : Option UInt32
  maxEstablishedOutgoing : Option UInt32
  byConnection : Table ConnectionId String
  outgoingByConnection : Table ConnectionId PeerId
  byIp : Table String UInt32
  capDisconnects : ℕ

/-- The text of an `Ip4` or `Ip6` protocol without its name. -/
def ipOfProtocol : Protocol PeerId → Option String
  | .other text => match text.toList with
    | '/' :: 'i' :: 'p' :: '4' :: '/' :: ip => some (String.ofList ip)
    | '/' :: 'i' :: 'p' :: '6' :: '/' :: ip => some (String.ofList ip)
    | _ => none
  | _ => none

def multiaddrIpKey (addr : Addr) : Option String := (Multiaddr.iter addr).findSome? ipOfProtocol

namespace ConnectionCapState

def new (maxEstablishedPerIp maxEstablishedOutgoing : Option UInt32) : ConnectionCapState PeerId where
  maxEstablishedPerIp
  maxEstablishedOutgoing
  byConnection := ∅
  outgoingByConnection := ∅
  byIp := ∅
  capDisconnects := 0

variable (caps : ConnectionCapState PeerId)

/-- Is the connection above the cap of its address? -/
def recordEstablished (connection : ConnectionId) (peer : PeerId) (remoteAddr : Addr) (outgoing : Bool) :
    Bool × ConnectionCapState PeerId :=
  let caps :=
    if outgoing then { caps with outgoingByConnection := caps.outgoingByConnection.insert connection peer }
    else caps
  match multiaddrIpKey remoteAddr with
  | none => (false, caps)
  | some ip =>
    let count := UInt32.ofNat (min (((caps.byIp.lookup ip).getD 0).toNat + 1) (2 ^ 32 - 1))
    let caps := { caps with
      byConnection := caps.byConnection.insert connection ip
      byIp := caps.byIp.insert ip count }
    if (caps.maxEstablishedPerIp.map fun limit => decide (count > limit)).getD false then
      (true, { caps with capDisconnects := saturatingAdd caps.capDisconnects 1 })
    else (false, caps)

def recordClosed (connection : ConnectionId) : ConnectionCapState PeerId :=
  let caps := { caps with outgoingByConnection := caps.outgoingByConnection.erase connection }
  match caps.byConnection.lookup connection with
  | none => caps
  | some ip =>
    let caps := { caps with byConnection := caps.byConnection.erase connection }
    match caps.byIp.lookup ip with
    | none => caps
    | some count =>
      let count := UInt32.ofNat (count.toNat - 1)
      { caps with byIp := if count = 0 then caps.byIp.erase ip else caps.byIp.insert ip count }

/-- Number of outbound connections to release before a dial that needs headroom. -/
def outgoingConnectionsToRelease (desiredHeadroom : UInt32) : ℕ :=
  match caps.maxEstablishedOutgoing with
  | none => 0
  | some limit =>
    let current := min caps.outgoingByConnection.entries.length (2 ^ 32 - 1)
    let available := limit.toNat - current
    desiredHeadroom.toNat - available

/-- The peers of the outgoing connections, in the order of the table. -/
def outgoingPeers : List PeerId := caps.outgoingByConnection.entries.map Sigma.snd

end ConnectionCapState

end P2pNet.Connectivity
