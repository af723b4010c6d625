/-
**Commands that dial** (`ConnectPeer`, `DisconnectPeer` and `Wake` of `crates/node/commands.rs`).

`ConnectPeer` dials a plan for the given address. `Wake`, on browsers only, goes through the disconnected
peers of the book and dials plans for their first two addresses, eight plans at most.
-/

import P2pNet.Lib.Run
import P2pNet.Node.AutoDial

set_option linter.unusedSectionVars false

namespace P2pNet.Node

open Lib PeerIdentity Connectivity

variable {PeerId Addr : Type} [PeerIdentity PeerId] [DecidableEq Addr] [Multiaddr PeerId Addr]

/-! ### Dials of the node -/

/-- The places of the program that call `swarm.dial`. -/
inductive DialPath
  | maintenance
  | dhtProvider
  | lanBeacon
  | rendezvous
  | rendezvousRefresh
  | wake
  | connectCommand
  | fallback
  deriving DecidableEq, Repr

deriving instance DecidableEq for DialTarget

/-- A call of `swarm.dial`: where, for which peers and with what. -/
structure NodeDial (PeerId Addr : Type) where
  path : DialPath
  peers : List PeerId
  target : DialTarget PeerId Addr
  deriving DecidableEq

/-! ### ConnectPeer -/

/-- The plan for a requested address. -/
def requestPlan (view : DialView PeerId) (requested : Addr) : ConnectionPlan PeerId Addr :=
  buildConnectionPlanWithCapabilities requested view.peerBook view.dcutrPolicy (.ofTarget view.wasm32)

/-! ### Wake -/

def maxWakeAttempts : ℕ := 8

/-- The records in the order of the texts of their ids. -/
def recordsByText (book : PeerBook PeerId) : List (PeerId × PeerRecord PeerId) :=
  (book.peers.entries.map fun entry => (entry.1, entry.2)).mergeSort fun first second =>
    decide (toText first.1 ≤ toText second.1)

/-- The first two addresses of every disconnected record. -/
def wakeCandidates (book : PeerBook PeerId) : List (PeerId × String) :=
  ((recordsByText book).filter fun entry => !entry.2.connected).flatMap fun entry =>
    ((inOrder entry.2.addresses).take 2).map fun raw => (entry.1, raw)

structure Waking (PeerId Addr : Type) where
  attempts : ℕ
  plans : PendingConnectionPlans PeerId Addr

/-- The body of the loops; after eight plans nothing happens any more. -/
def wakeAddress (view : DialView PeerId) (answers : ℕ → DialAnswers) (s : Waking PeerId Addr)
    (candidate : PeerId × String) : List (NodeDial PeerId Addr) × Waking PeerId Addr :=
  if s.attempts ≥ maxWakeAttempts then ([], s)
  else match (Multiaddr.parse candidate.2 : Except String Addr) with
    | .error _ => ([], s)
    | .ok addr =>
      let plan := requestPlan view addr
      if plan.attempts.isEmpty then ([], s)
      else
        let dial := dialConnectionPlan s.plans plan (answers s.attempts)
        (dial.dialed.map fun attempt =>
            ⟨.wake, candidate.1 :: plan.targetPeer.toList, .address attempt.addr⟩,
          ⟨s.attempts + 1, dial.plans⟩)

def handleWake (view : DialView PeerId) (answers : ℕ → DialAnswers)
    (plans : PendingConnectionPlans PeerId Addr) :
    List (NodeDial PeerId Addr) × PendingConnectionPlans PeerId Addr :=
  let candidates := wakeCandidates view.peerBook
  ((outputs (wakeAddress view answers) ⟨0, plans⟩ candidates).flatten,
    (final (wakeAddress view answers) ⟨0, plans⟩ candidates).plans)

end P2pNet.Node
