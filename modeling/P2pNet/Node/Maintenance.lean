/-
**Reconnecting application peers** (`maintain_application_connections` of
`crates/node/runtime_maintenance.rs`).

On every tick the disconnected peers of the book that have an application namespace are looked at in the
order of their ids: the first eight that the user has not suppressed go through the retry gate and are
dialed from the book. The eight are taken before the gate is asked.
-/

import P2pNet.Lib.Run
import P2pNet.Node.AutoDial

set_option linter.unusedSectionVars false

namespace P2pNet

open Lib PeerIdentity Connectivity

variable {PeerId Addr : Type} [PeerIdentity PeerId] [DecidableEq Addr] [Multiaddr PeerId Addr]

/-- The disconnected peers with an application namespace, in the order of their ids. -/
def Connectivity.PeerBook.reconnectCandidates (book : PeerBook PeerId) : List PeerId :=
  book.disconnectedNamespacePeers.sort (· ≤ ·)

namespace Node

/-! ### One tick -/

/-- The turn of one candidate. -/
def reconnectPeer (view : DialView PeerId) (answers : PeerId → DialAnswers) (nowUnixSecs : ℕ)
    (s : Upkeep PeerId Addr) (peer : PeerId) : Turn PeerId Addr × Upkeep PeerId Addr :=
  let (allowed, dhtState) := s.dhtState.shouldAutoConnectProviderResult peer nowUnixSecs
  if !allowed then (.none, { s with dhtState })
  else
    let auto := autoDialPeerFromBook view s.pendingConnections peer (answers peer)
    (auto.turn "application peer reconnect" peer,
      { s.record peer auto with dhtState := dhtState.noteOutcome peer nowUnixSecs auto.outcome })

/-- The candidates of a tick. -/
def chosenCandidates (book : PeerBook PeerId) (stats : AutoDialRecords PeerId) : List PeerId :=
  (book.reconnectCandidates.filter fun peer => !stats.isSuppressed peer).take 8

/-- `view.enabled` is the switch `auto_connect_discovered_peers`; `answers` are those of the swarm to the
dials of each candidate. -/
def maintainApplicationConnections (view : DialView PeerId) (answers : PeerId → DialAnswers) (nowUnixSecs : ℕ)
    (s : Upkeep PeerId Addr) : Turn PeerId Addr × Upkeep PeerId Addr :=
  if !view.enabled then (.none, s)
  else
    let candidates := chosenCandidates view.peerBook s.autoDialStats
    (Turn.join (outputs (reconnectPeer view answers nowUnixSecs) s candidates),
      final (reconnectPeer view answers nowUnixSecs) s candidates)

/-! ### Turns -/

/-- The gate lets the peer through. -/
def Passes (dht : DhtProviderState PeerId) (nowUnixSecs : ℕ) (peer : PeerId) : Prop :=
  (dht.shouldAutoConnectProviderResult peer nowUnixSecs).1 = true

/-- A candidate that is dialed at its turn. -/
def Ready (view : DialView PeerId) (plans : PendingConnectionPlans PeerId Addr) (nowUnixSecs : ℕ)
    (dht : DhtProviderState PeerId) (peer : PeerId) : Prop :=
  Passes dht nowUnixSecs peer ∧ MayDial view plans peer ∧ (bookPlan Addr view peer).attempts ≠ []

/-- What the turn of a candidate that is not dialed leaves of the retry policy: without an address it
waits for one. -/
def passOver (view : DialView PeerId) (plans : PendingConnectionPlans PeerId Addr) (nowUnixSecs : ℕ)
    (dht : DhtProviderState PeerId) (peer : PeerId) : DhtProviderState PeerId :=
  let (allowed, dht) := dht.shouldAutoConnectProviderResult peer nowUnixSecs
  if allowed = true ∧ MayDial view plans peer then dht.markAutoConnectWaitingForAddrs peer else dht

/-- One of the candidates is ready when those before it have been passed over. -/
def Served (view : DialView PeerId) (plans : PendingConnectionPlans PeerId Addr) (nowUnixSecs : ℕ)
    (dht : DhtProviderState PeerId) (candidates : List PeerId) : Prop :=
  ∃ (index : ℕ) (peer : PeerId), candidates[index]? = some peer ∧
    Ready view plans nowUnixSecs ((candidates.take index).foldl (passOver view plans nowUnixSecs) dht) peer

section Turns

variable (view : DialView PeerId) (answers : PeerId → DialAnswers) (nowUnixSecs : ℕ)

/-- **One turn**: a ready candidate is dialed, any other one is passed over. -/
theorem reconnectPeer_case (s : Upkeep PeerId Addr) (peer : PeerId) :
    (Ready view s.pendingConnections nowUnixSecs s.dhtState peer ∧
      (reconnectPeer view answers nowUnixSecs s peer).1.dialed ≠ []) ∨
    (¬ Ready view s.pendingConnections nowUnixSecs s.dhtState peer ∧
      (reconnectPeer view answers nowUnixSecs s peer).1.dialed = [] ∧
      (reconnectPeer view answers nowUnixSecs s peer).2.pendingConnections = s.pendingConnections ∧
      (reconnectPeer view answers nowUnixSecs s peer).2.dhtState
        = passOver view s.pendingConnections nowUnixSecs s.dhtState peer) := by
  unfold reconnectPeer Ready Passes passOver
  cases gate : s.dhtState.shouldAutoConnectProviderResult peer nowUnixSecs with
  | mk allowed dht =>
    cases allowed with
    | false => exact .inr ⟨fun ready => Bool.false_ne_true ready.1, rfl, rfl, (if_neg (by simp)).symm⟩
    | true =>
      rcases autoDialPeerFromBook_case view s.pendingConnections peer (answers peer) with
        ⟨closed, outcome, skipped, auto⟩ | ⟨may, empty, auto⟩ | ⟨may, attempts, _, dialed⟩
      · refine .inr ⟨fun ready => closed ready.2.1, ?_, ?_, ?_⟩
        · simp [auto, AutoDial.turn]
        · simp [auto, Upkeep.record]
        · simp [auto, closed, dht.noteOutcome_skipped peer nowUnixSecs skipped]
      · refine .inr ⟨fun ready => ready.2.2 empty, ?_, ?_, ?_⟩
        · simp [auto, AutoDial.turn]
        · simp [auto, Upkeep.record]
        · simp [auto, may, DhtProviderState.noteOutcome]
      · refine .inl ⟨⟨rfl, may, attempts⟩, ?_⟩
        have reached := dialConnectionPlan_dialed_ne_nil s.pendingConnections attempts (answers peer)
        simp [AutoDial.turn, dialed, reached]

theorem served_cons {plans : PendingConnectionPlans PeerId Addr} {dht : DhtProviderState PeerId} {peer : PeerId}
    {candidates : List PeerId} (passed : ¬ Ready view plans nowUnixSecs dht peer) :
    Served view plans nowUnixSecs dht (peer :: candidates) ↔
      Served view plans nowUnixSecs (passOver view plans nowUnixSecs dht peer) candidates := by
  constructor
  · rintro ⟨index, candidate, here, ready⟩
    cases index with
    | zero =>
      cases here
      exact absurd ready passed
    | succ index => exact ⟨index, candidate, here, ready⟩
  · rintro ⟨index, candidate, here, ready⟩
    exact ⟨index + 1, candidate, here, ready⟩

/-- **The turns of a list of candidates** reach the swarm when one of them is ready at its turn. -/
theorem turns_dial_iff (s : Upkeep PeerId Addr) (candidates : List PeerId) :
    (Turn.join (outputs (reconnectPeer view answers nowUnixSecs) s candidates)).dialed ≠ [] ↔
      Served view s.pendingConnections nowUnixSecs s.dhtState candidates := by
  induction candidates generalizing s with
  | nil =>
    refine iff_of_false (fun dials => dials rfl) ?_
    rintro ⟨index, peer, here, _⟩
    cases here
  | cons peer candidates ih =>
    unfold outputs
    rw [Turn.join_cons]
    rcases reconnectPeer_case view answers nowUnixSecs s peer with
      ⟨ready, dials⟩ | ⟨passed, silent, plans, dht⟩
    · refine iff_of_true (fun none => dials (List.append_eq_nil_iff.mp none).1) ?_
      exact ⟨0, peer, rfl, ready⟩
    · rw [silent, List.nil_append, ih, plans, dht, served_cons view nowUnixSecs passed]

theorem maintain_dials_iff (s : Upkeep PeerId Addr) :
    (maintainApplicationConnections view answers nowUnixSecs s).1.dialed ≠ [] ↔ view.enabled = true ∧
      Served view s.pendingConnections nowUnixSecs s.dhtState
        (chosenCandidates view.peerBook s.autoDialStats) := by
  unfold maintainApplicationConnections
  cases enabled : view.enabled with
  | false => simp [Turn.none]
  | true =>
    simp only [Bool.not_true, Bool.false_eq_true, if_false, true_and]
    exact turns_dial_iff view answers nowUnixSecs s _

/-- **Candidates whose dials are under way are passed over**, all of them. -/
theorem not_served_of_attempted {plans : PendingConnectionPlans PeerId Addr} {dht : DhtProviderState PeerId}
    {candidates : List PeerId} (attempted : ∀ peer ∈ candidates, peer ∈ dht.attemptedPeers.peers) :
    ¬ Served view plans nowUnixSecs dht candidates := by
  induction candidates with
  | nil =>
    rintro ⟨index, peer, here, _⟩
    cases here
  | cons first candidates ih =>
    have gate : dht.shouldAutoConnectProviderResult first nowUnixSecs = (false, dht) := by
      unfold DhtProviderState.shouldAutoConnectProviderResult DhtProviderState.autoConnectRetryAllowed
      rw [if_pos (attempted first List.mem_cons_self), ite_self]
    have passed : ¬ Ready view plans nowUnixSecs dht first := by
      rintro ⟨passes, _⟩
      unfold Passes at passes
      rw [gate] at passes
      cases passes
    have unchanged : passOver view plans nowUnixSecs dht first = dht := by
      unfold Node.passOver
      rw [gate]
      exact if_neg (by simp)
    rw [served_cons view nowUnixSecs passed, unchanged]
    exact ih fun peer member => attempted peer (List.mem_cons_of_mem first member)

end Turns

/-! ### Eligible peers -/

/-- A reconnect candidate that nothing keeps from being dialed. -/
structure Eligible (view : DialView PeerId) (nowUnixSecs : ℕ) (s : Upkeep PeerId Addr) (peer : PeerId) : Prop where
  candidate : peer ∈ view.peerBook.reconnectCandidates
  unsuppressed : s.autoDialStats.isSuppressed peer = false
  remote : peer ≠ view.localPeer
  disconnected : peer ∉ view.connectedPeers
  idle : s.pendingConnections.isPending peer = false
  passes : Passes s.dhtState nowUnixSecs peer

/-- **An eligible peer in the book brings about a dial on the tick exactly when automatic connections are on
and one of the first eight candidates is ready at its turn.** -/
theorem reconnect_served_iff (view : DialView PeerId) (answers : PeerId → DialAnswers) (nowUnixSecs : ℕ)
    (s : Upkeep PeerId Addr) :
    ((∃ peer, Eligible view nowUnixSecs s peer) →
      (maintainApplicationConnections view answers nowUnixSecs s).1.dialed ≠ []) ↔
    ((∃ peer, Eligible view nowUnixSecs s peer) → view.enabled = true ∧
      Served view s.pendingConnections nowUnixSecs s.dhtState
        (chosenCandidates view.peerBook s.autoDialStats)) :=
  imp_congr_right fun _ => maintain_dials_iff view answers nowUnixSecs s

/-! ### Nine peers -/

namespace NinePeers

def peers : List KeyPeer := (List.range 9).map fun index => ⟨UInt8.ofNat (index + 1)⟩

def ninth : KeyPeer := ⟨9⟩

/-- All nine were found by their namespace, each with an address. -/
def book : PeerBook KeyPeer :=
  peers.foldl (fun book peer =>
    (book.recordNamespace peer 1700000000 "lobby" .dhtProvider).recordAddr peer 1700000000
      (TcpHost.mk peer.last) .dhtProvider) PeerBook.default

def view : DialView KeyPeer where
  localPeer := ⟨0⟩
  enabled := true
  connectedPeers := ∅
  peerBook := book
  dcutrPolicy := ⟨true, true, true⟩
  wasm32 := false

/-- The dials of the first eight are under way. -/
def start : Upkeep KeyPeer TcpHost where
  pendingConnections := .empty
  dhtState := (peers.take 8).foldl (fun dht peer => dht.markAutoConnectAttempted peer 1700000001) .empty
  autoDialStats := .empty

end NinePeers

open NinePeers in
/-- **The ninth peer starves**: it is eligible and has an address, and the tick dials nobody. -/
theorem ninth_peer_starves :
    Eligible view 1700000002 start ninth ∧ (bookPlan TcpHost view ninth).attempts ≠ [] ∧
      ∀ answers, (maintainApplicationConnections view answers 1700000002 start).1.dialed = [] := by
  have candidates : view.peerBook.reconnectCandidates = peers := by
    have members : view.peerBook.disconnectedNamespacePeers = peers.toFinset := by decide +kernel
    unfold PeerBook.reconnectCandidates
    rw [members]
    exact (List.toFinset_sort _ (by decide)).mpr (by decide)
  have chosen : chosenCandidates view.peerBook start.autoDialStats = peers.take 8 := by
    unfold chosenCandidates
    rw [candidates]
    decide
  refine ⟨?_, by decide +kernel, fun answers => ?_⟩
  · refine ⟨?_, by decide, by decide, by decide, by decide, ?_⟩
    · rw [candidates]
      decide
    · show (start.dhtState.shouldAutoConnectProviderResult ninth 1700000002).1 = true
      decide
  · by_contra dials
    have served := ((maintain_dials_iff view answers 1700000002 start).mp dials).2
    rw [chosen] at served
    refine not_served_of_attempted view 1700000002 ?_ served
    decide

end Node

end P2pNet
