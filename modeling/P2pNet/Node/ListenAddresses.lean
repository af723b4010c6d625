/-
**Listen addresses** (`crates/node/events/connection.rs`, `crates/node/events/connection/listen_addr.rs`,
`crates/node/events/relay_client.rs`).

A new listen address that is public is handed to `ExternalAddressCandidates`, directly or, for an address
behind a relay, once the relay has accepted a reservation. When a listen address expires, the swarm is told
directly, and the behaviour is not.
-/

import P2pNet.Connectivity.AddrClass
import P2pNet.Stack.ExternalAddresses
import P2pNet.Lib.Table
import P2pNet.Lib.OrderedSet

set_option linter.unusedSectionVars false

namespace P2pNet.Node

open Lib PeerIdentity Connectivity Stack

variable {PeerId Addr : Type} [PeerIdentity PeerId] [DecidableEq Addr] [Multiaddr PeerId Addr]

/-! ### Classes of listen addresses -/

inductive ListenAddrClass
  | publicDirect
  | relayed
  | localOnly
  deriving DecidableEq

namespace ListenAddrClass

def advertiseAsExternal : ListenAddrClass → Bool
  | publicDirect | relayed => true
  | localOnly => false

def isRelayed : ListenAddrClass → Bool
  | relayed => true
  | _ => false

end ListenAddrClass

/-- What the handlers read of the outside: the hosts in addresses, and the build target. -/
structure AddrSetup (PeerId : Type) where
  hostOf : Protocol PeerId → Option Host
  windows : Bool

section Classes

variable (setup : AddrSetup PeerId)

def classifyListenAddr (addr : Addr) : ListenAddrClass :=
  if isP2pCircuitAddr addr then .relayed
  else if isPublicDirectAddr setup.hostOf addr then .publicDirect
  else .localOnly

def relayedRouteHasPublicRelayEndpoint (addr : Addr) : Bool :=
  let relayRoute := (Multiaddr.iter addr).takeWhile (· != .p2pCircuit)
  hasReachableTransport setup.hostOf relayRoute && !isLocalDirectAddr setup.hostOf relayRoute

end Classes

/-! ### The snapshot -/

def maxSnapshotAddrs : ℕ := 16

/-- The listen addresses that the snapshot shows. -/
structure ListenSnapshot where
  publicDirectListenAddresses : List String
  relayedListenAddresses : List String
  localListenAddresses : List String
  publicAddr : Option String

def pushUniqueRecent (values : List String) (value : String) : List String :=
  (value :: values.filter (· ≠ value)).take maxSnapshotAddrs

namespace ListenSnapshot

def empty : ListenSnapshot := ⟨[], [], [], none⟩

variable (setup : AddrSetup PeerId) (snapshot : ListenSnapshot)

def recordListenAddr (addr : Addr) (classification : ListenAddrClass) : ListenSnapshot :=
  let text := Multiaddr.toText addr
  match classification with
  | .publicDirect =>
    { snapshot with
      publicDirectListenAddresses := pushUniqueRecent snapshot.publicDirectListenAddresses text
      publicAddr := some text }
  | .relayed =>
    { snapshot with
      relayedListenAddresses := pushUniqueRecent snapshot.relayedListenAddresses text
      publicAddr := some text }
  | .localOnly =>
    if isLocalDirectAddr setup.hostOf (Multiaddr.iter addr) then
      { snapshot with localListenAddresses := pushUniqueRecent snapshot.localListenAddresses text }
    else snapshot

def removeListenAddr (addr : Addr) (classification : ListenAddrClass) : ListenSnapshot :=
  let text := Multiaddr.toText addr
  let snapshot := match classification with
    | .publicDirect =>
      { snapshot with
        publicDirectListenAddresses := snapshot.publicDirectListenAddresses.filter (· ≠ text) }
    | .relayed => { snapshot with relayedListenAddresses := snapshot.relayedListenAddresses.filter (· ≠ text) }
    | .localOnly => { snapshot with localListenAddresses := snapshot.localListenAddresses.filter (· ≠ text) }
  { snapshot with
    publicAddr := snapshot.relayedListenAddresses.head?.or snapshot.publicDirectListenAddresses.head? }

end ListenSnapshot

/-! ### Handlers -/

/-- The part of the node that listen addresses change: the behaviour with the swarm, the relay state and the
snapshot. -/
structure ListenState (PeerId Addr : Type) [PeerIdentity PeerId] where
  addresses : ExternalAddresses Addr
  relayClientReservations : Finset PeerId
  pendingRelayListenAddrs : Table PeerId (Finset String)
  relayedListenAddrs : Finset String
  privateRelayedListenAddrs : Finset String
  snapshot : ListenSnapshot

namespace ListenState

variable (setup : AddrSetup PeerId) (s : ListenState PeerId Addr)

def confirmRelayedListenAddr (address : Addr) : ListenState PeerId Addr :=
  if relayedRouteHasPublicRelayEndpoint setup address then
    { s with
      addresses := s.addresses.addConfirmed setup.windows address
      relayedListenAddrs := insert (Multiaddr.toText address) s.relayedListenAddrs }
  else
    { s with privateRelayedListenAddrs := insert (Multiaddr.toText address) s.privateRelayedListenAddrs }

/-- The address waits for a reservation at the relay. -/
def awaitReservation (relay : PeerId) (address : Addr) : ListenState PeerId Addr :=
  let waiting := (s.pendingRelayListenAddrs.lookup relay).getD ∅
  { s with
    pendingRelayListenAddrs :=
      s.pendingRelayListenAddrs.insert relay (insert (Multiaddr.toText address) waiting) }

/-- What becomes of a relayed address: confirmed by a reservation, waiting for one, or neither. -/
structure RelayedOutcome where
  confirmedByReservation : Bool
  pendingReservation : Bool

def takeRelayed (address : Addr) : RelayedOutcome × ListenState PeerId Addr :=
  match relayPeerId address with
  | none => (⟨false, false⟩, s)
  | some relay =>
    if relay ∈ s.relayClientReservations then
      (⟨relayedRouteHasPublicRelayEndpoint setup address, false⟩, s.confirmRelayedListenAddr setup address)
    else (⟨false, true⟩, s.awaitReservation relay address)

def handleNewListenAddr (address : Addr) : List String × ListenState PeerId Addr :=
  let classification := classifyListenAddr setup address
  let text := Multiaddr.toText address
  match classification with
  | .publicDirect =>
    ([s!"public direct listen addr confirmed {text}"],
      { s with
        addresses := s.addresses.addConfirmed setup.windows address
        snapshot := s.snapshot.recordListenAddr setup address classification })
  | .localOnly =>
    ([s!"local/private listen addr {text}; not advertised as public reachability"],
      { s with
        addresses := s.addresses.addCandidate setup.windows address
        snapshot := s.snapshot.recordListenAddr setup address classification })
  | .relayed =>
    let (outcome, s) := s.takeRelayed setup address
    if outcome.confirmedByReservation then
      ([s!"relay_client relayed listen addr confirmed {text}"],
        { s with snapshot := s.snapshot.recordListenAddr setup address classification })
    else if outcome.pendingReservation then
      ([s!"relay_client relayed listen addr pending reservation {text}"], s)
    else ([s!"relay_client relayed listen addr ignored non-public relay route {text}"], s)

/-- The address waits for no reservation any more. -/
def forgetPending (text : String) : Table PeerId (Finset String) :=
  Table.retain (fun _ waiting => decide waiting.Nonempty)
    (s.pendingRelayListenAddrs.mapValues fun waiting => waiting.erase text)

def handleExpiredListenAddr (address : Addr) : List String × ListenState PeerId Addr :=
  let classification := classifyListenAddr setup address
  let text := Multiaddr.toText address
  let s :=
    if classification.advertiseAsExternal then
      { s with addresses := { s.addresses with external := s.addresses.external.erase address } }
    else s
  let s :=
    if classification.isRelayed then
      { s with
        relayedListenAddrs := s.relayedListenAddrs.erase text
        privateRelayedListenAddrs := s.privateRelayedListenAddrs.erase text
        pendingRelayListenAddrs := s.forgetPending text }
    else s
  (if classification.isRelayed then [s!"relay_client relayed listen addr expired {text}"] else [],
    { s with snapshot := s.snapshot.removeListenAddr address classification })

/-- `ReservationReqAccepted`; `routes` are the addresses that were requested at the relay. -/
def handleReservationAccepted (relay : PeerId) (routes : List Addr) : ListenState PeerId Addr :=
  let s := { s with relayClientReservations := insert relay s.relayClientReservations }
  let s := routes.foldl (fun s route => s.confirmRelayedListenAddr setup route) s
  match s.pendingRelayListenAddrs.lookup relay with
  | none => s
  | some waiting =>
    let s := { s with pendingRelayListenAddrs := s.pendingRelayListenAddrs.erase relay }
    ((inOrder waiting).filterMap fun text => (Multiaddr.parse text).toOption).foldl
      (fun s address => s.confirmRelayedListenAddr setup address) s

end ListenState

/-! ### Runs -/

/-- What happens to listen addresses, one call at a time. Identify and the probe of the public address add
addresses as well, and other behaviours of the swarm confirm and expire addresses. -/
inductive ListenOp (PeerId Addr : Type)
  | newListenAddr (address : Addr)
  | reserved (relay : PeerId)
  | confirmRelayed (address : Addr)
  | takenFromPending (relay : PeerId)
  | expiredListenAddr (address : Addr)
  | addExternalAddressCandidate (address : Addr)
  | poll
  | confirmedElsewhere (address : Addr)
  | expiredElsewhere (address : Addr)

section Runs

variable (setup : AddrSetup PeerId)

def listenAddrStep (s : ListenState PeerId Addr) : ListenOp PeerId Addr → List String × ListenState PeerId Addr
  | .newListenAddr address => s.handleNewListenAddr setup address
  | .reserved relay => ([], { s with relayClientReservations := insert relay s.relayClientReservations })
  | .confirmRelayed address => ([], s.confirmRelayedListenAddr setup address)
  | .takenFromPending relay => ([], { s with pendingRelayListenAddrs := s.pendingRelayListenAddrs.erase relay })
  | .expiredListenAddr address => s.handleExpiredListenAddr setup address
  | .addExternalAddressCandidate address =>
    ([], { s with addresses := s.addresses.addConfirmed setup.windows address })
  | .poll => ([], { s with addresses := s.addresses.pollStep })
  | .confirmedElsewhere address =>
    ([], { s with addresses := { s.addresses with external := insert address s.addresses.external } })
  | .expiredElsewhere address =>
    ([], { s with addresses := { s.addresses with external := s.addresses.external.erase address } })

/-- The operation announces a public address: a public listen address, or one behind a relay with a public
endpoint and a reservation. -/
def Announces (s : ListenState PeerId Addr) (op : ListenOp PeerId Addr) (address : Addr) : Prop :=
  op = .newListenAddr address ∧
    (classifyListenAddr setup address = .publicDirect ∨
      classifyListenAddr setup address = .relayed ∧ relayedRouteHasPublicRelayEndpoint setup address = true ∧
        ∃ relay ∈ s.relayClientReservations, relayPeerId address = some relay) ∨
  op = .confirmRelayed address ∧ relayedRouteHasPublicRelayEndpoint setup address = true

/-- An announcement hands the address to the behaviour. -/
theorem Announces.addresses {s : ListenState PeerId Addr} {op : ListenOp PeerId Addr} {address : Addr}
    (announces : Announces setup s op address) :
    (listenAddrStep setup s op).2.addresses = s.addresses.addConfirmed setup.windows address := by
  rcases announces with ⟨rfl, isPublic | ⟨relayed, route, relay, reserved, named⟩⟩ | ⟨rfl, route⟩
  · show (s.handleNewListenAddr setup address).2.addresses = _
    unfold ListenState.handleNewListenAddr
    rw [isPublic]
  · show (s.handleNewListenAddr setup address).2.addresses = _
    unfold ListenState.handleNewListenAddr ListenState.takeRelayed ListenState.confirmRelayedListenAddr
    rw [relayed, named]
    dsimp only
    rw [if_pos reserved, if_pos route]
    dsimp only
    rw [if_pos route]
  · show (s.confirmRelayedListenAddr setup address).addresses = _
    unfold ListenState.confirmRelayedListenAddr
    rw [if_pos route]

/-- Every announced address is one that its expiry takes from the swarm. -/
theorem Announces.advertised {s : ListenState PeerId Addr} {op : ListenOp PeerId Addr} {address : Addr}
    (announces : Announces setup s op address) :
    (classifyListenAddr setup address).advertiseAsExternal = true := by
  rcases announces with ⟨-, isPublic | ⟨relayed, -⟩⟩ | ⟨-, route⟩
  · rw [isPublic]
    rfl
  · rw [relayed]
    rfl
  · unfold classifyListenAddr
    by_cases circuit : isP2pCircuitAddr address = true
    · rw [if_pos circuit]
      rfl
    · -- without a circuit the route to the relay is the whole address
      have whole : (Multiaddr.iter address).takeWhile (· != .p2pCircuit) = Multiaddr.iter address := by
        refine List.takeWhile_eq_self_iff.mpr fun protocol member => ?_
        rw [bne_iff_ne]
        intro same
        exact circuit (List.any_eq_true.mpr ⟨protocol, member, beq_iff_eq.mpr same⟩)
      unfold relayedRouteHasPublicRelayEndpoint at route
      dsimp only at route
      rw [whole, Bool.and_eq_true, Bool.not_eq_true'] at route
      obtain ⟨protocol, member, reachable⟩ := List.any_eq_true.mp route.1
      have isPublic : isPublicDirectAddr setup.hostOf address = true := by
        refine (isPublicDirectAddr_iff setup.hostOf address).mpr ⟨⟨protocol, member, ?_⟩, route.2⟩
        cases named : setup.hostOf protocol with
        | none =>
          rw [named] at reachable
          cases reachable
        | some host => rfl
      rw [if_neg circuit, if_pos isPublic]
      rfl

theorem confirmRelayedListenAddr_effect (s : ListenState PeerId Addr) (elsewhere : Addr → Prop) (address : Addr) :
    Effect setup.windows elsewhere s.addresses (s.confirmRelayedListenAddr setup address).addresses := by
  unfold ListenState.confirmRelayedListenAddr
  split_ifs
  · exact .added address
  · exact .same

theorem takeRelayed_effect (s : ListenState PeerId Addr) (elsewhere : Addr → Prop) (address : Addr) :
    Effect setup.windows elsewhere s.addresses (s.takeRelayed setup address).2.addresses := by
  unfold ListenState.takeRelayed
  split
  · exact .same
  · split_ifs
    · exact confirmRelayedListenAddr_effect setup s elsewhere address
    · exact .same

/-- **What an operation does to the external addresses.** -/
theorem listenAddrStep_effect (s : ListenState PeerId Addr) (op : ListenOp PeerId Addr) :
    Effect setup.windows (fun address => op = .confirmedElsewhere address) s.addresses
      (listenAddrStep setup s op).2.addresses := by
  cases op with
  | newListenAddr address =>
    show Effect _ _ _ (s.handleNewListenAddr setup address).2.addresses
    unfold ListenState.handleNewListenAddr
    cases classifyListenAddr setup address with
    | publicDirect => exact .added address
    | localOnly => exact .offered address
    | relayed =>
      dsimp only
      split_ifs <;> exact takeRelayed_effect setup s _ address
  | reserved relay => exact .same
  | confirmRelayed address => exact confirmRelayedListenAddr_effect setup s _ address
  | takenFromPending relay => exact .same
  | expiredListenAddr address =>
    show Effect _ _ _ (s.handleExpiredListenAddr setup address).2.addresses
    unfold ListenState.handleExpiredListenAddr
    cases classifyListenAddr setup address with
    | localOnly => exact .same
    | publicDirect | relayed => exact .removed address
  | addExternalAddressCandidate address => exact .added address
  | poll => exact .polled
  | confirmedElsewhere address => exact .confirmed address rfl
  | expiredElsewhere address => exact .removed address

/-- The behaviour remembers the address after the operation. -/
def Remembers (address : Addr) (s : ListenState PeerId Addr) (op : ListenOp PeerId Addr) : Prop :=
  address ∈ (listenAddrStep setup s op).2.addresses.candidates.confirmed.seen

theorem run_remembers {address : Addr} {s : ListenState PeerId Addr} {ops : List (ListenOp PeerId Addr)}
    (known : address ∈ s.addresses.candidates.confirmed.seen)
    (remembers : Each (listenAddrStep setup) (Remembers setup address) s ops) :
    address ∈ (final (listenAddrStep setup) s ops).addresses.candidates.confirmed.seen := by
  induction ops generalizing s with
  | nil => exact known
  | cons op rest ih =>
    obtain ⟨first, later⟩ := (each_cons _).mp remembers
    exact ih first later

theorem run_lost {address : Addr} {s : ListenState PeerId Addr} {ops : List (ListenOp PeerId Addr)}
    (lost : Lost address s.addresses)
    (remembers : Each (listenAddrStep setup) (Remembers setup address) s ops)
    (alone : .confirmedElsewhere address ∉ ops) :
    Lost address (final (listenAddrStep setup) s ops).addresses := by
  induction ops generalizing s with
  | nil => exact lost
  | cons op rest ih =>
    obtain ⟨first, later⟩ := (each_cons _).mp remembers
    obtain ⟨other, others⟩ := List.ne_and_not_mem_of_not_mem_cons alone
    rw [final_cons]
    exact ih (lost.effect (listenAddrStep_effect setup s op) first (Ne.symm other)) later others

/-- An address that expires with nothing queued is lost. -/
theorem lost_of_expired {s : ListenState PeerId Addr} {address : Addr}
    (advertised : (classifyListenAddr setup address).advertiseAsExternal = true)
    (known : address ∈ s.addresses.candidates.confirmed.seen) (idle : s.addresses.candidates.pending = []) :
    Lost address (listenAddrStep setup s (.expiredListenAddr address)).2.addresses := by
  have removed : (listenAddrStep setup s (.expiredListenAddr address)).2.addresses
      = { s.addresses with external := s.addresses.external.erase address } := by
    show (s.handleExpiredListenAddr setup address).2.addresses = _
    unfold ListenState.handleExpiredListenAddr
    cases classified : classifyListenAddr setup address with
    | localOnly =>
      rw [classified] at advertised
      cases advertised
    | publicDirect | relayed => rfl
  rw [removed]
  refine ⟨known, ?_, Finset.notMem_erase _ _⟩
  rw [idle]
  exact List.not_mem_nil

/-- **Announced, expired and announced again.** Afterwards the address is confirmed exactly if the behaviour
had forgotten it, or would have confirmed it anyway. So it is not confirmed, if it expired after the
behaviour had nothing left to do and is still remembered, unless another behaviour has confirmed it. -/
theorem announced_again_iff {start : ListenState PeerId Addr} (remembering : Remembering start.addresses)
    {address : Addr} {first second : ListenOp PeerId Addr} (shown hidden : List (ListenOp PeerId Addr))
    (announces : Announces setup start first address) :
    let announced := (listenAddrStep setup start first).2
    let before := final (listenAddrStep setup) announced shown
    let expired := (listenAddrStep setup before (.expiredListenAddr address)).2
    let again := final (listenAddrStep setup) expired hidden
    let after := (listenAddrStep setup again second).2
    Announces setup again second address →
      (address ∈ after.addresses.drained.external ↔
        address ∉ again.addresses.candidates.confirmed.seen ∨ address ∈ again.addresses.drained.external) ∧
      (before.addresses.candidates.pending = [] →
        Each (listenAddrStep setup) (Remembers setup address) announced shown →
        Each (listenAddrStep setup) (Remembers setup address) expired hidden →
        .confirmedElsewhere address ∉ hidden → address ∉ after.addresses.drained.external) := by
  intro announced before expired again after announcesAgain
  have exactly : address ∈ after.addresses.drained.external ↔
      address ∉ again.addresses.candidates.confirmed.seen ∨ address ∈ again.addresses.drained.external := by
    rw [announcesAgain.addresses setup]
    exact again.addresses.mem_drained_addConfirmed_iff setup.windows address
  refine ⟨exactly, fun idle rememberedShown rememberedHidden alone => ?_⟩
  have known : address ∈ announced.addresses.candidates.confirmed.seen := by
    rw [announces.addresses setup]
    exact remembering.mem_addConfirmed setup.windows address
  have lost := run_lost setup
    (lost_of_expired setup (announces.advertised setup) (run_remembers setup known rememberedShown) idle)
    rememberedHidden alone
  rw [exactly, not_or, not_not]
  exact ⟨lost.remembered, lost.notMem_drained⟩

end Runs

namespace PublicListener

/-- A public address, and a reader of its host. -/
def address : Endpoint := ⟨(8, 8, 8, 8), 4001, true, .nnoo⟩

def setup : AddrSetup Seed where
  hostOf protocol := if protocol = .other "/ip4/8.8.8.8" then some (.ip4 8 8 8 8) else none
  windows := false

def start : ListenState Seed Endpoint where
  addresses := ⟨.new, ∅⟩
  relayClientReservations := ∅
  pendingRelayListenAddrs := ∅
  relayedListenAddrs := ∅
  privateRelayedListenAddrs := ∅
  snapshot := .empty

theorem remembering : Remembering start.addresses := ⟨SeenAddresses.kept_empty _, SeenAddresses.kept_empty _⟩

theorem classified : classifyListenAddr setup address = .publicDirect := by decide

theorem announced (s : ListenState Seed Endpoint) : Announces setup s (.newListenAddr address) address :=
  .inl ⟨rfl, .inl classified⟩

/-- The run from the first announcement to the second, with a number of polls before the expiry. -/
def flap (polls : ℕ) : ListenState Seed Endpoint :=
  final (listenAddrStep setup) start
    (.newListenAddr address :: List.replicate polls .poll ++ [.expiredListenAddr address, .newListenAddr address])

theorem announced_again_iff_unpolled : Announces setup start (.newListenAddr address) address ∧
    address ∈ (flap 0).addresses.drained.external := by
  refine ⟨announced start, ?_⟩
  exact ((announced_again_iff setup remembering [] [] (announced start) (announced _)).1).mpr
    (.inr (by decide))

/-- The interface flaps: the address is announced, confirmed, expires and is announced again, and it is not
confirmed any more, though the snapshot shows it. -/
theorem flapped_address_lost :
    address ∈ (final (listenAddrStep setup) start [.newListenAddr address, .poll, .poll]).addresses.external ∧
      address ∉ (flap 2).addresses.drained.external ∧
      (flap 2).snapshot.publicAddr = some (Multiaddr.toText address) := by
  refine ⟨by decide, by decide, by decide⟩

end PublicListener

end P2pNet.Node
