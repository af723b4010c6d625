/-
**Who is marked as connected.**

A record of the peer book is marked as connected by four handlers: an established connection that is taken
over, a provider that the swarm is connected to, an accepted heartbeat of its author and Identify of a peer
of the same application. `bookCalls_marking` says whom an event marks; only a closed connection unmarks.

`book_truthful_iff`: throughout a run from startup only peers the swarm has a connection to are marked,
exactly when at every step the author of an accepted heartbeat and the peer of such an Identify are
connected. `forwarded_heartbeat_marks_author`: a heartbeat that a neighbour forwards marks its author.
-/

import P2pNet.Node.Runtime

set_option linter.unusedSectionVars false

namespace P2pNet.Node

open Lib PeerIdentity Connectivity PeerBook Protocol

variable {PeerId Addr : Type} [PeerIdentity PeerId] [DecidableEq Addr] [Multiaddr PeerId Addr]
  (setup : NodeSetup PeerId Addr)

theorem NodeState.mem_connectedPeers (s : NodeState PeerId Addr) (peer : PeerId) :
    peer ∈ s.connectedPeers ↔ ∃ connection, (peer, connection) ∈ s.connections := by
  unfold connectedPeers
  rw [List.mem_toFinset, List.mem_map]
  constructor
  · rintro ⟨⟨owner, connection⟩, member, rfl⟩
    exact ⟨connection, member⟩
  · rintro ⟨connection, member⟩
    exact ⟨(peer, connection), member, rfl⟩

/-! ### Whom an event marks -/

/-- The event marks the peer. -/
def Marks (s : NodeState PeerId Addr) (event : NodeEvent PeerId Addr) (now : Moment) (peer : PeerId) : Prop :=
  match event with
  | .providersFound _ providers _ => peer ∈ providers ∧ peer ∈ s.connectedPeers
  | .heartbeat (some author) data =>
    acceptsHeartbeat setup s.replayCache author data now.unixNs = true ∧ peer = author
  | .identify info => info.protocolVersion = setup.applicationProtocolVersion ∧ peer = info.peer
  | .established connection =>
    (Admitted s.connection connection ⟨setup.relayEnabled, now.isOpenNowUtc, now.instant, now.unixSecs⟩ ∧
      shouldTrackPeerInPeerBook s.peerBook connection.peerId = true) ∧ peer = connection.peerId
  | _ => False

theorem providerAddrCalls_neutral (peer : PeerId) (addrs : List Addr) :
    Marking (providerAddrCalls peer addrs) fun _ => False := by
  refine .neutral fun call member => ?_
  rcases List.mem_append.mp member with address | preferred
  · obtain ⟨_, _, rfl⟩ := List.mem_map.mp address
    rfl
  · split_ifs at preferred
    · rw [List.mem_singleton.mp preferred]
      rfl
    · cases preferred

theorem registrationCalls_neutral (source : PeerSource) (registrations : List (Registration PeerId Addr)) :
    Marking (registrationCalls source registrations) fun _ => False := by
  refine .neutral fun call member => ?_
  obtain ⟨registration, _, own⟩ := List.mem_flatMap.mp member
  rcases List.mem_cons.mp own with rfl | address
  · rfl
  · obtain ⟨_, _, rfl⟩ := List.mem_map.mp address
    rfl

theorem announcementCalls_neutral (names : List String) (peer : PeerId) (addrs : List Addr) :
    Marking (announcementCalls names peer addrs) fun _ => False := by
  refine .neutral fun call member => ?_
  rcases List.mem_append.mp member with named | address
  · obtain ⟨_, _, rfl⟩ := List.mem_map.mp named
    rfl
  · obtain ⟨_, _, rfl⟩ := List.mem_map.mp address
    rfl

theorem capabilityCalls_neutral (info : IdentifyInfo PeerId Addr) (book : PeerBook PeerId) :
    Marking (info.capabilityCalls book) fun _ => False := by
  refine .neutral fun call member => ?_
  unfold IdentifyInfo.capabilityCalls at member
  split_ifs at member
  · rw [List.mem_singleton.mp member]
    rfl
  · cases member

theorem addressCalls_neutral (info : IdentifyInfo PeerId Addr) (book : PeerBook PeerId) :
    Marking (info.addressCalls book) fun _ => False := by
  refine .neutral fun call member => ?_
  unfold IdentifyInfo.addressCalls at member
  split_ifs at member
  · obtain ⟨_, _, rfl⟩ := List.mem_map.mp member
    rfl
  · cases member

theorem verifiedPeerCalls_marking (names : List String) (owner : PeerId) :
    Marking (verifiedPeerCalls Addr names owner) fun peer => peer = owner := by
  have named : Marking (names.map fun name => (.recordNamespace owner name .connected : Call PeerId Addr))
      fun _ => False := by
    refine .neutral fun call member => ?_
    obtain ⟨_, _, rfl⟩ := List.mem_map.mp member
    rfl
  exact (named.append (.connected owner none)).congr fun peer => iff_of_eq (false_or _)

theorem dhtProviderCalls_marking (connected : Finset PeerId) (name : String) (providers : List PeerId) :
    Marking (dhtProviderCalls Addr connected name providers)
      fun peer => peer ∈ providers ∧ peer ∈ connected := by
  have each : ∀ provider, Marking (.recordNamespace provider name .dhtProvider ::
      if provider ∈ connected then [.recordConnected provider none] else ([] : List (Call PeerId Addr)))
      fun peer => False ∨ provider ∈ connected ∧ peer = provider := by
    intro provider
    exact (Marking.singleton rfl).append (.guarded _ (.connected provider none))
  refine (Marking.flatMap each).congr fun peer => ⟨?_, ?_⟩
  · rintro ⟨provider, member, impossible | ⟨here, rfl⟩⟩
    · exact impossible.elim
    · exact ⟨member, here⟩
  · rintro ⟨member, here⟩
    exact ⟨peer, member, .inr ⟨here, rfl⟩⟩

/-- **Whom an event marks**, unless it closes a connection. -/
theorem bookCalls_marking (s : NodeState PeerId Addr) {event : NodeEvent PeerId Addr}
    (other : ∀ peer connection, event ≠ .closed peer connection) (now : Moment) :
    Marking (bookCalls setup s (event, now)) (Marks setup s event now) := by
  cases event with
  | tick | newListenAddr | disconnectPeer | wake => exact .nil
  | providersFound name providers answers => exact dhtProviderCalls_marking s.connectedPeers name providers
  | providerAddrs peer addrs answers =>
    exact .guarded_neutral _ (providerAddrCalls_neutral peer addrs)
  | addressRecord peer name addrs answers =>
    exact ((Marking.singleton rfl).append
      (.guarded_neutral _ (providerAddrCalls_neutral peer addrs))).congr fun _ => or_self_iff
  | rendezvousDiscovered rendezvousNode registrations answers => exact registrationCalls_neutral _ registrations
  | lanAnnouncement peer addrs answer =>
    exact .guarded_neutral _ (announcementCalls_neutral _ peer addrs)
  | heartbeat author data =>
    cases author with
    | none => exact .nil
    | some author => exact .guarded _ (verifiedPeerCalls_marking _ author)
  | identify info =>
    refine (((Marking.guarded _ (verifiedPeerCalls_marking setup.applicationNamespaces info.peer)).append
      (capabilityCalls_neutral info _)).append (addressCalls_neutral info _)).congr fun peer => ?_
    rw [or_false, or_false]
    rfl
  | established connection => exact .guarded _ (.connected connection.peerId (some connection.remoteAddr))
  | closed peer connection => exact absurd rfl (other peer connection)
  | outgoingError failed errorDebug answer =>
    cases failed with
    | none => exact .nil
    | some failed => exact .guarded_neutral _ (.singleton rfl)
  | connectPeer addr answer =>
    unfold bookCalls
    dsimp only
    split
    · split_ifs
      · exact .nil
      · exact .singleton rfl
    · exact .nil

/-! ### The book tells the truth -/

/-- **Only peers the swarm has a connection to are marked.** -/
def Truthful (s : NodeState PeerId Addr) : Prop := ∀ peer, s.peerBook.Marked peer → peer ∈ s.connectedPeers

/-- The peer that the event vouches for is connected. -/
def Vouched (s : NodeState PeerId Addr) (event : NodeEvent PeerId Addr × Moment) : Prop :=
  match event.1 with
  | .heartbeat (some author) data =>
    acceptsHeartbeat setup s.replayCache author data event.2.unixNs = true → author ∈ s.connectedPeers
  | .identify info =>
    info.protocolVersion = setup.applicationProtocolVersion → info.peer ∈ s.connectedPeers
  | _ => True

theorem truthful_iff_marks {s : NodeState PeerId Addr} (indexed : Indexed s.peerBook)
    {event : NodeEvent PeerId Addr} (other : ∀ peer connection, event ≠ .closed peer connection)
    (now : Moment) : Truthful (nodeStep setup s (event, now)).2 ↔
      ∀ peer, s.peerBook.Marked peer ∨ Marks setup s event now peer →
        peer ∈ (nodeStep setup s (event, now)).2.connectedPeers := by
  unfold Truthful
  rw [(nodeStep_written setup s event now).peerBook]
  refine forall_congr' fun peer => ?_
  rw [(bookCalls_marking setup s other now).recordAll_iff indexed]

/-- A closed connection that was the last one of its peer unmarks the peer. -/
theorem closed_truthful {s : NodeState PeerId Addr} (indexed : Indexed s.peerBook) (truthful : Truthful s)
    (owner : PeerId) (connection : ConnectionId) (now : Moment) :
    Truthful (nodeStep setup s (.closed owner connection, now)).2 := by
  have written := nodeStep_written setup s (.closed owner connection) now
  have left : ∀ peer, peer ≠ owner → peer ∈ s.connectedPeers →
      peer ∈ (nodeStep setup s (.closed owner connection, now)).2.connectedPeers := by
    intro peer different before
    rw [NodeState.mem_connectedPeers] at before ⊢
    obtain ⟨id, member⟩ := before
    refine ⟨id, ?_⟩
    rw [written.connections]
    refine (List.mem_erase_of_ne fun same => ?_).mpr member
    exact different (congrArg Prod.fst same)
  intro peer marked
  rw [written.peerBook] at marked
  by_cases last : (s.connections.erase (owner, connection)).any (·.1 = owner) = true
  · have before : s.peerBook.Marked peer := by
      unfold bookCalls at marked
      dsimp only at marked
      rw [if_pos last] at marked
      exact marked
    by_cases own : peer = owner
    · subst own
      rw [NodeState.mem_connectedPeers, written.connections]
      obtain ⟨⟨found, id⟩, member, same⟩ := List.any_eq_true.mp last
      cases of_decide_eq_true same
      exact ⟨id, member⟩
    · exact left peer own (truthful peer before)
  · unfold bookCalls at marked
    dsimp only at marked
    rw [if_neg last] at marked
    have after := (step_marked_iff indexed (.recordDisconnectedIfKnown owner : Call PeerId Addr) _ peer).mp marked
    split_ifs at after with own
    · cases after
    · exact left peer own (truthful peer after)

theorem established_truthful {s : NodeState PeerId Addr} (indexed : Indexed s.peerBook)
    (truthful : Truthful s) (connection : EstablishedConnection PeerId Addr) (now : Moment) :
    Truthful (nodeStep setup s (.established connection, now)).2 := by
  have connections := (nodeStep_written setup s (.established connection) now).connections
  refine (truthful_iff_marks setup indexed ?_ now).mpr ?_
  · exact fun _ _ => nofun
  rintro peer (before | ⟨_, rfl⟩)
  · obtain ⟨id, member⟩ := (s.mem_connectedPeers peer).mp (truthful peer before)
    rw [NodeState.mem_connectedPeers, connections]
    exact ⟨id, List.mem_cons_of_mem _ member⟩
  · rw [NodeState.mem_connectedPeers, connections]
    exact ⟨connection.connectionId, List.mem_cons_self⟩

/-- An event that leaves the connections alone keeps the book truthful exactly when those it marks are
connected. -/
theorem truthful_iff_of_connections {s : NodeState PeerId Addr} (indexed : Indexed s.peerBook)
    (truthful : Truthful s) {event : NodeEvent PeerId Addr} (now : Moment)
    (other : ∀ peer connection, event ≠ .closed peer connection)
    (same : connectionsAfter s event = s.connections) : Truthful (nodeStep setup s (event, now)).2 ↔
      ∀ peer, Marks setup s event now peer → peer ∈ s.connectedPeers := by
  have connected : (nodeStep setup s (event, now)).2.connectedPeers = s.connectedPeers := by
    unfold NodeState.connectedPeers
    rw [(nodeStep_written setup s event now).connections, same]
  rw [truthful_iff_marks setup indexed other, connected]
  constructor
  · exact fun all peer marks => all peer (.inr marks)
  · rintro all peer (before | marks)
    · exact truthful peer before
    · exact all peer marks

/-- **One step keeps the book truthful exactly when the peer it vouches for is connected.** -/
theorem nodeStep_truthful_iff {s : NodeState PeerId Addr} (indexed : Indexed s.peerBook)
    (truthful : Truthful s) (event : NodeEvent PeerId Addr) (now : Moment) :
    Truthful (nodeStep setup s (event, now)).2 ↔ Vouched setup s (event, now) := by
  cases event with
  | closed peer connection =>
    exact iff_of_true (closed_truthful setup indexed truthful peer connection now) trivial
  | established connection =>
    exact iff_of_true (established_truthful setup indexed truthful connection now) trivial
  | heartbeat author data =>
    refine (truthful_iff_of_connections setup indexed truthful now ?_ rfl).trans ?_
    · exact fun _ _ => nofun
    cases author with
    | none => exact iff_of_true (fun _ => False.elim) trivial
    | some author =>
      constructor
      · exact fun all accepted => all author ⟨accepted, rfl⟩
      · rintro vouched peer ⟨accepted, rfl⟩
        exact vouched accepted
  | identify info =>
    refine (truthful_iff_of_connections setup indexed truthful now ?_ rfl).trans ?_
    · exact fun _ _ => nofun
    constructor
    · exact fun all same => all info.peer ⟨same, rfl⟩
    · rintro vouched peer ⟨same, rfl⟩
      exact vouched same
  | providersFound name providers answers =>
    refine (truthful_iff_of_connections setup indexed truthful now ?_ rfl).trans ?_
    · exact fun _ _ => nofun
    exact iff_of_true (fun peer marks => marks.2) trivial
  | tick | newListenAddr | providerAddrs | addressRecord | rendezvousDiscovered | lanAnnouncement
  | outgoingError | connectPeer | disconnectPeer | wake =>
    refine (truthful_iff_of_connections setup indexed truthful now ?_ rfl).trans ?_
    · exact fun _ _ => nofun
    exact iff_of_true (fun _ => False.elim) trivial

/-! ### Runs -/

theorem Started.indexed {s : NodeState PeerId Addr} (started : Started s) : Indexed s.peerBook := by
  obtain ⟨calls, nowUnixSecs, _, book⟩ := started.peerBook
  rw [book]
  exact recordAll_indexed (indexed_withMaxRecords _) calls nowUnixSecs

theorem Started.truthful {s : NodeState PeerId Addr} (started : Started s) : Truthful s := by
  obtain ⟨calls, nowUnixSecs, startup, book⟩ := started.peerBook
  have neutral : Marking calls fun _ => False := by
    refine .neutral fun call member => ?_
    have allowed := startup call member
    cases call with
    | recordPeer | recordAddr => rfl
    | recordNamespace | recordConnected | recordCapabilities | recordRelayPreferred | recordDisconnected
    | recordDisconnectedIfKnown | recordFailure => exact allowed.elim
  intro peer marked
  rw [book] at marked
  rcases (neutral.recordAll_iff (indexed_withMaxRecords _) nowUnixSecs peer).mp marked with ⟨record, found, _⟩ | impossible
  · cases found
  · exact impossible.elim

/-- The indexes of the book stay in order. -/
theorem run_indexed {start : NodeState PeerId Addr} (started : Started start)
    (events : List (NodeEvent PeerId Addr × Moment)) :
    Indexed (final (nodeStep setup) start events).peerBook := by
  refine final_induct (nodeStep setup) (fun _ s => Indexed s.peerBook) events started.indexed ?_
  rintro _ ⟨event, now⟩ _ s _ indexed
  rw [(nodeStep_written setup s event now).peerBook]
  exact recordAll_indexed indexed _ _

/-- **Throughout a run from startup only connected peers are marked, exactly when every step vouches for
connected peers only.** -/
theorem book_truthful_iff {start : NodeState PeerId Addr} (started : Started start)
    (events : List (NodeEvent PeerId Addr × Moment)) :
    (∀ count ≤ events.length, Truthful (final (nodeStep setup) start (events.take count))) ↔
      ∀ (count : ℕ) (event : NodeEvent PeerId Addr × Moment), events[count]? = some event →
        Vouched setup (final (nodeStep setup) start (events.take count)) event := by
  refine always_iff_each (nodeStep setup) (fun s => Indexed s.peerBook) Truthful (Vouched setup) events
    (fun count => run_indexed setup started (events.take count)) started.truthful ?_
  rintro s ⟨event, now⟩ _ indexed truthful
  exact nodeStep_truthful_iff setup indexed truthful event now

namespace OnePeerKnown

/-- A heartbeat of the known peer. -/
def wire : List UInt8 :=
  heartbeatWireMagic ++ [0, 2, 0, 38] ++ known.bytes ++ [23, 151, 156, 254, 54, 42, 0, 0]
    ++ List.replicate 32 171 ++ List.replicate 32 5

/-- The known peer connects, sends a heartbeat and leaves. -/
def visit : List (NodeEvent KeyPeer KeyHost × Moment) :=
  [(.established connection, moment 1), (.heartbeat (some known) wire, moment 2), (.closed known 1, moment 3)]

def neighbour : EstablishedConnection KeyPeer KeyHost :=
  { connection with peerId := ⟨2⟩, connectionId := 2, remoteAddr := ⟨⟨2⟩⟩ }

/-- A neighbour forwards the heartbeat of the known peer. -/
def forwarding : List (NodeEvent KeyPeer KeyHost × Moment) :=
  [(.established neighbour, moment 1), (.heartbeat (some known) wire, moment 2)]

theorem marked_of_map {book : PeerBook KeyPeer} {peer : KeyPeer}
    (marked : (book.record peer).map PeerRecord.connected = some true) : book.Marked peer := by
  obtain ⟨record, found, connected⟩ := Option.map_eq_some_iff.mp marked
  exact ⟨record, found, connected⟩

end OnePeerKnown

open OnePeerKnown in
theorem book_truthful_iff_visit :
    (final (nodeStep config) start (visit.take 2)).peerBook.Marked known ∧
      ∀ count ≤ 3, Truthful (final (nodeStep config) start (visit.take count)) := by
  refine ⟨marked_of_map (by decide +kernel), (book_truthful_iff config started visit).mpr ?_⟩
  intro count event here
  match count, here with
  | 0, here =>
    cases here
    trivial
  | 1, here =>
    cases here
    intro _
    show known ∈ (final (nodeStep config) start (visit.take 1)).connectedPeers
    decide
  | 2, here =>
    cases here
    trivial

open OnePeerKnown in
/-- **A forwarded heartbeat marks its author**, who has no connection to the node. -/
theorem forwarded_heartbeat_marks_author :
    let s := final (nodeStep config) start forwarding
    Started start ∧ s.peerBook.Marked known ∧ s.connectedPeers = {neighbour.peerId} :=
  ⟨started, marked_of_map (by decide +kernel), by decide +kernel⟩

end P2pNet.Node
