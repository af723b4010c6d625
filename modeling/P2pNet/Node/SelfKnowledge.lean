/-
**What the node learns about itself** (the recording paths of `crates/node/events`).

Every discovery source has a recording path of its own. The paths of LAN beacons and of the connect command
refuse the local peer; those of Kademlia providers, address records, rendezvous registrations, heartbeats
and Identify do not ask.
-/

import P2pNet.Node.Connectedness

set_option linter.unusedSectionVars false

namespace P2pNet

open Lib PeerIdentity Connectivity

variable {PeerId Addr : Type} [PeerIdentity PeerId] [DecidableEq Addr] [Multiaddr PeerId Addr]

/-! ### Records that calls create -/

namespace Connectivity.PeerBook

/-- The call gives the peer a record if it has none. -/
def Call.Creates (call : Call PeerId Addr) (peer : PeerId) : Prop :=
  call.peer = peer ∧ ∀ other, call ≠ .recordDisconnectedIfKnown other

/-- One of the calls creates a record of the peer. -/
def Created (calls : List (Call PeerId Addr)) (peer : PeerId) : Prop := ∃ call ∈ calls, call.Creates peer

section Created

variable {peer : PeerId}

theorem not_created_nil : ¬ Created ([] : List (Call PeerId Addr)) peer := fun ⟨_, member, _⟩ => nomatch member

theorem created_cons {call : Call PeerId Addr} {calls : List (Call PeerId Addr)} :
    Created (call :: calls) peer ↔ call.Creates peer ∨ Created calls peer := by
  simp [Created]

theorem created_append {first second : List (Call PeerId Addr)} :
    Created (first ++ second) peer ↔ Created first peer ∨ Created second peer := by
  simp [Created, or_and_right, exists_or]

theorem created_flatMap {ι : Type} {members : List ι} {each : ι → List (Call PeerId Addr)} :
    Created (members.flatMap each) peer ↔ ∃ member ∈ members, Created (each member) peer := by
  simp only [Created, List.mem_flatMap]
  grind

/-- The calls are about one peer. -/
def About (owner : PeerId) (calls : List (Call PeerId Addr)) : Prop := ∀ call ∈ calls, call.peer = owner

theorem About.nil {owner : PeerId} : About owner ([] : List (Call PeerId Addr)) := nofun

theorem About.cons {owner : PeerId} {call : Call PeerId Addr} {calls : List (Call PeerId Addr)}
    (own : call.peer = owner) (rest : About owner calls) : About owner (call :: calls) :=
  List.forall_mem_cons.mpr ⟨own, rest⟩

theorem About.append {owner : PeerId} {first second : List (Call PeerId Addr)} (one : About owner first)
    (two : About owner second) : About owner (first ++ second) := fun call member =>
  (List.mem_append.mp member).elim (one call) (two call)

theorem About.map {ι : Type} {owner : PeerId} {members : List ι} {call : ι → Call PeerId Addr}
    (own : ∀ member, (call member).peer = owner) : About owner (members.map call) := by
  intro _ member
  obtain ⟨element, -, rfl⟩ := List.mem_map.mp member
  exact own element

theorem About.guarded {owner : PeerId} {calls : List (Call PeerId Addr)} (test : Prop) [Decidable test]
    (about : About owner calls) : About owner (if test then calls else []) := by
  split_ifs
  · exact about
  · exact .nil

theorem About.of_created {owner : PeerId} {calls : List (Call PeerId Addr)} (about : About owner calls)
    (created : Created calls peer) : owner = peer := by
  obtain ⟨call, member, own, -⟩ := created
  exact (about call member).symm.trans own

/-- Calls about one peer, one of which creates its record. -/
theorem About.created_iff {owner : PeerId} {calls : List (Call PeerId Addr)} (about : About owner calls)
    (created : Created calls owner) : Created calls peer ↔ owner = peer :=
  ⟨about.of_created, fun same => same ▸ created⟩

end Created

section Record

variable {book : PeerBook PeerId} {peer : PeerId}

/-- A peer without a record gets none from a call that creates none. -/
theorem step_unknown (indexed : Indexed book) (unknown : book.record peer = none) {call : Call PeerId Addr}
    (idle : ¬ call.Creates peer) (nowUnixSecs : ℕ) : (step book (call, nowUnixSecs)).2.record peer = none := by
  rcases step_case book call nowUnixSecs with ⟨acts, -⟩ | ⟨-, same⟩
  · have other : peer ≠ call.peer := by
      intro own
      refine idle ⟨own.symm, fun known conditional => ?_⟩
      have stored := acts known conditional
      rw [conditional] at own
      change peer = known at own
      rw [← own] at stored
      change (book.record peer).isSome = true at stored
      rw [unknown] at stored
      cases stored
    refine Option.eq_none_iff_forall_not_mem.mpr fun record found => ?_
    rcases step_record indexed call nowUnixSecs found with ⟨_, known⟩ | ⟨own, -⟩
    · rw [unknown] at known
      cases known
    · exact other own
  · rw [same]
    exact unknown

theorem recordAll_unknown (indexed : Indexed book) (unknown : book.record peer = none)
    {calls : List (Call PeerId Addr)} (idle : ¬ Created calls peer) (nowUnixSecs : ℕ) :
    (book.recordAll calls nowUnixSecs).record peer = none := by
  have kept := recordAll_induct (fun book => Indexed book ∧ book.record peer = none) nowUnixSecs
    ⟨indexed, unknown⟩ fun current call (member : call ∈ calls) known =>
      ⟨step_indexed known.1 call nowUnixSecs,
        step_unknown known.1 known.2 (fun creates => idle ⟨call, member, creates⟩) nowUnixSecs⟩
  exact kept.2

/-- **A call on a book with room** evicts nobody. -/
theorem step_roomy (room : book.len < book.maxRecords) (call : Call PeerId Addr) (nowUnixSecs : ℕ) :
    let after := (step book (call, nowUnixSecs)).2
    after.len ≤ book.len + 1 ∧ after.maxRecords = book.maxRecords ∧
      ∀ peer, call.Creates peer ∨ (book.record peer).isSome → (after.record peer).isSome := by
  intro after
  rcases step_case book call nowUnixSecs with ⟨-, acted⟩ | ⟨idle, same⟩
  · have grown : (call.touch book nowUnixSecs).len ≤ book.len + 1 := by
      unfold PeerBook.len Call.touch
      rw [touchPeer_peers]
      cases known : book.peers.lookup call.peer with
      | none => exact (Table.length_insert_new _ known).le
      | some record => exact (Table.length_insert_old _ known).le.trans (Nat.le_succ _)
    have limit : (call.touch book nowUnixSecs).maxRecords = book.maxRecords := touchPeer_maxRecords ..
    have kept : after = call.touch book nowUnixSecs :=
      acted.trans (enforceRecordBound_of_le (by rw [limit]; omega))
    rw [kept]
    refine ⟨grown, limit, fun peer known => ?_⟩
    unfold PeerBook.record Call.touch
    rw [touchPeer_peers, Table.lookup_insert_eq]
    split_ifs with own
    · rfl
    · exact known.resolve_left fun creates => own creates.1.symm
  · change after = book at same
    rw [same]
    refine ⟨Nat.le_succ _, rfl, fun peer known => known.resolve_left fun creates => idle ?_⟩
    exact fun other conditional => absurd conditional (creates.2 other)

theorem recordAll_created {calls : List (Call PeerId Addr)} (room : book.len + calls.length ≤ book.maxRecords)
    (created : Created calls peer ∨ (book.record peer).isSome) (nowUnixSecs : ℕ) :
    ((book.recordAll calls nowUnixSecs).record peer).isSome := by
  induction calls generalizing book with
  | nil => exact created.resolve_left not_created_nil
  | cons call later ih =>
    rw [List.length_cons] at room
    have free : book.len < book.maxRecords := by omega
    obtain ⟨len, maxRecords, known⟩ := step_roomy free call nowUnixSecs
    rw [recordAll_cons]
    refine ih ?_ ?_
    · rw [maxRecords]
      exact (Nat.add_le_add_right len _).trans (by omega)
    · rw [created_cons] at created
      rcases created with (first | rest) | before
      · exact .inr (known peer (.inl first))
      · exact .inl rest
      · exact .inr (known peer (.inr before))

end Record

end Connectivity.PeerBook

namespace Node

open PeerBook

variable (setup : NodeSetup PeerId Addr)

/-! ### Events that name the local peer -/

/-- The event names the local peer on a path that records whomever it is told about. -/
def NamesSelf (s : NodeState PeerId Addr) (event : NodeEvent PeerId Addr × Moment) : Prop :=
  match event.1 with
  | .providersFound _ providers _ => setup.localPeer ∈ providers
  | .addressRecord peer _ _ _ => peer = setup.localPeer
  | .rendezvousDiscovered _ registrations _ => ∃ registration ∈ registrations, registration.peer = setup.localPeer
  | .heartbeat (some author) data =>
    author = setup.localPeer ∧ acceptsHeartbeat setup s.replayCache author data event.2.unixNs = true
  | .identify info => info.peer = setup.localPeer ∧
    (info.protocolVersion = setup.applicationProtocolVersion ∨
      info.supportsRelayHop = true ∧ info.relayReserved = true)
  | _ => False

section Calls

variable {peer : PeerId}

theorem about_providerAddrCalls (owner : PeerId) (addrs : List Addr) :
    About owner (providerAddrCalls owner addrs) :=
  .append (.map fun _ => rfl) (.guarded _ (.cons rfl .nil))

theorem about_announcementCalls (names : List String) (owner : PeerId) (addrs : List Addr) :
    About owner (announcementCalls names owner addrs) := .append (.map fun _ => rfl) (.map fun _ => rfl)

theorem about_verifiedPeerCalls (names : List String) (owner : PeerId) :
    About owner (verifiedPeerCalls Addr names owner) :=
  .append (.map fun _ => rfl) (.cons rfl .nil)

theorem created_verifiedPeerCalls (names : List String) (owner : PeerId) :
    Created (verifiedPeerCalls Addr names owner) peer ↔ owner = peer :=
  (about_verifiedPeerCalls names owner).created_iff
    ⟨.recordConnected owner none, List.mem_append_right _ List.mem_cons_self, rfl, nofun⟩

theorem about_capabilityCalls (info : IdentifyInfo PeerId Addr) (book : PeerBook PeerId) :
    About info.peer (info.capabilityCalls book) := by
  unfold IdentifyInfo.capabilityCalls
  exact .guarded _ (.cons rfl .nil)

theorem about_addressCalls (info : IdentifyInfo PeerId Addr) (book : PeerBook PeerId) :
    About info.peer (info.addressCalls book) := by
  unfold IdentifyInfo.addressCalls
  exact .guarded _ (.map fun _ => rfl)

theorem created_dhtProviderCalls (connected : Finset PeerId) (name : String) (providers : List PeerId) :
    Created (dhtProviderCalls Addr connected name providers) peer ↔ peer ∈ providers := by
  unfold dhtProviderCalls
  rw [created_flatMap]
  have each (provider : PeerId) : Created ((.recordNamespace provider name .dhtProvider : Call PeerId Addr) ::
      if provider ∈ connected then [.recordConnected provider none] else []) peer ↔ provider = peer := by
    refine About.created_iff ?_ (created_cons.mpr (.inl ⟨rfl, nofun⟩))
    exact .cons rfl (.guarded _ (.cons rfl .nil))
  simp only [each, exists_eq_right]

theorem created_registrationCalls (source : PeerSource) (registrations : List (Registration PeerId Addr)) :
    Created (registrationCalls source registrations) peer ↔
      ∃ registration ∈ registrations, registration.peer = peer := by
  unfold registrationCalls
  rw [created_flatMap]
  have each (registration : Registration PeerId Addr) :
      Created (.recordNamespace registration.peer registration.name source ::
        registration.addrs.map fun addr => .recordAddr registration.peer addr source) peer ↔
          registration.peer = peer := by
    refine About.created_iff ?_ (created_cons.mpr (.inl ⟨rfl, nofun⟩))
    exact .cons rfl (.map fun _ => rfl)
  simp only [each]

end Calls

/-- Identify creates a record of a peer of the same application, and of a relay that is used. -/
theorem created_identify_iff {s : NodeState PeerId Addr} {peer : PeerId}
    (unknown : s.peerBook.record peer = none) (info : IdentifyInfo PeerId Addr) (now : Moment) :
    Created (bookCalls setup s (.identify info, now)) peer ↔ info.peer = peer ∧
      (info.protocolVersion = setup.applicationProtocolVersion ∨
        info.supportsRelayHop = true ∧ info.relayReserved = true) := by
  unfold bookCalls
  dsimp only
  constructor
  · intro created
    have own : info.peer = peer := by
      refine About.of_created (.append (.append (.guarded _ ?_) ?_) ?_) created
      · exact about_verifiedPeerCalls _ _
      · exact about_capabilityCalls info _
      · exact about_addressCalls info _
    refine ⟨own, by_contra fun neither => ?_⟩
    obtain ⟨foreign, noRelay⟩ := not_or.mp neither
    have silent : info.capabilityCalls s.peerBook = [] := by
      refine if_neg ?_
      rw [own, unknown]
      simpa using noRelay
    have noAddrs : info.addressCalls s.peerBook = [] := by
      refine if_neg ?_
      rw [own, unknown]
      simp
    rw [if_neg foreign] at created
    change Created ([] ++ info.capabilityCalls s.peerBook ++ info.addressCalls
      (s.peerBook.recordAll (info.capabilityCalls s.peerBook) now.unixSecs)) peer at created
    rw [silent] at created
    change Created ([] ++ [] ++ info.addressCalls s.peerBook) peer at created
    rw [noAddrs] at created
    exact not_created_nil created
  · rintro ⟨rfl, same | relay⟩
    · rw [if_pos same]
      exact created_append.mpr (.inl (created_append.mpr (.inl ((created_verifiedPeerCalls _ _).mpr rfl))))
    · refine created_append.mpr (.inl (created_append.mpr (.inr ?_)))
      unfold IdentifyInfo.capabilityCalls
      rw [relay.1, relay.2, Bool.and_true, Bool.or_true, if_pos rfl]
      exact created_cons.mpr (.inl ⟨rfl, nofun⟩)

/-- **The events that create a record of the local peer**, while it has none. -/
theorem created_bookCalls_iff {s : NodeState PeerId Addr} (unknown : s.peerBook.record setup.localPeer = none)
    (event : NodeEvent PeerId Addr) (now : Moment) :
    Created (bookCalls setup s (event, now)) setup.localPeer ↔ NamesSelf setup s (event, now) := by
  have nothing {calls : List (Call PeerId Addr)} (none : calls = []) : Created calls setup.localPeer ↔ False := by
    rw [none]
    exact iff_of_false not_created_nil id
  cases event with
  | tick | newListenAddr | disconnectPeer | wake => exact nothing rfl
  | providersFound name providers answers => exact created_dhtProviderCalls s.connectedPeers name providers
  | providerAddrs peer addrs answers =>
    unfold bookCalls NamesSelf
    dsimp only
    split_ifs with provider
    · refine iff_of_false (fun created => ?_) id
      rw [(about_providerAddrCalls peer addrs).of_created created] at provider
      simp [isDhtProvider, unknown] at provider
    · exact nothing rfl
  | addressRecord peer name addrs answers =>
    refine About.created_iff ?_ (created_cons.mpr (.inl ⟨rfl, nofun⟩))
    exact .cons rfl (.guarded _ (about_providerAddrCalls peer addrs))
  | rendezvousDiscovered rendezvousNode registrations answers => exact created_registrationCalls _ registrations
  | lanAnnouncement peer addrs answer =>
    unfold bookCalls NamesSelf
    dsimp only
    split_ifs with admitted
    · refine iff_of_false (fun created => ?_) id
      rw [(about_announcementCalls _ peer addrs).of_created created] at admitted
      simp [admitsAnnouncement] at admitted
    · exact nothing rfl
  | heartbeat author data =>
    cases author with
    | none => exact nothing rfl
    | some author =>
      unfold bookCalls NamesSelf
      dsimp only
      split_ifs with accepted
      · rw [created_verifiedPeerCalls, and_iff_left accepted]
      · exact iff_of_false not_created_nil fun named => accepted named.2
  | identify info => exact created_identify_iff setup unknown info now
  | established connection =>
    unfold bookCalls NamesSelf
    dsimp only
    split_ifs with tracked
    · refine iff_of_false (fun created => ?_) id
      have about : About connection.peerId [Call.recordConnected connection.peerId (some connection.remoteAddr)] :=
        .cons rfl .nil
      rw [about.of_created created] at tracked
      simp [shouldTrackPeerInPeerBook, unknown] at tracked
    · exact nothing rfl
  | closed peer connection =>
    unfold bookCalls NamesSelf
    dsimp only
    split_ifs
    · exact nothing rfl
    · refine iff_of_false ?_ id
      rintro ⟨call, member, -, creates⟩
      exact creates peer (List.mem_singleton.mp member)
  | outgoingError peer errorDebug answer =>
    cases peer with
    | none => exact nothing rfl
    | some peer =>
      unfold bookCalls NamesSelf
      dsimp only
      split_ifs with known
      · refine iff_of_false (fun created => ?_) id
        have about : About peer [(.recordFailure peer : Call PeerId Addr)] := .cons rfl .nil
        rw [about.of_created created, unknown] at known
        cases known
      · exact nothing rfl
  | connectPeer addr answer =>
    unfold bookCalls NamesSelf
    dsimp only
    split
    · split_ifs with own
      · exact nothing rfl
      · refine iff_of_false (fun created => own ?_) id
        exact About.of_created (.cons rfl .nil) created
    · exact nothing rfl

/-! ### Runs -/

/-- The book has room for the records a step may create. -/
def Roomy (s : NodeState PeerId Addr) (event : NodeEvent PeerId Addr × Moment) : Prop :=
  s.peerBook.len + (bookCalls setup s event).length ≤ s.peerBook.maxRecords

/-- The local peer is unknown: it has no record, and the ticks do not reconnect to it. -/
def SelfUnknown (s : NodeState PeerId Addr) : Prop :=
  s.peerBook.record setup.localPeer = none ∧ setup.localPeer ∉ s.peerBook.reconnectCandidates

theorem selfUnknown_iff {s : NodeState PeerId Addr} (indexed : Indexed s.peerBook) :
    SelfUnknown setup s ↔ s.peerBook.record setup.localPeer = none := by
  refine ⟨And.left, fun unknown => ⟨unknown, fun candidate => ?_⟩⟩
  unfold PeerBook.reconnectCandidates at candidate
  rw [Finset.mem_sort, indexed.named] at candidate
  obtain ⟨record, found, -⟩ := candidate
  have none : s.peerBook.peers.lookup setup.localPeer = Option.none := unknown
  rw [none] at found
  cases found

/-- **The node learns about itself exactly where it is told about itself.** From a start without a record of
the local peer, it gets none while no event names it on a path that records whomever it is told about. As
long as the book has room, it gets one from the first event that does. -/
theorem self_unknown_iff {start : NodeState PeerId Addr} (started : Started start)
    (unknown : start.peerBook.record setup.localPeer = none) (events : List (NodeEvent PeerId Addr × Moment)) :
    (Each (nodeStep setup) (fun s event => ¬ NamesSelf setup s event) start events →
      ∀ count ≤ events.length, SelfUnknown setup (final (nodeStep setup) start (events.take count))) ∧
    (Each (nodeStep setup) (Roomy setup) start events →
      ((∀ count ≤ events.length, SelfUnknown setup (final (nodeStep setup) start (events.take count))) ↔
        Each (nodeStep setup) (fun s event => ¬ NamesSelf setup s event) start events)) := by
  have indexed (count : ℕ) := run_indexed setup started (events.take count)
  have unnamed : Each (nodeStep setup) (fun s event => ¬ NamesSelf setup s event) start events →
      ∀ count ≤ events.length, SelfUnknown setup (final (nodeStep setup) start (events.take count)) := by
    intro each count
    induction count with
    | zero => exact fun _ => (selfUnknown_iff setup started.indexed).mpr unknown
    | succ count ih =>
      intro within
      rw [selfUnknown_iff setup (indexed (count + 1))]
      have before := (ih (Nat.le_of_succ_le within)).1
      obtain ⟨⟨event, now⟩, here⟩ : ∃ event, events[count]? = some event :=
        ⟨_, List.getElem?_eq_getElem within⟩
      rw [final_take_succ _ _ here, (nodeStep_written setup _ event now).peerBook]
      refine recordAll_unknown (indexed count) before ?_ now.unixSecs
      rw [created_bookCalls_iff setup before]
      exact each count (event, now) here
  refine ⟨unnamed, fun roomy => ⟨fun never count event here => ?_, unnamed⟩⟩
  intro named
  obtain ⟨within, -⟩ := List.getElem?_eq_some_iff.mp here
  have before := (never count within.le).1
  have after := (never (count + 1) within).1
  obtain ⟨event, now⟩ := event
  rw [final_take_succ _ _ here, (nodeStep_written setup _ event now).peerBook] at after
  have known := recordAll_created (roomy count (event, now) here)
    (.inl ((created_bookCalls_iff setup before event now).mpr named)) now.unixSecs
  rw [after] at known
  cases known

namespace OnePeerKnown

/-- A provider query returns a peer and this node. -/
def askedForProviders (providers : List KeyPeer) : List (NodeEvent KeyPeer KeyHost × Moment) :=
  [(.providersFound "mesh" providers fun _ _ => none, moment 1)]

theorem self_unknown_iff_others : start.peerBook.record config.localPeer = none ∧
    SelfUnknown config (final (nodeStep config) start (askedForProviders [⟨5⟩])) := by
  have unknown : start.peerBook.record config.localPeer = none := by decide
  refine ⟨unknown, (self_unknown_iff config started unknown (askedForProviders [⟨5⟩])).1 ?_ 1 le_rfl⟩
  rw [askedForProviders, each_cons]
  refine ⟨fun named => ?_, each_nil _ _ _⟩
  exact absurd (List.mem_singleton.mp named) (by decide)

/-- The node is among its own providers: it records itself, and will try to reconnect to itself. -/
theorem own_provider_recorded :
    let after := final (nodeStep config) start (askedForProviders [⟨5⟩, config.localPeer])
    start.peerBook.record config.localPeer = none ∧ (after.peerBook.record config.localPeer).isSome ∧
      config.localPeer ∈ after.peerBook.reconnectCandidates := by
  refine ⟨by decide, by decide, ?_⟩
  exact (Finset.mem_sort _).mpr (by decide)

end OnePeerKnown

end Node

end P2pNet
