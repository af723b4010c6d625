/-
**Presence** (`handle_swarm_event` of `crates/node/events.rs`, `crates/node/events/presence.rs`).

After the handler of an established or closed connection the dispatcher reports presence: a peer with its
first and after its last connection, the node as online while it has exactly one connected peer and as
offline while it has none. Peers are reported per peer, `Online` is not: it is sent with every connection
that leaves one peer connected, also with a second connection to that peer.
-/

import P2pNet.Node.Connectedness

set_option linter.unusedSectionVars false

namespace P2pNet.Node

open Lib PeerIdentity Connectivity

variable {PeerId Addr : Type} [PeerIdentity PeerId] [DecidableEq Addr] [Multiaddr PeerId Addr]

/-! ### What the dispatcher sends -/

/-- The events for the application that are about presence. -/
inductive PresenceEvent
  | peerConnected (peerId : String)
  | peerDisconnected (peerId : String)
  | online
  | offline
  deriving DecidableEq, Repr

def isFirstConnection (numEstablished : ℕ) : Bool := numEstablished == 1

def isLastConnection (remaining : ℕ) : Bool := remaining == 0

/-- `num_established` of the swarm's event. -/
def NodeState.numEstablished (s : NodeState PeerId Addr) (peer : PeerId) : ℕ :=
  (s.connections.filter (·.1 = peer)).length

/-- The end of the dispatcher, in the state that the handler leaves. -/
def presenceEvents (s : NodeState PeerId Addr) : NodeEvent PeerId Addr → List PresenceEvent
  | .established connection =>
    (if isFirstConnection (s.numEstablished connection.peerId) then
      [.peerConnected (toText connection.peerId)] else []) ++
    -- `connected_peers().take(2).count() == 1`
    if min 2 s.connectedPeers.card = 1 then [.online] else []
  | .closed peer _ =>
    (if isLastConnection (s.numEstablished peer) then [.peerDisconnected (toText peer)] else []) ++
    if s.connectedPeers = ∅ then [.offline] else []
  | _ => []

variable (setup : NodeSetup PeerId Addr)

/-- A swarm event, with what it reports. -/
def swarmStep (s : NodeState PeerId Addr) (event : NodeEvent PeerId Addr × Moment) :
    List PresenceEvent × NodeState PeerId Addr :=
  let handled := (nodeStep setup s event).2
  (presenceEvents handled event.1, handled)

def isReport : PresenceEvent → Bool
  | .online | .offline => true
  | _ => false

/-- The `Online` and `Offline` events of a step. -/
def reports (s : NodeState PeerId Addr) (event : NodeEvent PeerId Addr × Moment) : List PresenceEvent :=
  (swarmStep setup s event).1.filter isReport

/-- The `Online` and `Offline` events of a run. -/
def reportLog (start : NodeState PeerId Addr) (events : List (NodeEvent PeerId Addr × Moment)) :
    List PresenceEvent :=
  (outputs (swarmStep setup) start events).flatten.filter isReport

theorem reportLog_concat (start : NodeState PeerId Addr) (events : List (NodeEvent PeerId Addr × Moment))
    (event : NodeEvent PeerId Addr × Moment) : reportLog setup start (events ++ [event])
      = reportLog setup start events ++ reports setup (final (swarmStep setup) start events) event := by
  simp [reportLog, reports, outputs_concat]

/-! ### One event -/

/-- What the node is. -/
def status (s : NodeState PeerId Addr) : PresenceEvent :=
  if s.connectedPeers = ∅ then .offline else .online

/-- A connection to the peer that is the only connected one already. -/
def Repeats (s : NodeState PeerId Addr) (event : NodeEvent PeerId Addr) : Prop :=
  ∃ connection, event = .established connection ∧ s.connectedPeers = {connection.peerId}

/-- The swarm closes open connections only. -/
def ClosesOpen (s : NodeState PeerId Addr) (event : NodeEvent PeerId Addr × Moment) : Prop :=
  ∀ peer connection, event.1 = .closed peer connection → (peer, connection) ∈ s.connections

theorem swarmStep_connections (s : NodeState PeerId Addr) (event : NodeEvent PeerId Addr × Moment) :
    (swarmStep setup s event).2.connections = connectionsAfter s event.1 :=
  (nodeStep_written setup s event.1 event.2).connections

theorem established_connectedPeers (s : NodeState PeerId Addr)
    (connection : EstablishedConnection PeerId Addr) (now : Moment) :
    (swarmStep setup s (.established connection, now)).2.connectedPeers
      = insert connection.peerId s.connectedPeers := by
  rw [NodeState.connectedPeers, swarmStep_connections]
  simp [connectionsAfter, NodeState.connectedPeers]

theorem connectedPeers_nonempty {s : NodeState PeerId Addr} {peer : PeerId} {connection : ConnectionId}
    (member : (peer, connection) ∈ s.connections) : s.connectedPeers ≠ ∅ :=
  Finset.ne_empty_of_mem ((s.mem_connectedPeers peer).mpr ⟨connection, member⟩)

theorem card_insert_eq_one_iff {peers : Finset PeerId} {peer : PeerId} :
    min 2 (insert peer peers).card = 1 ↔ peers = ∅ ∨ peers = {peer} := by
  have bounded : min 2 (insert peer peers).card = 1 ↔ (insert peer peers).card = 1 := by omega
  rw [bounded, Finset.card_eq_one, ← Finset.subset_singleton_iff]
  constructor
  · rintro ⟨only, single⟩
    have same : peer = only := Finset.mem_singleton.mp (single ▸ Finset.mem_insert_self peer peers)
    rw [same, ← single]
    exact Finset.subset_insert peer peers
  · intro inside
    refine ⟨peer, Finset.Subset.antisymm (Finset.insert_subset (Finset.mem_singleton_self peer) inside) ?_⟩
    exact Finset.singleton_subset_iff.mpr (Finset.mem_insert_self peer peers)

theorem reports_eq (s : NodeState PeerId Addr) (event : NodeEvent PeerId Addr) (now : Moment) :
    reports setup s (event, now)
      = (presenceEvents (swarmStep setup s (event, now)).2 event).filter isReport := rfl

theorem established_reports (s : NodeState PeerId Addr) (connection : EstablishedConnection PeerId Addr)
    (now : Moment) : reports setup s (.established connection, now)
      = if s.connectedPeers = ∅ ∨ s.connectedPeers = {connection.peerId} then [.online] else [] := by
  rw [reports_eq, presenceEvents, established_connectedPeers, List.filter_append]
  simp only [card_insert_eq_one_iff]
  split_ifs <;> rfl

theorem closed_reports (s : NodeState PeerId Addr) (peer : PeerId) (connection : ConnectionId)
    (now : Moment) : reports setup s (.closed peer connection, now)
      = if (swarmStep setup s (.closed peer connection, now)).2.connectedPeers = ∅ then [.offline] else [] := by
  rw [reports_eq, presenceEvents, List.filter_append]
  split_ifs <;> rfl

/-- An event that is about no connection. -/
theorem other_presence (s : NodeState PeerId Addr) {event : NodeEvent PeerId Addr} (now : Moment)
    (unchanged : connectionsAfter s event = s.connections)
    (silent : ∀ after : NodeState PeerId Addr, presenceEvents after event = []) :
    reports setup s (event, now) = [] ∧ status (swarmStep setup s (event, now)).2 = status s := by
  constructor
  · rw [reports_eq, silent, List.filter_nil]
  · unfold status NodeState.connectedPeers
    rw [swarmStep_connections, unchanged]

/-- **What an event reports.** It repeats `Online`, or it reports nothing and the node stays what it was, or
it reports what the node has become. -/
theorem presence_case {s : NodeState PeerId Addr} {event : NodeEvent PeerId Addr × Moment}
    (closesOpen : ClosesOpen s event) :
    (Repeats s event.1 ∧ reports setup s event = [.online] ∧ status s = .online ∧
      status (swarmStep setup s event).2 = .online) ∨
    (¬ Repeats s event.1 ∧ reports setup s event = [] ∧ status (swarmStep setup s event).2 = status s) ∨
    (¬ Repeats s event.1 ∧ reports setup s event = [status (swarmStep setup s event).2] ∧
      status (swarmStep setup s event).2 ≠ status s) := by
  obtain ⟨event, now⟩ := event
  cases event with
  | established connection =>
    have after : status (swarmStep setup s (.established connection, now)).2 = .online := by
      rw [status, established_connectedPeers, if_neg (Finset.insert_ne_empty _ _)]
    rw [established_reports, after]
    by_cases idle : s.connectedPeers = ∅
    · refine .inr (.inr ⟨?_, if_pos (.inl idle), by simp [status, idle]⟩)
      rintro ⟨_, _, single⟩
      exact Finset.singleton_ne_empty _ (single.symm.trans idle)
    · have before : status s = .online := if_neg idle
      by_cases single : s.connectedPeers = {connection.peerId}
      · exact .inl ⟨⟨connection, rfl, single⟩, if_pos (.inr single), before, rfl⟩
      · refine .inr (.inl ⟨?_, if_neg (by tauto), before.symm⟩)
        rintro ⟨_, same, only⟩
        cases same
        exact single only
  | closed peer connection =>
    have before : status s = .online := if_neg (connectedPeers_nonempty (closesOpen peer connection rfl))
    have fresh : ¬ Repeats s (.closed peer connection) := fun ⟨_, same, _⟩ => nomatch same
    rw [closed_reports, before]
    unfold status
    split_ifs
    · exact .inr (.inr ⟨fresh, rfl, by decide⟩)
    · exact .inr (.inl ⟨fresh, rfl, rfl⟩)
  | _ =>
    refine .inr (.inl ⟨?_, ?_⟩)
    · rintro ⟨_, same, _⟩
      exact nomatch same
    · apply other_presence
      · rfl
      · exact fun _ => rfl

/-! ### Runs -/

/-- `Online` is sent exactly when the first peer is connected, `Offline` exactly when the last one is gone. -/
def Due (s : NodeState PeerId Addr) (event : NodeEvent PeerId Addr × Moment) : Prop :=
  let before := s.connectedPeers.card
  let after := (swarmStep setup s event).2.connectedPeers.card
  (.online ∈ (swarmStep setup s event).1 ↔ before = 0 ∧ 1 ≤ after) ∧
    (.offline ∈ (swarmStep setup s event).1 ↔ 1 ≤ before ∧ after = 0)

theorem status_eq_offline_iff {s : NodeState PeerId Addr} :
    status s = .offline ↔ s.connectedPeers.card = 0 := by
  unfold status
  rw [Finset.card_eq_zero]
  split_ifs <;> simp_all

theorem status_eq_online_iff {s : NodeState PeerId Addr} : status s = .online ↔ 1 ≤ s.connectedPeers.card := by
  rw [Nat.one_le_iff_ne_zero, Ne, ← status_eq_offline_iff]
  unfold status
  split_ifs <;> simp

theorem due_iff {s : NodeState PeerId Addr} {event : NodeEvent PeerId Addr × Moment} :
    Due setup s event ↔
      (.online ∈ reports setup s event ↔
        status s = .offline ∧ status (swarmStep setup s event).2 = .online) ∧
      (.offline ∈ reports setup s event ↔
        status s = .online ∧ status (swarmStep setup s event).2 = .offline) := by
  simp only [Due, reports, List.mem_filter, isReport, and_true, status_eq_offline_iff, status_eq_online_iff]

theorem due_iff_not_repeats {s : NodeState PeerId Addr} {event : NodeEvent PeerId Addr × Moment}
    (closesOpen : ClosesOpen s event) : Due setup s event ↔ ¬ Repeats s event.1 := by
  rw [due_iff]
  rcases presence_case setup closesOpen with ⟨repeats, sent, before, after⟩ | ⟨fresh, sent, same⟩ |
    ⟨fresh, sent, changed⟩
  · simp [repeats, sent, before]
  · refine iff_of_true ?_ fresh
    rw [sent, same]
    cases status s <;> simp
  · refine iff_of_true ?_ fresh
    rw [sent]
    unfold status at changed ⊢
    split_ifs at changed ⊢ <;> simp_all

/-- The last report says what the node is. -/
theorem getLast_reportLog {start : NodeState PeerId Addr} (idle : start.connections = [])
    {events : List (NodeEvent PeerId Addr × Moment)}
    (closesOpen : Each (swarmStep setup) ClosesOpen start events) :
    (.offline :: reportLog setup start events).getLast?
      = some (status (final (swarmStep setup) start events)) := by
  induction events using List.reverseRecOn with
  | nil =>
    have nobody : start.connectedPeers = ∅ := by rw [NodeState.connectedPeers, idle]; rfl
    rw [final_nil, status, if_pos nobody]
    rfl
  | append_singleton events event ih =>
    obtain ⟨earlier, last⟩ := (each_concat _).mp closesOpen
    rw [reportLog_concat, final_concat, ← List.cons_append, List.getLast?_append, ih earlier]
    rcases presence_case setup last with ⟨-, sent, -, after⟩ | ⟨-, sent, same⟩ | ⟨-, sent, -⟩
    · rw [sent, after]
      rfl
    · rw [sent, same]
      rfl
    · rw [sent]
      rfl

/-- The reports go on alternating unless the event repeats `Online`. -/
theorem alternates_concat_iff {start : NodeState PeerId Addr} (idle : start.connections = [])
    {events : List (NodeEvent PeerId Addr × Moment)} {event : NodeEvent PeerId Addr × Moment}
    (closesOpen : Each (swarmStep setup) ClosesOpen start (events ++ [event])) :
    (.offline :: reportLog setup start (events ++ [event])).IsChain (· ≠ ·) ↔
      (.offline :: reportLog setup start events).IsChain (· ≠ ·) ∧
        ¬ Repeats (final (swarmStep setup) start events) event.1 := by
  obtain ⟨earlier, last⟩ := (each_concat _).mp closesOpen
  rw [reportLog_concat, ← List.cons_append, List.isChain_append, getLast_reportLog setup idle earlier]
  refine and_congr_right fun _ => ?_
  rcases presence_case setup last with ⟨repeats, sent, before, -⟩ | ⟨fresh, sent, -⟩ |
    ⟨fresh, sent, changed⟩
  · simp [repeats, sent, before]
  · simp [fresh, sent]
  · simp [fresh, sent, changed.symm]

/-- **When presence alternates.** Of a node that starts without connections, along any run of events in
which the swarm closes open connections only, the reports alternate beginning with `Online`, exactly when
each of them is due, and both exactly when no connection is established to the peer that is the only
connected one already. -/
theorem presence_alternates_iff {start : NodeState PeerId Addr} (idle : start.connections = [])
    {events : List (NodeEvent PeerId Addr × Moment)}
    (closesOpen : Each (swarmStep setup) ClosesOpen start events) :
    ((.offline :: reportLog setup start events).IsChain (· ≠ ·) ↔
      Each (swarmStep setup) (fun s event => ¬ Repeats s event.1) start events) ∧
    (Each (swarmStep setup) (Due setup) start events ↔
      Each (swarmStep setup) (fun s event => ¬ Repeats s event.1) start events) := by
  constructor
  · induction events using List.reverseRecOn with
    | nil => exact iff_of_true (List.isChain_singleton _) (each_nil _ _ _)
    | append_singleton events event ih =>
      rw [alternates_concat_iff setup idle closesOpen, each_concat, ih ((each_concat _).mp closesOpen).1]
  · constructor
    · exact fun due count event here =>
        (due_iff_not_repeats setup (closesOpen count event here)).mp (due count event here)
    · exact fun fresh count event here =>
        (due_iff_not_repeats setup (closesOpen count event here)).mpr (fresh count event here)

namespace OnePeerKnown

theorem closesOpen_established {s : NodeState KeyPeer KeyHost}
    {connection : EstablishedConnection KeyPeer KeyHost} {now : Moment} :
    ClosesOpen s (.established connection, now) := fun _ _ same => nomatch same

theorem closesOpen_closed {s : NodeState KeyPeer KeyHost} {peer : KeyPeer} {connection : ConnectionId}
    {now : Moment} (isOpen : (peer, connection) ∈ s.connections) :
    ClosesOpen s (.closed peer connection, now) := by
  rintro _ _ same
  cases same
  exact isOpen

/-- A visit of the peer over one connection. -/
def singleVisit : List (NodeEvent KeyPeer KeyHost × Moment) :=
  [(.established connection, moment 1), (.closed known 1, moment 2)]

theorem presence_alternates_iff_singleVisit :
    start.connections = [] ∧ Each (swarmStep config) ClosesOpen start singleVisit ∧
      (.offline :: reportLog config start singleVisit).IsChain (· ≠ ·) ∧
      Each (swarmStep config) (Due config) start singleVisit := by
  have closesOpen : Each (swarmStep config) ClosesOpen start singleVisit :=
    (each_cons _).mpr ⟨closesOpen_established,
      (each_cons _).mpr ⟨closesOpen_closed (by decide), each_nil _ _ _⟩⟩
  have fresh : Each (swarmStep config) (fun s event => ¬ Repeats s event.1) start singleVisit := by
    refine (each_cons _).mpr ⟨?_, (each_cons _).mpr ⟨?_, each_nil _ _ _⟩⟩
    · rintro ⟨_, _, single⟩
      exact Finset.singleton_ne_empty _ single.symm
    · rintro ⟨_, same, _⟩
      exact nomatch same
  obtain ⟨alternates, due⟩ := presence_alternates_iff config rfl closesOpen
  exact ⟨rfl, closesOpen, alternates.mpr fresh, due.mpr fresh⟩

/-- A visit over two connections at once. -/
def doubleVisit : List (NodeEvent KeyPeer KeyHost × Moment) :=
  [(.established connection, moment 1), (.established { connection with connectionId := 2 }, moment 2),
    (.closed known 1, moment 3), (.closed known 2, moment 4)]

/-- The second connection of the only connected peer sends `Online` again. -/
theorem online_twice :
    start.connections = [] ∧ Each (swarmStep config) ClosesOpen start doubleVisit ∧
      reportLog config start doubleVisit = [.online, .online, .offline] ∧
      ¬ (.offline :: reportLog config start doubleVisit).IsChain (· ≠ ·) := by
  have log : reportLog config start doubleVisit = [.online, .online, .offline] := by decide
  refine ⟨rfl, ?_, log, ?_⟩
  · exact (each_cons _).mpr ⟨closesOpen_established, (each_cons _).mpr ⟨closesOpen_established,
      (each_cons _).mpr ⟨closesOpen_closed (by decide),
        (each_cons _).mpr ⟨closesOpen_closed (by decide), each_nil _ _ _⟩⟩⟩⟩
  · rw [log]
    decide

end OnePeerKnown

end P2pNet.Node
