/-
**TURN at run time** (`crates/node/turn.rs`), for a browser, which has the list of ICE servers attached.

Brokers are asked when they are identified, and again when the maintenance returns them as due. The due brokers are
computed from the stored credentials, after those that have expired were removed.
-/

import P2pNet.Node.IcePlan
import P2pNet.Connectivity.Turn.Broker
import P2pNet.Connectivity.Turn.Cooldown

set_option linter.unusedSectionVars false

namespace P2pNet.Node

open Lib Connectivity P2pNet.Connectivity.Turn PeerIdentity

structure TurnClient (PeerId : Type) where
  state : TurnClientState PeerId
  endpoints : List (TurnSource × ProviderRefresher)
  iceServers : List IceServer
  networkEnabled : Bool

structure TurnRuntime (PeerId : Type) where
  icePlan : BrowserIcePlan
  client : TurnClient PeerId
  broker : Option (TurnBrokerState PeerId)

section Operations

variable {PeerId Addr : Type} [PeerIdentity PeerId] [Multiaddr PeerId Addr]

/-- One endpoint of `maintain_client_endpoints`: the pulse line and the endpoint afterwards. -/
def maintainEndpoint (now : ℕ) (state : TurnClientState PeerId) (endpoint : TurnSource × ProviderRefresher) :
    (Option String × TurnSource × ProviderRefresher) × TurnClientState PeerId :=
  let (result, refresher) := endpoint.2.takeResult now
  let started := (refresher.startIfDue now).2
  let sourceName := endpoint.1.asStr
  match result with
  | some (.ok credentials) =>
    let servers := credentials.iceServers.length
    ((some s!"TURN_PROVIDER_REFRESHED source={sourceName} servers={servers}", endpoint.1, started),
      state.acceptFromEndpoint endpoint.1 credentials now)
  | some (.error error) => ((some s!"TURN_PROVIDER_FAILED source={sourceName} error={error}", endpoint.1, started), state)
  | none => ((none, endpoint.1, started), state)

namespace TurnRuntime

variable (s : TurnRuntime PeerId)

def publishIceServers : TurnRuntime PeerId :=
  { s with client := { s.client with iceServers := s.icePlan.compose s.client.state.effective } }

/-- `new` and `attach_browser_ice_servers`. -/
def attach (cfg : BrowserNodeConfig) (broker : Option (TurnBrokerState PeerId)) (networkEnabled : Bool) (now : ℕ) :
    TurnRuntime PeerId :=
  let endpoints := cfg.turnClient.sources.filterMap fun source =>
    (cfg.turnClient.endpoint source).map fun endpoint => (source, ProviderRefresher.new (TurnProviderConfig.http endpoint).name now)
  publishIceServers
    ⟨cfg.browserWebrtc.plan, ⟨.new PeerId cfg.turnClient, endpoints, [], networkEnabled⟩, broker⟩

/-- The runtime with another state of the client. -/
def withState (state : TurnClientState PeerId) : TurnRuntime PeerId := { s with client := { s.client with state } }

def onConnection (peer : PeerId) (remote : Addr) : TurnRuntime PeerId :=
  s.withState (s.client.state.noteConnection peer remote)

def onDisconnected (peer : PeerId) : TurnRuntime PeerId := s.withState (s.client.state.forgetPeer peer)

/-- Credential request for a peer that advertises the broker protocol. -/
def requestFor (peer : PeerId) (now : ℕ) : Option CredentialRequest × TurnRuntime PeerId :=
  if !s.client.networkEnabled then (none, s)
  else
    let (ask, state) := s.client.state.shouldRequest peer now
    (if ask then some ⟨state.ttlSecs⟩ else none, s.withState state)

def markUnsupported (peer : PeerId) : TurnRuntime PeerId := s.withState (s.client.state.markUnsupported peer)

/-- Apply a broker's answer; the pulse line. -/
def onResponse (peer : PeerId) (response : CredentialResponse) (now : ℕ) : String × TurnRuntime PeerId :=
  let peerText := toText peer
  match response with
  | .granted credentials =>
    let (offer, state) := s.client.state.acceptFromBroker peer credentials now
    let accepted := offer.accepted
    let rejected := offer.rejected
    (s!"TURN_CREDENTIALS_RECEIVED peer={peerText} accepted={accepted} rejected={rejected}",
      (s.withState state).publishIceServers)
  | .unavailable => (s!"TURN_CREDENTIALS_UNAVAILABLE peer={peerText}", s.publishIceServers)
  | .rateLimited => (s!"TURN_CREDENTIALS_RATE_LIMITED peer={peerText}", s.publishIceServers)

/-- Answer a peer's credential request. -/
def answer (peer : PeerId) (now : ℕ) : CredentialResponse × TurnRuntime PeerId :=
  match s.broker with
  | some broker =>
    let (response, broker) := (broker.maintain now).2.answer peer now
    (response, { s with broker := some broker })
  | none => (.unavailable, s)

/-- The state of the client after its endpoints and what has expired were looked after. -/
def maintainedState (now : ℕ) : TurnClientState PeerId :=
  ((final (maintainEndpoint now) s.client.state s.client.endpoints).prune now).2

/-- Periodic work: the brokers to ask again and pulse lines. -/
def maintain (now : ℕ) : (List PeerId × List String) × TurnRuntime PeerId :=
  let brokerPulses := (s.broker.map fun broker => (broker.maintain now).1).getD []
  let broker := s.broker.map fun broker => (broker.maintain now).2
  let visited := outputs (maintainEndpoint now) s.client.state s.client.endpoints
  let state := s.maintainedState now
  let due := if s.client.networkEnabled then state.brokersDue now else []
  ((due, brokerPulses ++ visited.filterMap Prod.fst),
    publishIceServers { s with client := { s.client with state, endpoints := visited.map Prod.snd }, broker })

/-- The fetch of an endpoint has ended. -/
def endpointFetched (place : ℕ) (result : Except String TurnCredentials) : TurnRuntime PeerId :=
  { s with client := { s.client with endpoints := s.client.endpoints.modify place fun endpoint =>
      (endpoint.1, { endpoint.2 with slot := some result }) } }

end TurnRuntime

/-! ### Runs -/

inductive TurnInput (PeerId Addr : Type)
  | connected (peer : PeerId) (remote : Addr)
  | disconnected (peer : PeerId)
  | request (peer : PeerId) (now : ℕ)
  | unsupported (peer : PeerId)
  | response (peer : PeerId) (response : CredentialResponse) (now : ℕ)
  | asked (peer : PeerId) (now : ℕ)
  | endpointFetched (place : ℕ) (result : Except String TurnCredentials)
  | maintain (now : ℕ)

inductive TurnOutput (PeerId : Type)
  | none
  | request (request : Option CredentialRequest)
  | pulse (line : String)
  | answer (response : CredentialResponse)
  | maintained (due : List PeerId) (pulses : List String)
  deriving DecidableEq

def turnStep (s : TurnRuntime PeerId) : TurnInput PeerId Addr → TurnOutput PeerId × TurnRuntime PeerId
  | .connected peer remote => (.none, s.onConnection peer remote)
  | .disconnected peer => (.none, s.onDisconnected peer)
  | .request peer now => (s.requestFor peer now).map .request id
  | .unsupported peer => (.none, s.markUnsupported peer)
  | .response peer response now => (s.onResponse peer response now).map .pulse id
  | .asked peer now => (s.answer peer now).map .answer id
  | .endpointFetched place result => (.none, s.endpointFetched place result)
  | .maintain now => (s.maintain now).map (fun result => .maintained result.1 result.2) id

/-! ### What the client is told -/

/-- What the endpoints tell the client. -/
def endpointInputs (now : ℕ) (endpoints : List (TurnSource × ProviderRefresher)) : List (ClientInput PeerId Addr) :=
  endpoints.filterMap fun endpoint => match (endpoint.2.takeResult now).1 with
    | some (.ok credentials) => some (.acceptFromEndpoint endpoint.1 credentials now)
    | _ => none

/-- What an event tells the client. -/
def clientInputs (s : TurnRuntime PeerId) : TurnInput PeerId Addr → List (ClientInput PeerId Addr)
  | .connected peer remote => [.noteConnection peer remote]
  | .disconnected peer => [.forgetPeer peer]
  | .request peer now => if s.client.networkEnabled then [.shouldRequest peer now] else []
  | .unsupported peer => [.markUnsupported peer]
  | .response peer (.granted credentials) now => [.acceptFromBroker peer credentials now]
  | .response _ .unavailable _ | .response _ .rateLimited _ | .asked .. | .endpointFetched .. => []
  | .maintain now => endpointInputs now s.client.endpoints ++ [.prune now]

variable (Addr) in
theorem final_maintainEndpoint (now : ℕ) (state : TurnClientState PeerId)
    (endpoints : List (TurnSource × ProviderRefresher)) : final (maintainEndpoint now) state endpoints
      = final clientStep state (endpointInputs now endpoints : List (ClientInput PeerId Addr)) := by
  induction endpoints generalizing state with
  | nil => rfl
  | cons endpoint rest ih =>
    rw [final_cons, ih]
    unfold endpointInputs
    rw [List.filterMap_cons]
    unfold maintainEndpoint
    dsimp only
    cases (endpoint.2.takeResult now).1 with
    | none => rfl
    | some result =>
      cases result with
      | error error => rfl
      | ok credentials => rfl

/-- **What one event does to the client**, to its settings and to the plan. -/
theorem client_turnStep (s : TurnRuntime PeerId) (input : TurnInput PeerId Addr) :
    (turnStep s input).2.client.state = final clientStep s.client.state (clientInputs s input) ∧
      (turnStep s input).2.client.networkEnabled = s.client.networkEnabled ∧
      (turnStep s input).2.icePlan = s.icePlan := by
  cases input with
  | connected peer remote => exact ⟨rfl, rfl, rfl⟩
  | disconnected peer => exact ⟨rfl, rfl, rfl⟩
  | request peer now =>
    show (s.requestFor peer now).2.client.state = final clientStep s.client.state
      (if s.client.networkEnabled then [.shouldRequest peer now] else []) ∧
      (s.requestFor peer now).2.client.networkEnabled = _ ∧ (s.requestFor peer now).2.icePlan = _
    unfold TurnRuntime.requestFor
    cases enabled : s.client.networkEnabled with
    | false => exact ⟨rfl, enabled, rfl⟩
    | true => exact ⟨rfl, enabled, rfl⟩
  | unsupported peer => exact ⟨rfl, rfl, rfl⟩
  | response peer response now =>
    cases response with
    | granted credentials => exact ⟨rfl, rfl, rfl⟩
    | unavailable => exact ⟨rfl, rfl, rfl⟩
    | rateLimited => exact ⟨rfl, rfl, rfl⟩
  | asked peer now =>
    show (s.answer peer now).2.client.state = s.client.state ∧ (s.answer peer now).2.client.networkEnabled = _ ∧
      (s.answer peer now).2.icePlan = _
    unfold TurnRuntime.answer
    split
    · exact ⟨rfl, rfl, rfl⟩
    · exact ⟨rfl, rfl, rfl⟩
  | endpointFetched place result => exact ⟨rfl, rfl, rfl⟩
  | maintain now =>
    refine ⟨?_, rfl, rfl⟩
    show s.maintainedState now = final clientStep s.client.state (endpointInputs now s.client.endpoints ++ [.prune now])
    rw [final_concat, ← final_maintainEndpoint Addr]
    rfl

/-- Every run is a run of the client. -/
theorem client_final (s : TurnRuntime PeerId) (inputs : List (TurnInput PeerId Addr)) :
    (final turnStep s inputs).client.networkEnabled = s.client.networkEnabled ∧
      (final turnStep s inputs).icePlan = s.icePlan ∧
      ∃ told : List (ClientInput PeerId Addr), (final turnStep s inputs).client.state
        = final clientStep s.client.state told := by
  induction inputs generalizing s with
  | nil => exact ⟨rfl, rfl, [], rfl⟩
  | cons input rest ih =>
    obtain ⟨state, network, plan⟩ := client_turnStep s input
    obtain ⟨networks, plans, told, later⟩ := ih (turnStep s input).2
    refine ⟨networks.trans network, plans.trans plan, clientInputs s input ++ told, ?_⟩
    rw [final_cons, later, state, final_append]

/-! ### Due brokers -/

theorem brokers_final_endpoints (now : ℕ) (state : TurnClientState PeerId)
    (endpoints : List (TurnSource × ProviderRefresher)) :
    (final (maintainEndpoint now) state endpoints).brokers = state.brokers ∧
      (final (maintainEndpoint now) state endpoints).peerHosts = state.peerHosts := by
  induction endpoints generalizing state with
  | nil => exact ⟨rfl, rfl⟩
  | cons endpoint rest ih =>
    have one : (maintainEndpoint now state endpoint).2.brokers = state.brokers ∧
        (maintainEndpoint now state endpoint).2.peerHosts = state.peerHosts := by
      unfold maintainEndpoint
      dsimp only
      split
      · exact ⟨rfl, rfl⟩
      · exact ⟨rfl, rfl⟩
      · exact ⟨rfl, rfl⟩
    obtain ⟨brokers, peerHosts⟩ := ih (maintainEndpoint now state endpoint).2
    exact ⟨brokers.trans one.1, peerHosts.trans one.2⟩

/-- **Which brokers are due**: the connected ones with credentials that have not expired and are to be refreshed. -/
theorem mem_due_iff {s : TurnRuntime PeerId} {now : ℕ} {peer : PeerId} : peer ∈ (s.maintain now).1.1 ↔
    s.client.networkEnabled = true ∧ s.client.state.peerHosts.lookup peer ≠ none ∧
      ∃ learned, s.client.state.brokers.lookup peer = some learned ∧ now < learned.expiresAt ∧
        learned.refreshAt ≤ now := by
  obtain ⟨brokers, peerHosts⟩ := brokers_final_endpoints now s.client.state s.client.endpoints
  have stored : ∀ learned, (s.maintainedState now).brokers.lookup peer = some learned ↔
      s.client.state.brokers.lookup peer = some learned ∧ now < learned.expiresAt := by
    intro learned
    unfold TurnRuntime.maintainedState
    rw [TurnClientState.lookup_prune_brokers, brokers, Option.filter_eq_some_iff, decide_eq_true_eq]
  have hosts : (s.maintainedState now).peerHosts = s.client.state.peerHosts := peerHosts
  have listed : peer ∈ (s.maintainedState now).brokersDue now ↔ s.client.state.peerHosts.lookup peer ≠ none ∧
      ∃ learned, s.client.state.brokers.lookup peer = some learned ∧ now < learned.expiresAt ∧
        learned.refreshAt ≤ now := by
    unfold TurnClientState.brokersDue
    rw [List.mem_map, hosts]
    constructor
    · rintro ⟨⟨other, learned⟩, member, rfl⟩
      obtain ⟨entry, test⟩ := List.mem_filter.mp member
      rw [Bool.and_eq_true, decide_eq_true_eq, Option.isSome_iff_ne_none] at test
      obtain ⟨known, alive⟩ := (stored learned).mp (Table.mem_inKeyOrder.mp entry)
      exact ⟨test.2, learned, known, alive, test.1⟩
    · rintro ⟨connected, learned, known, alive, due⟩
      refine ⟨(peer, learned), List.mem_filter.mpr ⟨Table.mem_inKeyOrder.mpr ((stored learned).mpr ⟨known, alive⟩), ?_⟩, rfl⟩
      rw [Bool.and_eq_true, decide_eq_true_eq, Option.isSome_iff_ne_none]
      exact ⟨due, connected⟩
  show peer ∈ (if s.client.networkEnabled then (s.maintainedState now).brokersDue now else []) ↔ _
  cases s.client.networkEnabled with
  | false => simp
  | true => simpa using listed

/-! ### Asking again -/

section AskingAgain

variable (start : TurnRuntime PeerId) (inputs : List (TurnInput PeerId Addr))

/-- A request to a peer was sent at a time. -/
def RequestSent (peer : PeerId) (time : ℕ) : Prop :=
  ∃ before after, inputs = before ++ .request peer time :: after ∧
    ((final turnStep start before).requestFor peer time).1 ≠ none

/-- A peer answered a request. -/
def Answered (peer : PeerId) : Prop :=
  ∃ before response now after, inputs = before ++ .response peer response now :: after ∧ ∃ time, RequestSent start before peer time

/-- A peer that should be asked again: it answered, it is connected directly, it speaks the protocol, it was not asked in
the last minute, and there are no credentials of it that are fresh. -/
structure ToAskAgain (now : ℕ) (peer : PeerId) : Prop where
  answered : Answered start inputs peer
  connected : (final turnStep start inputs).client.state.peerHosts.lookup peer ≠ none
  supported : peer ∉ (final turnStep start inputs).client.state.unsupported
  rested : ∀ time, RequestSent start inputs peer time → time + requestCooldown ≤ now
  stale : ∀ learned, (final turnStep start inputs).client.state.brokers.lookup peer = some learned →
    ¬ (now < learned.refreshAt ∧ now < learned.expiresAt)

variable {start inputs}

theorem networkEnabled_of_requestSent {peer : PeerId} {time : ℕ} (sent : RequestSent start inputs peer time) :
    start.client.networkEnabled = true := by
  obtain ⟨before, _, _, request⟩ := sent
  have same := (client_final start before).1
  unfold TurnRuntime.requestFor at request
  cases enabled : start.client.networkEnabled with
  | true => rfl
  | false =>
    rw [same, enabled] at request
    exact absurd rfl request

theorem not_stored_of_entries_nil (s : TurnRuntime PeerId) (nothing : s.client.state.brokers.entries = [])
    (peer : PeerId) (learned : LearnedServers) : s.client.state.brokers.lookup peer ≠ some learned := by
  intro stored
  rw [← Table.mem_entries_iff, nothing] at stored
  exact absurd stored List.not_mem_nil

/-- **One maintenance.** -/
theorem mem_due_of_toAskAgain {now : ℕ} {peer : PeerId} (due : ToAskAgain start inputs now peer) :
    peer ∈ ((final turnStep start inputs).maintain now).1.1 ↔
      ∃ learned, (final turnStep start inputs).client.state.brokers.lookup peer = some learned ∧
        now < learned.expiresAt := by
  obtain ⟨_, _, _, _, _, time, sent⟩ := due.answered
  have enabled : (final turnStep start inputs).client.networkEnabled = true :=
    (client_final start inputs).1.trans (networkEnabled_of_requestSent sent)
  rw [mem_due_iff, and_iff_right enabled, and_iff_right due.connected]
  constructor
  · rintro ⟨learned, stored, alive, _⟩
    exact ⟨learned, stored, alive⟩
  · rintro ⟨learned, stored, alive⟩
    refine ⟨learned, stored, alive, Nat.le_of_not_lt fun fresh => ?_⟩
    exact due.stale learned stored ⟨fresh, alive⟩

/-- **Asking again.** In every run, each maintenance returns all brokers that should be asked again, exactly if at each
maintenance the client still has credentials of each such broker that have not expired. -/
theorem asked_again_iff (start : TurnRuntime PeerId) (inputs : List (TurnInput PeerId Addr)) :
    (∀ before now after, inputs = before ++ .maintain now :: after → ∀ peer, ToAskAgain start before now peer →
      peer ∈ ((final turnStep start before).maintain now).1.1) ↔
    ∀ before now after, inputs = before ++ .maintain now :: after → ∀ peer, ToAskAgain start before now peer →
      ∃ learned, (final turnStep start before).client.state.brokers.lookup peer = some learned ∧
        now < learned.expiresAt := by
  refine forall_congr' fun before => forall_congr' fun now => forall_congr' fun after => forall_congr' fun _ =>
    forall_congr' fun peer => forall_congr' fun due => mem_due_of_toAskAgain due

end AskingAgain

end Operations

namespace Unavailable

/-- A browser with the default configuration. -/
def start : TurnRuntime KeyPeer := .attach { RelayOnly.config with browserWebrtc := .standard } none true 0

/-- A connected broker is asked, and it has no credentials yet. -/
def inputs : List (TurnInput KeyPeer TcpHost) :=
  [.connected ⟨1⟩ ⟨7⟩, .request ⟨1⟩ (secs 1), .response ⟨1⟩ .unavailable (secs 2)]

theorem toAskAgain : ToAskAgain start inputs (secs 100) ⟨1⟩ where
  answered := by
    refine ⟨[.connected ⟨1⟩ ⟨7⟩, .request ⟨1⟩ (secs 1)], .unavailable, secs 2, [], rfl, secs 1, ?_⟩
    exact ⟨[.connected ⟨1⟩ ⟨7⟩], [], rfl, by decide⟩
  connected := by decide
  supported := by decide
  rested time sent := by
    obtain ⟨before, after, split, _⟩ := sent
    have member : .request ⟨1⟩ time ∈ inputs := by
      rw [split]
      exact List.mem_append_right _ (List.mem_cons_self ..)
    obtain rfl : time = secs 1 := by
      simpa [inputs] using member
    decide
  stale learned stored :=
    absurd stored (not_stored_of_entries_nil _ (by decide) _ learned)

/-- **Told to ask again later**, the client is connected to the broker and never asks again. -/
theorem never_due : ToAskAgain start inputs (secs 100) ⟨1⟩ ∧
    ((final turnStep start inputs).maintain (secs 100)).1.1 = [] := ⟨toAskAgain, by decide +kernel⟩

end Unavailable

end P2pNet.Node
