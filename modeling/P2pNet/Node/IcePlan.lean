/-
**ICE servers of a browser connection** (`crates/node/config/webrtc.rs`, `validate_webrtc_and_turn` of
`crates/node/config_validation.rs`).

The WebRTC section decides on the ICE policy and on STUN, the TURN client supplies relay servers. The plan puts both
together and leaves STUN out where the address of the browser must not be shown.
-/

import P2pNet.Node.Capabilities
import P2pNet.Connectivity.Turn.Config
import P2pNet.Connectivity.Turn.Client

set_option linter.unusedSectionVars false

namespace P2pNet.Node

open Lib Connectivity P2pNet.Connectivity.Turn

/-- Most STUN servers per peer connection. -/
def maxStunServers : ℕ := 4

inductive IceTransportPolicy
  | all
  | relay
  deriving DecidableEq

structure StunConfig where
  enabled : Bool
  servers : List String

structure BrowserWebRtcConfig where
  enabled : Bool
  iceTransportPolicy : Option IceTransportPolicy
  directConnections : Option Bool
  stun : StunConfig
  iceServers : List IceServer

/-- Resolved WebRTC ICE settings. -/
structure BrowserIcePlan where
  policy : IceTransportPolicy
  stunEnabled : Bool
  stunServers : List IceServer

namespace BrowserWebRtcConfig

/-- `default`. -/
def standard : BrowserWebRtcConfig := ⟨true, none, none, ⟨true, []⟩, []⟩

variable (cfg : BrowserWebRtcConfig)

/-- A relay-only request from either field is never weakened. -/
def effectivePolicy : IceTransportPolicy :=
  if cfg.iceTransportPolicy = some .relay ∨ cfg.directConnections = some false then .relay else .all

def stunServers : List IceServer :=
  cfg.stun.servers.map IceServer.stun ++ cfg.iceServers.filterMap IceServer.stunOnly

/-- `turn.client` with the TURN entries of `ice_servers` added to its own servers. -/
def withLegacyTurn (client : TurnClientConfig) : TurnClientConfig :=
  { client with servers := client.servers ++ cfg.iceServers.filterMap IceServer.turnOnly }

def plan : BrowserIcePlan := ⟨cfg.effectivePolicy, cfg.stun.enabled, cfg.stunServers⟩

def hasSettings : Bool :=
  cfg.iceTransportPolicy.isSome || cfg.directConnections.isSome || !cfg.stun.servers.isEmpty || !cfg.iceServers.isEmpty

/-- One entry of `browser_webrtc.stun.servers`. -/
def validateStunUrl (url : String) (index : ℕ) : Except NetError Unit := do
  let field := s!"browser_webrtc.stun.servers[{index}]"
  let server := IceServer.stun url
  server.validate field
  rejectIf (server.isTurn = true) (configError s!"{field}: TURN servers belong in turn.client.servers")

def validateServers : Except NetError Unit := do
  cfg.stun.servers.zipIdx.forM fun entry => validateStunUrl entry.1 entry.2
  cfg.iceServers.zipIdx.forM fun entry =>
    let index := entry.2
    entry.1.validate s!"browser_webrtc.ice_servers[{index}]"
  let stunCount := cfg.stunServers.length
  rejectIf (cfg.stun.enabled = false ∧ stunCount > 0)
    (configError "browser_webrtc.stun.enabled is false but STUN servers are listed")
  rejectIf (stunCount > maxStunServers)
    (configError s!"browser_webrtc lists more than {maxStunServers} STUN servers")

def validate : Except NetError Unit := do
  rejectIf (cfg.enabled = false ∧ cfg.hasSettings = true) (configError
    "browser_webrtc.enabled is false, so its ICE, STUN and ice_servers settings would be ignored; remove them")
  rejectIf (cfg.iceTransportPolicy = some .relay ∧ cfg.directConnections = some true) (configError
    "browser_webrtc.ice_transport_policy is `relay` but direct_connections is true; relay-only ICE never connects directly")
  rejectIf (cfg.iceTransportPolicy = some .all ∧ cfg.directConnections = some false) (configError
    "browser_webrtc.direct_connections is false but ice_transport_policy is `all`; use `relay` (or leave it unset)")
  cfg.validateServers

end BrowserWebRtcConfig

/-! ### The node configuration -/

/-- A node configuration with its WebRTC and TURN sections; the switches of the TURN section are those that the
resolver reads. -/
structure BrowserNodeConfig extends NodeConfig where
  browserWebrtc : BrowserWebRtcConfig
  turn : TurnConfig
  server_enabled : turnServerEnabled = turn.server.enabled
  broker_enabled : turnBrokerEnabled = turn.broker.enabled

namespace BrowserNodeConfig

variable (cfg : BrowserNodeConfig)

/-- `with_profile_defaults_applied().turn`. -/
def turnOfProfile : TurnConfig :=
  let effective := cfg.toNodeConfig.withProfileDefaultsApplied
  { cfg.turn with
    server := { cfg.turn.server with enabled := effective.turnServerEnabled }
    broker := { cfg.turn.broker with enabled := effective.turnBrokerEnabled } }

/-- What the TURN client of the node is made of. -/
def turnClient : TurnClientConfig := cfg.browserWebrtc.withLegacyTurn cfg.turn.client

def validateWebrtcAndTurn (parseUrl : String → Except String ParsedUrl) : Except NetError Unit := do
  let webrtc := cfg.browserWebrtc
  webrtc.validate
  let turn : TurnConfig := { cfg.turnOfProfile with client := webrtc.withLegacyTurn cfg.turnOfProfile.client }
  turn.validate parseUrl
  rejectIf (turn.server.enabled = true ∧ turn.server.publicIp = none ∧ cfg.publicIpProbeEnabled = false)
    (configError "turn.server needs turn.server.public_ip when public_ip_probe is disabled")
  rejectIf (webrtc.enabled = false ∧ turn.client.hasExplicitSources = true)
    (configError "turn.client sources only feed browser WebRTC, but browser_webrtc.enabled is false")
  rejectIf (webrtc.stunServers.length + turn.client.maxServers > maxIceServers) (configError
    s!"browser_webrtc STUN servers plus turn.client.max_servers must not exceed {maxIceServers} ICE servers")

variable {cfg}

/-- **A valid configuration leaves room** for its STUN servers beside the TURN servers. -/
theorem room_of_valid {parseUrl : String → Except String ParsedUrl} (valid : cfg.validateWebrtcAndTurn parseUrl = .ok ()) :
    cfg.browserWebrtc.stunServers.length + cfg.turn.client.maxServers ≤ maxIceServers := by
  unfold validateWebrtcAndTurn at valid
  obtain ⟨_, valid⟩ := bind_unit_ok_iff.mp valid
  obtain ⟨_, valid⟩ := bind_unit_ok_iff.mp valid
  obtain ⟨_, valid⟩ := bind_unit_ok_iff.mp valid
  obtain ⟨_, valid⟩ := bind_unit_ok_iff.mp valid
  exact Nat.le_of_not_lt (rejectIf_ok_iff.mp valid)

end BrowserNodeConfig

/-! ### The composed list -/

namespace BrowserIcePlan

variable (plan : BrowserIcePlan)

/-- Are STUN servers used? -/
def keepStun : Bool := plan.policy = .all && plan.stunEnabled

/-- STUN first, unless it is not used, then TURN. -/
def compose (turnServers : List IceServer) : List IceServer :=
  let stun := plan.stunServers.filter fun _ => plan.keepStun
  let turn := turnServers.filterMap fun server => if plan.keepStun then some server else server.turnOnly
  (stun ++ turn).foldl (pushUniqueBy IceServer.urls) []

variable {plan} {turnServers : List IceServer}

/-- **The composed list**: the first servers with different URLs. -/
theorem compose_eq : plan.compose turnServers = firstsBy IceServer.urls (plan.stunServers.filter (fun _ => plan.keepStun)
    ++ turnServers.filterMap fun server => if plan.keepStun then some server else server.turnOnly) := by
  unfold compose
  rw [foldl_pushUniqueBy]
  simp

theorem nodup_urls_compose : ((plan.compose turnServers).map IceServer.urls).Nodup := by
  rw [compose_eq]
  exact nodup_map_firstsBy _ _

theorem length_compose_le : (plan.compose turnServers).length ≤ plan.stunServers.length + turnServers.length := by
  rw [compose_eq]
  refine (firstsBy_sublist _ _).length_le.trans ?_
  rw [List.length_append]
  exact Nat.add_le_add (List.length_filter_le _ _) (List.length_filterMap_le _ _)

/-- **Without STUN** the list is made of the TURN parts alone. -/
theorem compose_private (hidden : plan.keepStun = false) :
    plan.compose turnServers = firstsBy IceServer.urls (turnServers.filterMap IceServer.turnOnly) := by
  rw [compose_eq, hidden]
  simp

theorem mem_compose_private (hidden : plan.keepStun = false) {kept : IceServer}
    (member : kept ∈ plan.compose turnServers) : ∃ server ∈ turnServers,
      kept = { server with urls := server.urls.filter isTurnUrl } := by
  rw [compose_private hidden] at member
  obtain ⟨server, offered, part⟩ := List.mem_filterMap.mp ((firstsBy_sublist _ _).subset member)
  exact ⟨server, offered, (IceServer.turnOnly_eq_some_iff.mp part).1⟩

/-- **No TURN URLs are lost.** -/
theorem turnUrls_mem_compose (hidden : plan.keepStun = false) {server : IceServer} (offered : server ∈ turnServers)
    (some : server.urls.filter isTurnUrl ≠ []) :
    ∃ kept ∈ plan.compose turnServers, kept.urls = server.urls.filter isTurnUrl := by
  have part : { server with urls := server.urls.filter isTurnUrl } ∈ turnServers.filterMap IceServer.turnOnly :=
    List.mem_filterMap.mpr ⟨server, offered, IceServer.turnOnly_eq_some_iff.mpr ⟨rfl, some⟩⟩
  rw [compose_private hidden]
  exact exists_mem_firstsBy IceServer.urls part

end BrowserIcePlan

section Composition

variable {PeerId Addr : Type} [PeerIdentity PeerId] [Multiaddr PeerId Addr]

/-- **ICE servers of a valid configuration.** Whatever the TURN client has been through, a connection gets a bounded
list of servers with different URLs. If ICE is relay-only or STUN is off, every URL in it is a TURN URL, each entry has
the username and the credential of the server it is a part of, and every list of TURN URLs that the client offers is in
it, with the credentials of the one server that offers it. -/
theorem composed_private {parseUrl : String → Except String ParsedUrl} {cfg : BrowserNodeConfig}
    (valid : cfg.validateWebrtcAndTurn parseUrl = .ok ()) (inputs : List (ClientInput PeerId Addr)) :
    let offered := (final clientStep (TurnClientState.new PeerId cfg.turnClient) inputs).effective
    let ice := cfg.browserWebrtc.plan.compose offered
    ice.length ≤ maxIceServers ∧ (ice.map IceServer.urls).Nodup ∧
    (cfg.browserWebrtc.effectivePolicy = .relay ∨ cfg.browserWebrtc.stun.enabled = false →
      (∀ kept ∈ ice, ∀ url ∈ kept.urls, IsTurnText url) ∧
      (∀ kept ∈ ice, ∃ server ∈ offered, kept.urls = server.urls.filter isTurnUrl ∧
        kept.username = server.username ∧ kept.credential = server.credential) ∧
      (∀ server ∈ offered, server.urls.filter isTurnUrl ≠ [] →
        ∃ kept ∈ ice, kept.urls = server.urls.filter isTurnUrl ∧
          ((∀ other ∈ offered, other.urls.filter isTurnUrl = server.urls.filter isTurnUrl → other = server) →
            kept.username = server.username ∧ kept.credential = server.credential))) := by
  intro offered ice
  have few : offered.length ≤ cfg.turn.client.maxServers := by
    have fixed := (justified_final cfg.turnClient inputs).fixed.maxServers
    exact (TurnClientState.length_effective_le _).trans fixed.le
  refine ⟨?_, BrowserIcePlan.nodup_urls_compose, fun noStun => ?_⟩
  · have room := BrowserNodeConfig.room_of_valid valid
    have total : ice.length ≤ cfg.browserWebrtc.stunServers.length + offered.length := BrowserIcePlan.length_compose_le
    omega
  · have hidden : cfg.browserWebrtc.plan.keepStun = false := by
      unfold BrowserIcePlan.keepStun BrowserWebRtcConfig.plan
      rcases noStun with relay | off
      · rw [relay]
        rfl
      · dsimp only
        rw [off, Bool.and_false]
    refine ⟨?_, ?_, ?_⟩
    · intro kept member url listed
      obtain ⟨server, _, rfl⟩ := BrowserIcePlan.mem_compose_private hidden member
      exact isTurnText_of_isTurnUrl (List.mem_filter.mp listed).2
    · intro kept member
      obtain ⟨server, source, rfl⟩ := BrowserIcePlan.mem_compose_private hidden member
      exact ⟨server, source, rfl, rfl, rfl⟩
    · intro server member turns
      obtain ⟨kept, inside, urls⟩ := BrowserIcePlan.turnUrls_mem_compose hidden member turns
      refine ⟨kept, inside, urls, fun only => ?_⟩
      obtain ⟨other, otherOffered, rfl⟩ := BrowserIcePlan.mem_compose_private hidden inside
      obtain rfl := only other otherOffered urls
      exact ⟨rfl, rfl⟩

end Composition

namespace RelayOnly

/-- A server that offers STUN and TURN on one host. -/
def mixed : IceServer :=
  ⟨["stun:203.0.113.7:3478", "turn:203.0.113.7:3478?transport=udp"], some "1700003600", some "c2VjcmV0"⟩

/-- The defaults, with relay-only ICE. -/
def config : BrowserNodeConfig where
  toNodeConfig := { ServerMediator.config 2 5 with profile := .auto }
  browserWebrtc := { BrowserWebRtcConfig.standard with iceTransportPolicy := some .relay }
  turn := .standard
  server_enabled := rfl
  broker_enabled := rfl

/-- A broker on that host is connected and offers the server. -/
def inputs : List (ClientInput KeyPeer TcpHost) :=
  [.noteConnection ⟨1⟩ ⟨7⟩, .shouldRequest ⟨1⟩ 0, .acceptFromBroker ⟨1⟩ ⟨[mixed], some 3600⟩ (secs 1)]

def parseUrl : String → Except String ParsedUrl := fun _ => .error "relative URL without a base"

/-- **A relay-only browser** gets the TURN URL of the server and not its STUN URL. -/
theorem turn_only_offered : config.validateWebrtcAndTurn parseUrl = .ok () ∧
    (∀ kept ∈ config.browserWebrtc.plan.compose
        (final clientStep (TurnClientState.new KeyPeer config.turnClient) inputs).effective,
      ∀ url ∈ kept.urls, IsTurnText url) ∧
    config.browserWebrtc.plan.compose (final clientStep (TurnClientState.new KeyPeer config.turnClient) inputs).effective
      = [{ mixed with urls := ["turn:203.0.113.7:3478?transport=udp"] }] := by
  have valid : config.validateWebrtcAndTurn parseUrl = .ok () := by decide
  exact ⟨valid, ((composed_private valid inputs).2.2 (.inl rfl)).1, by decide +kernel⟩

end RelayOnly

end P2pNet.Node
