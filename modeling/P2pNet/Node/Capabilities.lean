/-
**Profiles and capabilities** (`crates/node/capabilities.rs`, `crates/node/profile.rs`, the sections of
`crates/node/config.rs` and `crates/node/environment.rs` they read).

The resolver applies the defaults of the profile, lets the mediator section lower the limits of the relay
section, chooses a role and rejects what the role cannot do. `apply_resolved_capabilities` repeats the first two
steps on the configuration that the node then runs with. The relay section is not checked again after it was
lowered.

`projected_relay_invalid`: a mediator with fewer reservations than the relay grants one peer.
-/

import P2pNet.Connectivity.ConnectionStrategy
import P2pNet.Connectivity.DiscoveryConfig
import P2pNet.Connectivity.RelayConfig

namespace P2pNet.Node

open Lib Connectivity

/-! ### The configuration -/

inductive NodeProfile
  | auto
  | full
  | lite
  | relay
  | mediator
  | rendezvous
  | bootstrap
  | turn
  | mobileLite
  deriving DecidableEq

inductive NodeRole
  | full
  | lite
  | relay
  | mediator
  | rendezvous
  | bootstrap
  | turn
  | mobileLite
  | wasmLite
  deriving DecidableEq

def NodeRole.isLite (role : NodeRole) : Bool := role = .lite || role = .mobileLite || role = .wasmLite

structure ListenerConfig where
  tcp : Bool
  quic : Bool
  websocket : Bool
  webrtcDirect : Bool

/-- All of `DcutrPolicy`. -/
structure DcutrConfig extends DcutrPolicy where
  retryIntervalSecs : ℕ
  maxAttemptsPerPeer : ℕ

def DcutrConfig.validate (dcutr : DcutrConfig) : Except NetError Unit :=
  if !dcutr.enabled then .ok ()
  else do
    rejectIf (dcutr.retryIntervalSecs = 0)
      (configError "dcutr.retry_interval_secs must be at least 1 when DCUtR is enabled")
    rejectIf (dcutr.maxAttemptsPerPeer = 0)
      (configError "dcutr.max_attempts_per_peer must be at least 1 when DCUtR is enabled")
    rejectIf (dcutr.attemptAfterRelayConnection = true ∧ dcutr.keepRelayFallback = false)
      (configError "dcutr.keep_relay_fallback must be true when attempting upgrades after relayed connections")

structure NodeConfig where
  profile : NodeProfile
  listenAddresses : List String
  listeners : ListenerConfig
  discovery : DiscoveryConfig
  publicIpProbeEnabled : Bool
  relayPeers : List String
  reserveConfiguredRelays : Bool
  dcutr : DcutrConfig
  mediator : MediatorConfig
  relay : RelayServiceConfig
  turnServerEnabled : Bool
  turnBrokerEnabled : Bool

inductive PlatformKind
  | windows
  | linux
  | macos
  | android
  | ios
  | wasm
  | unknown
  deriving DecidableEq

inductive NetworkReachability
  | «public»
  | privateNat
  | cgnatLikely
  | unknown
  deriving DecidableEq

structure EnvironmentReport where
  platform : PlatformKind
  reachability : NetworkReachability
  canListenTcp : Bool
  canListenQuic : Bool
  canAcceptInbound : Bool
  likelyCgnat : Bool
  backgroundRestricted : Bool

/-! ### Listen addresses -/

section Listen

variable {PeerId : Type} (Addr : Type) [Multiaddr PeerId Addr]

/-- The listener that a protocol decides on. -/
def ListenerConfig.switch (listeners : ListenerConfig) : Protocol PeerId → Option Bool
  | .quic | .quicV1 => some listeners.quic
  | .other text =>
    if text = "/ws" ∨ text = "/wss" ∨ "/x-parity-ws/".toList <+: text.toList ∨
        "/x-parity-wss/".toList <+: text.toList then some listeners.websocket
    else if text = "/webrtc-direct" ∨ text = "/p2p-webrtc-direct" then some listeners.webrtcDirect
    else none
  | _ => none

def isTcp : Protocol PeerId → Bool
  | .other text => decide ("/tcp/".toList <+: text.toList)
  | _ => false

variable {Addr} in
def ListenerConfig.allows (listeners : ListenerConfig) (addr : Addr) : Bool :=
  match (Multiaddr.iter addr).findSome? listeners.switch with
  | some enabled => enabled
  | none => !(Multiaddr.iter addr).any isTcp || listeners.tcp

def parseMultiaddrs (field : String) (values : List String) : Except NetError (List Addr) :=
  values.mapM fun raw => (Multiaddr.parse raw : Except String Addr).mapError fun err =>
    configError s!"{field} contains invalid multiaddr `{raw}`: {err}"

def NodeConfig.enabledListenAddresses (cfg : NodeConfig) : Except NetError (List Addr) := do
  let addrs ← parseMultiaddrs Addr "listen_addresses" cfg.listenAddresses
  return addrs.filter cfg.listeners.allows

end Listen

/-! ### Profiles and roles -/

/-- `NodeProfile::apply_to`. -/
def NodeConfig.withProfileDefaultsApplied (cfg : NodeConfig) : NodeConfig :=
  match cfg.profile with
  | .auto | .full | .bootstrap => cfg
  | .lite | .mobileLite =>
    { cfg with
      relay := { cfg.relay with enabled := false }
      discovery := { cfg.discovery with rendezvous := { cfg.discovery.rendezvous with serverEnabled := false } } }
  | .relay => { cfg with relay := { cfg.relay with enabled := true } }
  | .mediator =>
    { cfg with
      mediator := { cfg.mediator with enabled := true }
      relay := { cfg.relay with enabled := true } }
  | .rendezvous =>
    { cfg with
      discovery := { cfg.discovery with
        rendezvous := { cfg.discovery.rendezvous with clientEnabled := true, serverEnabled := true } } }
  | .turn => { cfg with turnServerEnabled := true, turnBrokerEnabled := true }

def effectiveConfigForResolution (raw : NodeConfig) : NodeConfig :=
  let effective := raw.withProfileDefaultsApplied
  { effective with relay := effective.mediator.applyToRelay effective.relay }

def autoRole (environment : EnvironmentReport) : NodeRole :=
  if environment.platform = .wasm then .wasmLite
  else if environment.platform = .android ∨ environment.platform = .ios ∨ environment.backgroundRestricted = true then
    .mobileLite
  else if environment.canAcceptInbound = true ∨ environment.reachability = .public then .full
  else if environment.likelyCgnat = true ∨ environment.reachability = .privateNat ∨
      environment.reachability = .cgnatLikely then .lite
  else .full

def explicitConfigRole (cfg : NodeConfig) : Option NodeRole :=
  if cfg.mediator.enabled then some .mediator
  else if cfg.relay.enabled then some .relay
  else if cfg.discovery.rendezvous.serverEnabled then some .rendezvous
  else if cfg.turnServerEnabled then some .turn
  else none

def resolveRoleForEnvironment (cfg : NodeConfig) (environment : EnvironmentReport) : NodeRole :=
  match cfg.profile with
  | .auto =>
    if environment.platform = .wasm then .wasmLite else (explicitConfigRole cfg).getD (autoRole environment)
  | .full => .full
  | .lite => .lite
  | .relay => .relay
  | .mediator => .mediator
  | .rendezvous => .rendezvous
  | .bootstrap => .bootstrap
  | .turn => .turn
  | .mobileLite => .mobileLite

structure BehaviourSet where
  gossipsub : Bool
  kademliaClient : Bool
  kademliaServer : Bool
  autonat : Bool
  dcutr : Bool
  relayClient : Bool
  relayServer : Bool
  rendezvousClient : Bool
  rendezvousServer : Bool
  identify : Bool
  ping : Bool
  deriving DecidableEq

def BehaviourSet.forRole (role : NodeRole) (cfg : NodeConfig) : BehaviourSet :=
  let infrastructure := role = .relay || role = .mediator || role = .rendezvous || role = .bootstrap || role = .turn
  { gossipsub := true
    kademliaClient := true
    kademliaServer := infrastructure || !role.isLite
    autonat := role ≠ .wasmLite
    dcutr := role ≠ .wasmLite
    relayClient := true
    relayServer := role = .relay || role = .mediator || cfg.relay.enabled || cfg.mediator.enabled
    rendezvousClient := cfg.discovery.rendezvous.clientEnabled || role.isLite
    rendezvousServer := role = .rendezvous || cfg.discovery.rendezvous.serverEnabled
    identify := true
    ping := true }

/-- The fields of `ResolvedNodeConfig` that the resolver checks or applies. -/
structure ResolvedNodeConfig where
  role : NodeRole
  enabledBehaviours : BehaviourSet
  reserveConfiguredRelays : Bool
  shouldListen : Bool
  relayDiscoveryEnabled : Bool
  dcutrEnabled : Bool
  dcutrKeepRelayFallback : Bool
  dcutrMaxAttemptsPerPeer : ℕ
  mediatorEnabled : Bool
  mediatorAdvertiseForDcutr : Bool
  turnServerEnabled : Bool
  turnBrokerEnabled : Bool
  deriving DecidableEq

section Resolver

variable {PeerId : Type} (Addr : Type) [Multiaddr PeerId Addr]

def ResolvedNodeConfig.fromEffectiveConfig (role : NodeRole) (effective : NodeConfig) : ResolvedNodeConfig :=
  let forRole := BehaviourSet.forRole role effective
  let behaviours := { forRole with dcutr := forRole.dcutr && (effective.dcutr.enabled && forRole.relayClient) }
  let noPublicListeners : Bool := role = .mobileLite || role = .wasmLite
  let hasRelaySelectionSource := role.isLite || !effective.relayPeers.isEmpty
    || effective.discovery.publicBootstrap.hasRelayCandidates
    || (effective.discovery.publicBootstrap.mode.isEnabled && effective.discovery.relayDiscovery.useDhtRelays)
  { role
    enabledBehaviours := behaviours
    reserveConfiguredRelays := effective.reserveConfiguredRelays
    shouldListen := !noPublicListeners && match effective.enabledListenAddresses Addr with
      | .ok addrs => !addrs.isEmpty
      | .error _ => false
    relayDiscoveryEnabled := effective.discovery.relayDiscovery.enabled && behaviours.relayClient
      && hasRelaySelectionSource
    dcutrEnabled := behaviours.dcutr
    dcutrKeepRelayFallback := effective.dcutr.keepRelayFallback
    dcutrMaxAttemptsPerPeer := effective.dcutr.maxAttemptsPerPeer
    mediatorEnabled := effective.mediator.enabled
    mediatorAdvertiseForDcutr := effective.mediator.advertiseForDcutr
    turnServerEnabled := effective.turnServerEnabled && !noPublicListeners
    turnBrokerEnabled := effective.turnBrokerEnabled && !noPublicListeners }

def resolverError (reason : String) : NetError := .config "<capability-resolver>" reason

def validateResolvedConfig (raw : NodeConfig) (environment : EnvironmentReport) (resolved : ResolvedNodeConfig) :
    Except NetError Unit := do
  let role := resolved.role
  let behaviours := resolved.enabledBehaviours
  rejectIf (role.isLite = true ∧ behaviours.relayServer = true)
    (resolverError "lite and mobile_lite profiles cannot enable relay server capability")
  rejectIf (role.isLite = true ∧ behaviours.rendezvousServer = true)
    (resolverError "lite and mobile_lite profiles cannot enable rendezvous server capability")
  rejectIf (behaviours.dcutr = true ∧ behaviours.relayClient = false)
    (resolverError "DCUtR requires relay client capability for relayed fallback")
  rejectIf (resolved.dcutrEnabled = true ∧ resolved.dcutrKeepRelayFallback = false)
    (resolverError "DCUtR policy must keep relay fallback enabled for production-safe lite connectivity")
  rejectIf (resolved.dcutrEnabled = true ∧ resolved.dcutrMaxAttemptsPerPeer = 0)
    (resolverError "DCUtR max attempts per peer must be at least 1 when enabled")
  rejectIf (resolved.relayDiscoveryEnabled = true ∧ behaviours.relayClient = false)
    (resolverError "relay discovery requires relay client capability")
  rejectIf (resolved.mediatorEnabled = true ∧ behaviours.relayServer = false)
    (resolverError "mediator capability requires relay server capability")
  rejectIf (resolved.mediatorEnabled = true ∧ resolved.mediatorAdvertiseForDcutr = false)
    (resolverError "mediator.advertise_for_dcutr must be true for mediator role")
  rejectIf (behaviours.relayServer = true ∧ environment.backgroundRestricted = true)
    (resolverError "relay server capability is not allowed in a background-restricted environment")
  let listens ← if behaviours.relayServer then raw.enabledListenAddresses Addr else .ok []
  rejectIf (behaviours.relayServer = true ∧ listens.isEmpty = true)
    (resolverError "relay server capability requires at least one enabled listen address")
  rejectIf (behaviours.relayServer = true ∧ environment.canListenTcp = false ∧ environment.canListenQuic = false)
    (resolverError "relay server capability requires TCP or QUIC listen support")
  rejectIf (raw.withProfileDefaultsApplied.turnServerEnabled = true ∧
      (role.isLite = true ∨ environment.backgroundRestricted = true))
    (resolverError "turn.server needs a full, always-on node; lite, mobile and browser roles cannot run it")
  rejectIf ((role = .mobileLite ∨ role = .wasmLite) ∧ resolved.shouldListen = true)
    (resolverError "mobile_lite/wasm_lite resolved policy must not require public listen sockets")

def resolveNodeConfig (raw : NodeConfig) (environment : EnvironmentReport) :
    Except NetError ResolvedNodeConfig := do
  let effective := effectiveConfigForResolution raw
  effective.discovery.relayDiscovery.validate
  effective.dcutr.validate
  effective.mediator.validate effective.relay
  let resolved := ResolvedNodeConfig.fromEffectiveConfig Addr (resolveRoleForEnvironment effective environment) effective
  validateResolvedConfig Addr raw environment resolved
  return resolved

def applyResolvedCapabilities (raw : NodeConfig) (resolved : ResolvedNodeConfig) : NodeConfig :=
  let cfg := raw.withProfileDefaultsApplied
  let relay := cfg.mediator.applyToRelay cfg.relay
  let wasm : Bool := resolved.role = .wasmLite
  { cfg with
    relay := { relay with enabled := resolved.enabledBehaviours.relayServer && !wasm }
    dcutr := { cfg.dcutr with enabled := resolved.dcutrEnabled && !wasm }
    mediator := { cfg.mediator with enabled := cfg.mediator.enabled && !wasm }
    discovery := { cfg.discovery with
      lan := { cfg.discovery.lan with enabled := cfg.discovery.lan.enabled && !wasm }
      rendezvous := { cfg.discovery.rendezvous with
        clientEnabled := resolved.enabledBehaviours.rendezvousClient
        serverEnabled := resolved.enabledBehaviours.rendezvousServer && !wasm } }
    reserveConfiguredRelays := resolved.reserveConfiguredRelays
    listenAddresses := if resolved.shouldListen then cfg.listenAddresses else []
    listeners := if wasm then ⟨false, false, false, false⟩ else cfg.listeners
    publicIpProbeEnabled := cfg.publicIpProbeEnabled && !wasm
    turnServerEnabled := resolved.turnServerEnabled
    turnBrokerEnabled := resolved.turnBrokerEnabled }

/-! ### The relay section of a mediator -/

/-- A profile switches a section on or off; it changes no limit. -/
theorem withProfileDefaultsApplied_limits (raw : NodeConfig) :
    (∃ enabled, raw.withProfileDefaultsApplied.relay = { raw.relay with enabled }) ∧
      ∃ enabled, raw.withProfileDefaultsApplied.mediator = { raw.mediator with enabled } := by
  unfold NodeConfig.withProfileDefaultsApplied
  cases raw.profile with
  | auto | full | bootstrap | rendezvous | turn => exact ⟨⟨raw.relay.enabled, rfl⟩, raw.mediator.enabled, rfl⟩
  | lite | mobileLite => exact ⟨⟨false, rfl⟩, raw.mediator.enabled, rfl⟩
  | relay => exact ⟨⟨true, rfl⟩, raw.mediator.enabled, rfl⟩
  | mediator => exact ⟨⟨true, rfl⟩, true, rfl⟩

theorem resolveNodeConfig_mediator {raw : NodeConfig} {environment : EnvironmentReport}
    {resolved : ResolvedNodeConfig} (resolves : resolveNodeConfig Addr raw environment = .ok resolved)
    (mediates : resolved.mediatorEnabled = true) :
    raw.withProfileDefaultsApplied.mediator.enabled = true ∧
      raw.withProfileDefaultsApplied.mediator.Positive := by
  unfold resolveNodeConfig at resolves
  simp only [bind_unit_ok_iff] at resolves
  obtain ⟨_, _, mediator, _, returned⟩ := resolves
  have enabled : raw.withProfileDefaultsApplied.mediator.enabled = true := by
    rw [← Except.ok.inj returned] at mediates
    exact mediates
  exact ⟨enabled, MediatorConfig.positive_of_validate enabled mediator⟩

/-- The relay section of the node is the lowered one, switched on or off. -/
theorem applied_relay (raw : NodeConfig) (resolved : ResolvedNodeConfig) :
    ∃ enabled, (applyResolvedCapabilities raw resolved).relay =
      { raw.withProfileDefaultsApplied.mediator.applyToRelay raw.withProfileDefaultsApplied.relay with enabled } :=
  ⟨_, rfl⟩

/-- **The relay section of a mediator.** Let the relay section be valid, and let the configuration resolve in an
environment with the mediator enabled. The section the node runs with is valid exactly when its bounds for one peer
are within those for all peers. That is so exactly when the bound for one peer, or the number of mediated peers
if it is smaller, is within the mediator's limit. -/
theorem projected_relay_valid_iff [PeerIdentity PeerId] {raw : NodeConfig}
    (valid : raw.relay.validate PeerId = .ok ()) {environment : EnvironmentReport} {resolved : ResolvedNodeConfig}
    (resolves : resolveNodeConfig Addr raw environment = .ok resolved)
    (mediates : resolved.mediatorEnabled = true) :
    let relay := (applyResolvedCapabilities raw resolved).relay
    (relay.validate PeerId = .ok () ↔
      relay.maxReservationsPerPeer ≤ relay.maxReservations ∧ relay.maxCircuitsPerPeer ≤ relay.maxCircuits) ∧
    (relay.validate PeerId = .ok () ↔
      min raw.relay.maxReservationsPerPeer raw.mediator.maxMediatedPeers ≤ raw.mediator.maxReservations ∧
        min raw.relay.maxCircuitsPerPeer raw.mediator.maxMediatedPeers ≤ raw.mediator.maxCircuits) := by
  intro relay
  obtain ⟨⟨_, relaySection⟩, _, mediatorSection⟩ := withProfileDefaultsApplied_limits raw
  obtain ⟨enabled, positive⟩ := resolveNodeConfig_mediator Addr resolves mediates
  obtain ⟨_, applied⟩ := applied_relay raw resolved
  have profiled : raw.withProfileDefaultsApplied.relay.validate PeerId = .ok () := by
    rw [relaySection]
    exact valid
  obtain ⟨sound, limited⟩ := (RelayServiceConfig.validate_ok_iff PeerId _).mp profiled
  -- the switch is not part of the check
  have checks : relay.validate PeerId = .ok () ↔ (raw.withProfileDefaultsApplied.mediator.applyToRelay
      raw.withProfileDefaultsApplied.relay).Limited := by
    show (applyResolvedCapabilities raw resolved).relay.validate PeerId = .ok () ↔ _
    rw [applied]
    refine (RelayServiceConfig.validate_ok_iff PeerId
      (MediatorConfig.applyToRelay _ raw.withProfileDefaultsApplied.relay)).trans ?_
    rw [MediatorConfig.applyToRelay_sound_iff, and_iff_right sound]
  constructor
  · rw [checks, MediatorConfig.applyToRelay_limited_iff_le _ enabled]
    rfl
  · rw [checks, MediatorConfig.applyToRelay_limited_iff _ enabled positive limited, relaySection, mediatorSection]

/-- **The capacity of a mediator.** Let the configuration resolve in an environment with the mediator enabled. The node
grants no more reservations than there are peers to mediate for, exactly when the relay section or the mediator's own
limit of reservations says so: the number of mediated peers bounds what one peer gets, not how many peers get it. -/
theorem mediated_peers_bounded_iff {raw : NodeConfig} {environment : EnvironmentReport} {resolved : ResolvedNodeConfig}
    (resolves : resolveNodeConfig Addr raw environment = .ok resolved)
    (mediates : resolved.mediatorEnabled = true) :
    (applyResolvedCapabilities raw resolved).relay.maxReservations ≤ raw.mediator.maxMediatedPeers ↔
      raw.relay.maxReservations ≤ raw.mediator.maxMediatedPeers ∨
        raw.mediator.maxReservations ≤ raw.mediator.maxMediatedPeers := by
  obtain ⟨⟨_, relaySection⟩, _, mediatorSection⟩ := withProfileDefaultsApplied_limits raw
  obtain ⟨enabled, _⟩ := resolveNodeConfig_mediator Addr resolves mediates
  obtain ⟨_, applied⟩ := applied_relay raw resolved
  have lowered : (applyResolvedCapabilities raw resolved).relay.maxReservations =
      min raw.relay.maxReservations raw.mediator.maxReservations := by
    rw [applied, MediatorConfig.applyToRelay, if_neg (by simp [enabled]), relaySection, mediatorSection]
  rw [lowered]
  exact min_le_iff

end Resolver

/-! ### A mediator on a server -/

namespace ServerMediator

/-- A server with a public address. -/
def environment : EnvironmentReport := ⟨.linux, .public, true, true, true, false, false⟩

def discovery : DiscoveryConfig where
  peerCachePath := ".p2p-net-peer-cache.json"
  peerCacheMaxEntries := 64
  peerIdentityMaxAgeSecs := 2592000
  peerCachePublicAddrMaxAgeSecs := 600
  peerCacheRelayAddrMaxAgeSecs := 7200
  namespaces := ⟨"p2p-net", [], .hashed, false⟩
  lan := ⟨true, 44777, 2⟩
  publicBootstrap := ⟨.fallbackOnly, ["/dnsaddr/bootstrap.libp2p.io/p2p/" ++ Seed.nnoo.text], [], []⟩
  dht := .default
  relayDiscovery := ⟨true, true, true, true, true, 3, 8⟩
  rendezvous := ⟨true, false, "p2p-net", 7200, 7200, 259200, 1000, 100000, 10000⟩

/-- The default limits, but for those of a peer at the relay and of all peers at the mediator. -/
def config (reservationsPerPeer mediatorReservations : ℕ) : NodeConfig where
  profile := .mediator
  listenAddresses := ["/ip4/8.8.8.8/tcp/4001"]
  listeners := ⟨true, true, true, true⟩
  discovery
  publicIpProbeEnabled := true
  relayPeers := []
  reserveConfiguredRelays := true
  dcutr := ⟨⟨true, true, true⟩, 60, 3⟩
  mediator := { MediatorConfig.default with enabled := true, maxReservations := mediatorReservations }
  relay := { RelayServiceConfig.default with maxReservationsPerPeer := reservationsPerPeer }
  turnServerEnabled := false
  turnBrokerEnabled := false

/-- What the resolver returns. -/
def resolved : ResolvedNodeConfig where
  role := .mediator
  enabledBehaviours := ⟨true, true, true, true, true, true, true, true, false, true, true⟩
  reserveConfiguredRelays := true
  shouldListen := true
  relayDiscoveryEnabled := true
  dcutrEnabled := true
  dcutrKeepRelayFallback := true
  dcutrMaxAttemptsPerPeer := 3
  mediatorEnabled := true
  mediatorAdvertiseForDcutr := true
  turnServerEnabled := false
  turnBrokerEnabled := false

theorem projected_relay_valid_two :
    (applyResolvedCapabilities (config 2 5) resolved).relay.validate Seed = .ok () := by
  have valid : (config 2 5).relay.validate Seed = .ok () := by decide +kernel
  have resolves : resolveNodeConfig SeedRoute (config 2 5) environment = .ok resolved := by decide +kernel
  exact (projected_relay_valid_iff SeedRoute valid resolves rfl).2.mpr (by decide)

/-- **A projected relay section that its own check rejects.** The relay grants a peer ten reservations, the
mediator all peers together five. Both sections are valid and the configuration resolves. -/
theorem projected_relay_invalid :
    (config 10 5).relay.validate Seed = .ok () ∧ (config 10 5).mediator.validate (config 10 5).relay = .ok () ∧
      resolveNodeConfig SeedRoute (config 10 5) environment = .ok resolved ∧
      (applyResolvedCapabilities (config 10 5) resolved).relay.validate Seed
        = .error (configError "relay.max_reservations_per_peer must be <= relay.max_reservations") := by
  refine ⟨?_, ?_, ?_, ?_⟩
  · decide +kernel
  · decide +kernel
  · decide +kernel
  · decide +kernel

/-- Five reservations, for up to 64 peers. -/
theorem five_reservations :
    (applyResolvedCapabilities (config 2 5) resolved).relay.maxReservations ≤
      (config 2 5).mediator.maxMediatedPeers := by
  have resolves : resolveNodeConfig SeedRoute (config 2 5) environment = .ok resolved := by decide +kernel
  exact (mediated_peers_bounded_iff SeedRoute resolves rfl).mpr (.inr (by decide))

/-- The default limits, with fewer peers to mediate for. -/
def fewPeers : NodeConfig :=
  { config 1 64 with mediator := { MediatorConfig.default with enabled := true, maxMediatedPeers := 8 } }

/-- **More peers than mediated for.** The mediator is willing to serve eight peers, and grants 64 reservations. -/
theorem capacity_exceeded :
    fewPeers.relay.validate Seed = .ok () ∧ fewPeers.mediator.validate fewPeers.relay = .ok () ∧
      resolveNodeConfig SeedRoute fewPeers environment = .ok resolved ∧
      fewPeers.mediator.maxMediatedPeers = 8 ∧
      (applyResolvedCapabilities fewPeers resolved).relay.maxReservations = 64 ∧
      (applyResolvedCapabilities fewPeers resolved).relay.maxReservationsPerPeer = 1 := by
  refine ⟨?_, ?_, ?_, rfl, ?_, ?_⟩
  · decide +kernel
  · decide +kernel
  · decide +kernel
  · decide +kernel
  · decide +kernel

end ServerMediator

end P2pNet.Node
