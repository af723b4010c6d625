/-
**The discovery section of the configuration** (`crates/connectivity/discovery.rs`, with the sections of
`dht.rs`, `lan.rs`, `public_fallback.rs`, `relay_discovery.rs` and `rendezvous.rs`).

The namespaces under which the node announces itself and looks for others come from the tags of the
application, or from the network id where there are none, or from the operator.
-/

import P2pNet.Connectivity.Namespace

namespace P2pNet.Connectivity

open Lib

/-! ### Sections -/

structure DhtDiscoveryConfig where
  enabled : Bool
  announce : Bool
  discover : Bool
  discoverWithRendezvousPeers : Bool
  refreshIntervalSecs : ℕ
  periodicBootstrapIntervalSecs : Option ℕ
  queryParallelism : ℕ
  providerKeyReplicas : ℕ
  maxNamespacesPerRefresh : ℕ

namespace DhtDiscoveryConfig

def default : DhtDiscoveryConfig where
  enabled := true
  announce := true
  discover := true
  discoverWithRendezvousPeers := true
  refreshIntervalSecs := 300
  periodicBootstrapIntervalSecs := some 300
  queryParallelism := 3
  providerKeyReplicas := 3
  maxNamespacesPerRefresh := 16

variable (dht : DhtDiscoveryConfig)

def validate : Except NetError Unit := do
  rejectIf (dht.enabled = true ∧ dht.announce = false ∧ dht.discover = false)
    (configError "discovery.dht must enable announce, discover, or be disabled")
  atLeastOne "discovery.dht.max_namespaces_per_refresh" dht.maxNamespacesPerRefresh
  atLeastOne "discovery.dht.query_parallelism" dht.queryParallelism
  rejectIf (¬ (1 ≤ dht.providerKeyReplicas ∧ dht.providerKeyReplicas ≤ 3))
    (configError "discovery.dht.provider_key_replicas must be between 1 and 3")
  rejectIf (dht.periodicBootstrapIntervalSecs = some 0)
    (configError "discovery.dht.periodic_bootstrap_interval_secs must be null or at least 1")
  atLeastOne "discovery.dht.refresh_interval_secs" dht.refreshIntervalSecs

end DhtDiscoveryConfig

structure LanDiscoveryConfig where
  enabled : Bool
  port : UInt16
  announceIntervalSecs : ℕ

def LanDiscoveryConfig.validate (lan : LanDiscoveryConfig) : Except NetError Unit := do
  rejectIf (lan.enabled = true ∧ lan.port = 0) (configError "discovery.lan.port must be at least 1")
  rejectIf (lan.enabled = true ∧ lan.announceIntervalSecs = 0)
    (configError "discovery.lan.announce_interval_secs must be at least 1")

inductive PublicFallbackMode
  | disabled
  | fallbackOnly
  | always
  deriving DecidableEq

def PublicFallbackMode.isEnabled (mode : PublicFallbackMode) : Bool := mode ≠ .disabled

structure PublicBootstrapConfig where
  mode : PublicFallbackMode
  bootstrapSeedPeers : List String
  rendezvousPeers : List String
  relayPeers : List String

namespace PublicBootstrapConfig

variable (fallback : PublicBootstrapConfig)

def hasRelayCandidates : Bool := fallback.mode.isEnabled && !fallback.relayPeers.isEmpty

def validate : Except NetError Unit :=
  rejectIf (fallback.mode.isEnabled = true ∧ fallback.bootstrapSeedPeers = [] ∧ fallback.rendezvousPeers = [] ∧
      fallback.relayPeers = [])
    (configError "discovery.public_bootstrap mode is enabled but no public bootstrap, rendezvous, or relay peers are configured")

end PublicBootstrapConfig

structure RelayDiscoveryPolicy where
  enabled : Bool
  useConfiguredRelays : Bool
  useCachedRelays : Bool
  useRendezvousRelays : Bool
  useDhtRelays : Bool
  minReservations : ℕ
  maxReservations : ℕ

def RelayDiscoveryPolicy.validate (policy : RelayDiscoveryPolicy) : Except NetError Unit :=
  if !policy.enabled then .ok ()
  else do
    atLeastOne "discovery.relay_discovery.max_reservations" policy.maxReservations
    rejectIf (policy.minReservations > policy.maxReservations)
      (configError "discovery.relay_discovery.min_reservations must be <= max_reservations")
    rejectIf (policy.useConfiguredRelays = false ∧ policy.useCachedRelays = false ∧
        policy.useRendezvousRelays = false ∧ policy.useDhtRelays = false)
      (configError "discovery.relay_discovery must enable at least one relay source")

structure RendezvousConfig where
  clientEnabled : Bool
  serverEnabled : Bool
  name : String
  registerTtlSecs : ℕ
  serverMinTtlSecs : ℕ
  serverMaxTtlSecs : ℕ
  serverMaxRegistrationsPerPeer : ℕ
  serverMaxRegistrationsTotal : ℕ
  serverMaxStoredCookies : ℕ

/-- `rendezvous::Namespace::new`: at most 255 bytes. -/
def rendezvousNamespace (name : String) : Except String String :=
  if name.utf8ByteSize > 255 then .error "Namespace is too long" else .ok name

namespace RendezvousConfig

def defaultName : String := "p2p-net"

variable (rendezvous : RendezvousConfig)

def checkName : Except NetError String :=
  (rendezvousNamespace rendezvous.name).mapError fun err =>
    configError s!"discovery.rendezvous.namespace `{rendezvous.name}` is invalid: {err}"

def validate : Except NetError Unit := do
  rejectIf (Text.trim rendezvous.name = "") (configError "discovery.rendezvous.namespace must not be empty")
  let _ ← rendezvous.checkName
  atLeastOne "discovery.rendezvous.register_ttl_secs" rendezvous.registerTtlSecs
  atLeastOne "discovery.rendezvous.server_min_ttl_secs" rendezvous.serverMinTtlSecs
  rejectIf (rendezvous.serverMaxTtlSecs < rendezvous.serverMinTtlSecs)
    (configError "discovery.rendezvous.server_max_ttl_secs must be >= server_min_ttl_secs")
  atLeastOne "discovery.rendezvous.server_max_registrations_per_peer" rendezvous.serverMaxRegistrationsPerPeer
  atLeastOne "discovery.rendezvous.server_max_registrations_total" rendezvous.serverMaxRegistrationsTotal
  rejectIf (rendezvous.serverMaxRegistrationsPerPeer > rendezvous.serverMaxRegistrationsTotal)
    (configError "discovery.rendezvous.server_max_registrations_per_peer cannot exceed server_max_registrations_total")
  atLeastOne "discovery.rendezvous.server_max_stored_cookies" rendezvous.serverMaxStoredCookies

end RendezvousConfig

/-! ### The whole section -/

structure DiscoveryConfig where
  peerCachePath : String
  peerCacheMaxEntries : ℕ
  peerIdentityMaxAgeSecs : ℕ
  peerCachePublicAddrMaxAgeSecs : ℕ
  peerCacheRelayAddrMaxAgeSecs : ℕ
  namespaces : DiscoveryNamespaceConfig
  lan : LanDiscoveryConfig
  publicBootstrap : PublicBootstrapConfig
  dht : DhtDiscoveryConfig
  relayDiscovery : RelayDiscoveryPolicy
  rendezvous : RendezvousConfig

namespace DiscoveryConfig

variable (discovery : DiscoveryConfig) (blake3 : Blake3)

def rendezvousNamespaces (networkId : UInt32) : Except NetError (List String) :=
  if discovery.namespaces.isEnabled then do
    let derived ← discovery.namespaces.derivedNamespaces blake3 networkId
    return derived.map (·.name)
  else if discovery.rendezvous.name = RendezvousConfig.defaultName then do
    let derived ← defaultDiscoveryNamespace blake3 networkId discovery.namespaces.appId
    return [derived.name]
  else .ok [discovery.rendezvous.name]

def validate : Except NetError Unit := do
  rejectIf (Text.trim discovery.peerCachePath = "") (configError "discovery.peer_cache_path must not be empty")
  atLeastOne "discovery.peer_cache_max_entries" discovery.peerCacheMaxEntries
  atLeastOne "discovery.peer_identity_max_age_secs" discovery.peerIdentityMaxAgeSecs
  atLeastOne "discovery.peer_cache_public_addr_max_age_secs" discovery.peerCachePublicAddrMaxAgeSecs
  atLeastOne "discovery.peer_cache_relay_addr_max_age_secs" discovery.peerCacheRelayAddrMaxAgeSecs
  discovery.namespaces.validate
  discovery.lan.validate
  discovery.publicBootstrap.validate
  discovery.dht.validate
  discovery.relayDiscovery.validate
  discovery.rendezvous.validate
  let names ← discovery.rendezvousNamespaces blake3 0
  names.forM fun name => match rendezvousNamespace name with
    | .ok _ => .ok ()
    | .error err => .error (configError s!"derived discovery namespace is invalid for rendezvous: {err}")

/-- **The namespaces**: the derived ones, which are paths of segments, or the name the operator chose. -/
theorem rendezvousNamespaces_origin {discovery : DiscoveryConfig} {networkId : UInt32} {names : List String}
    (derived : discovery.rendezvousNamespaces blake3 networkId = .ok names) :
    discovery.namespaces.tags = [] ∧ names = [discovery.rendezvous.name] ∨
      names.Nodup ∧ ∀ name ∈ names, ∀ char ∈ name.toList, isSegmentChar char = true ∨ char = '/' := by
  unfold rendezvousNamespaces at derived
  split_ifs at derived with tagged unchanged
  · rw [bind_ok_iff] at derived
    obtain ⟨all, found, returned⟩ := derived
    rw [← Except.ok.inj returned]
    refine .inr ⟨discovery.namespaces.derivedNamespaces_nodup found, fun name member => ?_⟩
    obtain ⟨item, listed, rfl⟩ := List.mem_map.mp member
    obtain ⟨tag, _, built⟩ := discovery.namespaces.mem_derivedNamespaces found listed
    exact buildDiscoveryNamespace_chars built
  · rw [bind_ok_iff] at derived
    obtain ⟨item, built, returned⟩ := derived
    rw [← Except.ok.inj returned]
    refine .inr ⟨List.nodup_singleton _, fun name member => ?_⟩
    rw [List.mem_singleton.mp member]
    exact buildDiscoveryNamespace_chars built
  · refine .inl ⟨?_, (Except.ok.inj derived).symm⟩
    simpa [DiscoveryNamespaceConfig.isEnabled] using tagged

theorem rendezvousNamespaces_nodup {discovery : DiscoveryConfig} {networkId : UInt32} {names : List String}
    (derived : discovery.rendezvousNamespaces blake3 networkId = .ok names) : names.Nodup := by
  rcases rendezvousNamespaces_origin blake3 derived with ⟨_, rfl⟩ | ⟨distinct, _⟩
  · exact List.nodup_singleton _
  · exact distinct

/-- A configuration that gives namespaces for one network gives them for every network. -/
theorem rendezvousNamespaces_succeeds {discovery : DiscoveryConfig} {networkId : UInt32} {names : List String}
    (derived : discovery.rendezvousNamespaces blake3 networkId = .ok names) (other : UInt32) :
    ∃ names, discovery.rendezvousNamespaces blake3 other = .ok names := by
  unfold rendezvousNamespaces at derived ⊢
  split_ifs at derived ⊢
  · rw [bind_ok_iff] at derived
    obtain ⟨all, found, _⟩ := derived
    obtain ⟨valid, built, mapped, _⟩ := DiscoveryNamespaceConfig.derivedNamespaces_ok_iff.mp found
    obtain ⟨built', mapped'⟩ := mapM_succeeds_iff.mpr fun tag listed => buildDiscoveryNamespace_succeeds_iff.mpr
      (buildDiscoveryNamespace_succeeds_iff.mp (mapM_succeeds_iff.mp ⟨built, mapped⟩ tag listed))
    exact ⟨_, bind_ok_iff.mpr
      ⟨_, DiscoveryNamespaceConfig.derivedNamespaces_ok_iff.mpr ⟨valid, built', mapped', rfl⟩, rfl⟩⟩
  · rw [bind_ok_iff] at derived
    obtain ⟨item, built, _⟩ := derived
    obtain ⟨item', built'⟩ := buildDiscoveryNamespace_succeeds_iff.mpr
      (buildDiscoveryNamespace_succeeds_iff.mp ⟨item, built⟩)
    exact ⟨_, bind_ok_iff.mpr ⟨item', built', rfl⟩⟩
  · exact ⟨_, rfl⟩

/-- **A validated configuration** has namespaces for the network 0, and all of them are short enough. -/
theorem rendezvousNamespaces_of_validate {discovery : DiscoveryConfig} (valid : discovery.validate blake3 = .ok ()) :
    ∃ names, discovery.rendezvousNamespaces blake3 0 = .ok names ∧ ∀ name ∈ names, name.utf8ByteSize ≤ 255 := by
  unfold validate at valid
  simp only [bind_unit_ok_iff] at valid
  obtain ⟨_, _, _, _, _, _, _, _, _, _, _, last⟩ := valid
  obtain ⟨names, derived, short⟩ := bind_ok_iff.mp last
  refine ⟨names, derived, fun name listed => ?_⟩
  have accepted := forM_ok_iff.mp short name listed
  by_contra long
  rw [rendezvousNamespace, if_pos (Nat.lt_of_not_le long)] at accepted
  cases accepted

/-- There is always a namespace. -/
theorem rendezvousNamespaces_ne_nil {discovery : DiscoveryConfig} {networkId : UInt32} {names : List String}
    (derived : discovery.rendezvousNamespaces blake3 networkId = .ok names) : names ≠ [] := by
  unfold rendezvousNamespaces at derived
  split_ifs at derived with tagged
  · rw [bind_ok_iff] at derived
    obtain ⟨all, found, returned⟩ := derived
    rw [← Except.ok.inj returned]
    have tags : discovery.namespaces.tags ≠ [] := by
      simpa [DiscoveryNamespaceConfig.isEnabled] using tagged
    simpa using discovery.namespaces.derivedNamespaces_ne_nil tags found
  · rw [bind_ok_iff] at derived
    obtain ⟨item, _, returned⟩ := derived
    rw [← Except.ok.inj returned]
    exact List.cons_ne_nil _ _
  · rw [← Except.ok.inj derived]
    exact List.cons_ne_nil _ _

/-- The default section without public peers, for the namespaces of an application and the operator's name. -/
def plain (namespaces : DiscoveryNamespaceConfig) (name : String) : DiscoveryConfig where
  peerCachePath := ".p2p-net-peer-cache.json"
  peerCacheMaxEntries := 64
  peerIdentityMaxAgeSecs := 2592000
  peerCachePublicAddrMaxAgeSecs := 600
  peerCacheRelayAddrMaxAgeSecs := 7200
  namespaces
  lan := ⟨true, 44777, 2⟩
  publicBootstrap := ⟨.disabled, [], [], []⟩
  dht := .default
  relayDiscovery := ⟨true, true, true, true, true, 3, 8⟩
  rendezvous := ⟨true, false, name, 7200, 7200, 259200, 1000, 100000, 10000⟩

end DiscoveryConfig

end P2pNet.Connectivity
