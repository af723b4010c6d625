/-
**The TURN servers of a browser** (`TurnClientState` of `crates/connectivity/turn/client.rs`).

Static servers, credential endpoints and broker peers are merged in the configured order into one bounded list. What a
broker offers is judged when it is accepted, by the hosts under which the broker is connected at that time; the hosts
may be forgotten later while the servers stay until they expire.
-/

import P2pNet.Lib.Run
import P2pNet.Lib.Table
import P2pNet.Lib.Firsts
import P2pNet.Connectivity.Dnsaddr
import P2pNet.Connectivity.Turn.ClientConfig

set_option linter.unusedSectionVars false

namespace P2pNet.Connectivity.Turn

open Lib

/-- Minimum spacing between credential requests to the same broker. -/
def requestCooldown : ℕ := secs 60

def maxHostsPerPeer : ℕ := 8

def maxTrackedPeers : ℕ := 256

/-- Outcome of a broker peer's credential offer. -/
structure BrokerOffer where
  accepted : ℕ
  rejected : ℕ
  deriving DecidableEq

structure TurnClientState (PeerId : Type) where
  sources : List TurnSource
  staticServers : List IceServer
  discovery : Option DiscoveryTrust
  acceptedHosts : List String
  maxServers : ℕ
  ttlSecs : ℕ
  endpoints : Table TurnSource LearnedServers
  brokers : Table PeerId LearnedServers
  peerHosts : Table PeerId (List String)
  requestedAt : Table PeerId ℕ
  unsupported : Finset PeerId

/-! ### Hosts of addresses -/

section Hosts

variable {PeerId Addr : Type} [Multiaddr PeerId Addr]

/-- The host in a component, a name in lower case. -/
def hostOf (protocol : Protocol PeerId) : Option String :=
  match protocol with
  | .other text =>
    (Text.stripPrefix text "/ip4/").or ((Text.stripPrefix text "/ip6/").or
      ((dnsHostOf protocol).map fun name => Text.toAsciiLowercase name.1))
  | _ => none

def multiaddrHost (addr : Addr) : Option String := (Multiaddr.iter addr).findSome? hostOf

/-- The host that a connection vouches for; relayed connections say nothing. -/
def directHost [DecidableEq PeerId] (remote : Addr) : Option String :=
  if (Multiaddr.iter remote).any (· = .p2pCircuit) then none else multiaddrHost remote

end Hosts

/-! ### The operations -/

section Operations

variable {PeerId Addr : Type} [PeerIdentity PeerId] [Multiaddr PeerId Addr]

/-- The loop of `effective`. -/
def mergeLoop (limit : ℕ) : List IceServer → List IceServer → List IceServer
  | [], out => out
  | server :: rest, out =>
    if out.length = limit then out else mergeLoop limit rest (pushUniqueBy IceServer.urls out server)

namespace TurnClientState

variable (PeerId) in
def new (cfg : TurnClientConfig) : TurnClientState PeerId where
  sources := cfg.sources
  staticServers := if cfg.sources.contains .selfHosted then cfg.servers else []
  discovery := cfg.discovery
  acceptedHosts := cfg.acceptedProviderHosts
  maxServers := cfg.maxServers
  ttlSecs := cfg.credentialTtlSecs
  endpoints := ∅
  brokers := ∅
  peerHosts := ∅
  requestedAt := ∅
  unsupported := ∅

variable (s : TurnClientState PeerId)

/-- The hosts remembered for a peer. -/
def hosts (peer : PeerId) : List String := (s.peerHosts.lookup peer).getD []

/-- `note_connection` once the host is known. -/
def noteHost (peer : PeerId) (host : String) : TurnClientState PeerId :=
  if s.peerHosts.lookup peer = none ∧ s.peerHosts.entries.length ≥ maxTrackedPeers then s
  else
    let hosts := s.hosts peer
    let noted := if host ∉ hosts ∧ hosts.length < maxHostsPerPeer then hosts ++ [host] else hosts
    { s with peerHosts := s.peerHosts.insert peer noted }

def noteConnection (peer : PeerId) (remote : Addr) : TurnClientState PeerId :=
  match directHost remote with
  | none => s
  | some host => s.noteHost peer host

/-- The last connection to a peer closed. -/
def forgetPeer (peer : PeerId) : TurnClientState PeerId :=
  { s with peerHosts := s.peerHosts.erase peer, requestedAt := s.requestedAt.erase peer }

/-- Was the peer asked within the cooldown? -/
def recentlyAsked (peer : PeerId) (now : ℕ) : Bool :=
  (s.requestedAt.lookup peer).any fun asked => decide (now - asked < requestCooldown)

/-- Are there credentials of the peer that are not due? -/
def stillFresh (peer : PeerId) (now : ℕ) : Bool :=
  (s.brokers.lookup peer).any fun learned => decide (learned.refreshAt > now)

/-- Decide whether to ask a peer for credentials now. Records the request. -/
def shouldRequest (peer : PeerId) (now : ℕ) : Bool × TurnClientState PeerId :=
  if s.discovery = none ∨ peer ∈ s.unsupported then (false, s)
  else if s.recentlyAsked peer now || s.stillFresh peer now then (false, s)
  else (true, { s with requestedAt := s.requestedAt.insert peer now })

def markUnsupported (peer : PeerId) : TurnClientState PeerId :=
  { s with unsupported := insert peer s.unsupported, requestedAt := s.requestedAt.erase peer }

/-- Connected brokers whose credentials are due for a refresh. -/
def brokersDue (now : ℕ) : List PeerId :=
  ((Table.inKeyOrder s.brokers).filter fun entry =>
    decide (entry.2.refreshAt ≤ now) && (s.peerHosts.lookup entry.1).isSome).map Prod.fst

def hostAllowed (peer : PeerId) (server : IceServer) : Bool :=
  match s.discovery with
  | none => false
  | some .any => true
  | some .sameHost => server.hosts.all fun host => s.acceptedHosts.contains host || (s.hosts peer).contains host

/-- What is left of an offer. -/
def keptOffer (peer : PeerId) (credentials : TurnCredentials) : TurnCredentials :=
  let sanitized := credentials.sanitize.2
  { sanitized with iceServers := sanitized.iceServers.filter (s.hostAllowed peer) }

/-- Keep the offered servers this node's policy accepts. -/
def acceptFromBroker (peer : PeerId) (credentials : TurnCredentials) (now : ℕ) :
    BrokerOffer × TurnClientState PeerId :=
  let (dropped, sanitized) := credentials.sanitize
  let offered := sanitized.iceServers.length
  let kept := s.keptOffer peer credentials
  let accepted := kept.iceServers.length
  (⟨accepted, dropped + offered - accepted⟩,
    if accepted > 0 then { s with brokers := s.brokers.insert peer (.new kept now) } else s)

/-- Store fresh credentials from an endpoint source. -/
def acceptFromEndpoint (source : TurnSource) (credentials : TurnCredentials) (now : ℕ) : TurnClientState PeerId :=
  { s with endpoints := s.endpoints.insert source (.new credentials now) }

/-- Drop expired credentials. True when the effective list changed. -/
def prune (now : ℕ) : Bool × TurnClientState PeerId :=
  let before := s.brokers.entries.length + s.endpoints.entries.length
  let brokers := Table.retain (fun _ learned => decide (learned.expiresAt > now)) s.brokers
  let endpoints := Table.retain (fun _ learned => decide (learned.expiresAt > now)) s.endpoints
  (decide (before ≠ brokers.entries.length + endpoints.entries.length), { s with brokers, endpoints })

def serversFrom (source : TurnSource) : List IceServer :=
  match source with
  | .selfHosted => s.staticServers
  | .libp2p => (Table.inKeyOrder s.brokers).flatMap fun entry => entry.2.servers
  | .cloudflare | .http => (s.endpoints.lookup source).toList.flatMap LearnedServers.servers

/-- Servers from every active source in source order; duplicates removed and capped at `max_servers`. -/
def effective : List IceServer := mergeLoop s.maxServers (s.sources.flatMap s.serversFrom) []

end TurnClientState

/-! ### Runs -/

/-- The operations that change the state. -/
inductive ClientInput (PeerId Addr : Type)
  | noteConnection (peer : PeerId) (remote : Addr)
  | forgetPeer (peer : PeerId)
  | shouldRequest (peer : PeerId) (now : ℕ)
  | markUnsupported (peer : PeerId)
  | acceptFromBroker (peer : PeerId) (credentials : TurnCredentials) (now : ℕ)
  | acceptFromEndpoint (source : TurnSource) (credentials : TurnCredentials) (now : ℕ)
  | prune (now : ℕ)

inductive ClientOutput
  | none
  | shouldRequest (ask : Bool)
  | offer (offer : BrokerOffer)
  | pruned (changed : Bool)
  deriving DecidableEq

def clientStep (s : TurnClientState PeerId) : ClientInput PeerId Addr → ClientOutput × TurnClientState PeerId
  | .noteConnection peer remote => (.none, s.noteConnection peer remote)
  | .forgetPeer peer => (.none, s.forgetPeer peer)
  | .shouldRequest peer now => ((s.shouldRequest peer now).map .shouldRequest id)
  | .markUnsupported peer => (.none, s.markUnsupported peer)
  | .acceptFromBroker peer credentials now => ((s.acceptFromBroker peer credentials now).map .offer id)
  | .acceptFromEndpoint source credentials now => (.none, s.acceptFromEndpoint source credentials now)
  | .prune now => ((s.prune now).map .pruned id)

/-! ### The merged list -/

theorem length_pushUniqueBy_le (out : List IceServer) (server : IceServer) :
    (pushUniqueBy IceServer.urls out server).length ≤ out.length + 1 := by
  unfold pushUniqueBy
  split_ifs
  · exact Nat.le_succ _
  · rw [List.length_append, List.length_singleton]

theorem mergeLoop_eq {limit : ℕ} (servers : List IceServer) {out : List IceServer} (within : out.length ≤ limit) :
    mergeLoop limit servers out = (servers.foldl (pushUniqueBy IceServer.urls) out).take limit := by
  induction servers generalizing out with
  | nil => exact (List.take_of_length_le within).symm
  | cons server rest ih =>
    unfold mergeLoop
    split_ifs with full
    · rw [foldl_pushUniqueBy, ← full, List.take_left]
    · rw [List.foldl_cons]
      have room := length_pushUniqueBy_le out server
      exact ih (by omega)

namespace TurnClientState

/-- **The merged list**: of the servers in source order, the first ones with different URLs. -/
theorem effective_eq (s : TurnClientState PeerId) :
    s.effective = (firstsBy IceServer.urls (s.sources.flatMap s.serversFrom)).take s.maxServers := by
  unfold effective
  rw [mergeLoop_eq _ (Nat.zero_le _), foldl_pushUniqueBy]
  simp

theorem effective_sublist (s : TurnClientState PeerId) :
    s.effective.Sublist (s.sources.flatMap s.serversFrom) := by
  rw [effective_eq]
  exact (List.take_sublist _ _).trans (firstsBy_sublist _ _)

theorem length_effective_le (s : TurnClientState PeerId) : s.effective.length ≤ s.maxServers := by
  rw [effective_eq]
  exact List.length_take_le _ _

theorem nodup_urls_effective (s : TurnClientState PeerId) : (s.effective.map IceServer.urls).Nodup := by
  rw [effective_eq]
  exact (nodup_map_firstsBy _ _).sublist ((List.take_sublist _ _).map _)

/-- A returned server is a static one or stands in a set that some source handed over. -/
theorem mem_effective {s : TurnClientState PeerId} {server : IceServer} (returned : server ∈ s.effective) :
    server ∈ s.staticServers ∨
      (∃ peer learned, s.brokers.lookup peer = some learned ∧ server ∈ learned.servers) ∨
      ∃ source learned, s.endpoints.lookup source = some learned ∧ server ∈ learned.servers := by
  obtain ⟨source, _, offered⟩ := List.mem_flatMap.mp (s.effective_sublist.subset returned)
  have endpoint : server ∈ (s.endpoints.lookup source).toList.flatMap LearnedServers.servers →
      ∃ source learned, s.endpoints.lookup source = some learned ∧ server ∈ learned.servers := by
    intro member
    obtain ⟨learned, stored, inside⟩ := List.mem_flatMap.mp member
    exact ⟨source, learned, Option.mem_toList.mp stored, inside⟩
  cases source with
  | selfHosted => exact .inl offered
  | libp2p =>
    obtain ⟨⟨peer, learned⟩, stored, inside⟩ := List.mem_flatMap.mp offered
    exact .inr (.inl ⟨peer, learned, Table.mem_inKeyOrder.mp stored, inside⟩)
  | cloudflare => exact .inr (.inr (endpoint offered))
  | http => exact .inr (.inr (endpoint offered))

/-- A pruning keeps the sets that have not expired. -/
theorem lookup_prune_brokers (s : TurnClientState PeerId) (now : ℕ) (peer : PeerId) :
    (s.prune now).2.brokers.lookup peer
      = (s.brokers.lookup peer).filter fun learned => decide (learned.expiresAt > now) :=
  Table.lookup_retain _ _ _

theorem lookup_prune_endpoints (s : TurnClientState PeerId) (now : ℕ) (source : TurnSource) :
    (s.prune now).2.endpoints.lookup source
      = (s.endpoints.lookup source).filter fun learned => decide (learned.expiresAt > now) :=
  Table.lookup_retain _ _ _

/-! ### What one operation does -/

/-- What no operation changes. -/
structure Fixed (s s' : TurnClientState PeerId) : Prop where
  sources : s'.sources = s.sources
  staticServers : s'.staticServers = s.staticServers
  discovery : s'.discovery = s.discovery
  acceptedHosts : s'.acceptedHosts = s.acceptedHosts
  maxServers : s'.maxServers = s.maxServers

theorem noteConnection_eq (s : TurnClientState PeerId) (peer : PeerId) (remote : Addr) :
    ∃ peerHosts, s.noteConnection peer remote = { s with peerHosts } := by
  unfold noteConnection
  split
  · exact ⟨s.peerHosts, rfl⟩
  · rename_i host _
    unfold noteHost
    by_cases full : s.peerHosts.lookup peer = none ∧ s.peerHosts.entries.length ≥ maxTrackedPeers
    · exact ⟨s.peerHosts, if_pos full⟩
    · exact ⟨_, if_neg full⟩

theorem shouldRequest_eq (s : TurnClientState PeerId) (peer : PeerId) (now : ℕ) :
    ∃ requestedAt, (s.shouldRequest peer now).2 = { s with requestedAt } := by
  unfold shouldRequest
  split_ifs
  · exact ⟨s.requestedAt, rfl⟩
  · exact ⟨s.requestedAt, rfl⟩
  · exact ⟨_, rfl⟩

theorem acceptFromBroker_eq (s : TurnClientState PeerId) (peer : PeerId) (credentials : TurnCredentials) (now : ℕ) :
    (s.acceptFromBroker peer credentials now).2 = if (s.keptOffer peer credentials).iceServers.length > 0
      then { s with brokers := s.brokers.insert peer (.new (s.keptOffer peer credentials) now) } else s := rfl

end TurnClientState

open TurnClientState

variable (s : TurnClientState PeerId)

/-- **What one operation does** to the servers: nothing, a kept offer, fetched credentials or a pruning. -/
theorem clientStep_cases (input : ClientInput PeerId Addr) :
    (∃ peerHosts requestedAt unsupported, (clientStep s input).2 = { s with peerHosts, requestedAt, unsupported }) ∨
    (∃ peer credentials now, input = .acceptFromBroker peer credentials now ∧ (clientStep s input).2
      = { s with brokers := s.brokers.insert peer (.new (s.keptOffer peer credentials) now) }) ∨
    (∃ source credentials now, input = .acceptFromEndpoint source credentials now ∧
      (clientStep s input).2 = s.acceptFromEndpoint source credentials now) ∨
    ∃ now, input = .prune now ∧ (clientStep s input).2 = (s.prune now).2 := by
  cases input with
  | noteConnection peer remote =>
    obtain ⟨peerHosts, same⟩ := s.noteConnection_eq peer remote
    exact .inl ⟨peerHosts, s.requestedAt, s.unsupported, same⟩
  | forgetPeer peer => exact .inl ⟨_, _, s.unsupported, rfl⟩
  | shouldRequest peer now =>
    obtain ⟨requestedAt, same⟩ := s.shouldRequest_eq peer now
    exact .inl ⟨s.peerHosts, requestedAt, s.unsupported, same⟩
  | markUnsupported peer => exact .inl ⟨s.peerHosts, _, _, rfl⟩
  | acceptFromBroker peer credentials now =>
    by_cases some : (s.keptOffer peer credentials).iceServers.length > 0
    · exact .inr (.inl ⟨peer, credentials, now, rfl, (s.acceptFromBroker_eq peer credentials now).trans (if_pos some)⟩)
    · exact .inl ⟨s.peerHosts, s.requestedAt, s.unsupported,
        (s.acceptFromBroker_eq peer credentials now).trans (if_neg some)⟩
  | acceptFromEndpoint source credentials now => exact .inr (.inr (.inl ⟨source, credentials, now, rfl, rfl⟩))
  | prune now => exact .inr (.inr (.inr ⟨now, rfl, rfl⟩))

theorem clientStep_fixed (input : ClientInput PeerId Addr) : Fixed s (clientStep s input).2 := by
  rcases clientStep_cases s input with
    ⟨_, _, _, same⟩ | ⟨_, _, _, _, same⟩ | ⟨_, _, _, _, same⟩ | ⟨_, _, same⟩
  all_goals
    rw [same]
    exact ⟨rfl, rfl, rfl, rfl, rfl⟩

/-- **A stored set of a broker** was there before or is what is left of an offer. -/
theorem lookup_brokers_step {s : TurnClientState PeerId} {input : ClientInput PeerId Addr} {peer : PeerId}
    {learned : LearnedServers} (stored : (clientStep s input).2.brokers.lookup peer = some learned) :
    s.brokers.lookup peer = some learned ∨ ∃ credentials now, input = .acceptFromBroker peer credentials now ∧
      learned = .new (s.keptOffer peer credentials) now := by
  rcases clientStep_cases s input with
    ⟨_, _, _, same⟩ | ⟨other, credentials, now, rfl, same⟩ | ⟨_, _, _, _, same⟩ | ⟨now, _, same⟩
  · rw [same] at stored
    exact .inl stored
  · rw [same, Table.lookup_insert_eq] at stored
    split_ifs at stored with mine
    · subst mine
      exact .inr ⟨credentials, now, rfl, (Option.some.inj stored).symm⟩
    · exact .inl stored
  · rw [same] at stored
    exact .inl stored
  · rw [same, lookup_prune_brokers] at stored
    exact .inl (Option.filter_eq_some_iff.mp stored).1

/-- **A stored set of an endpoint** was there before or has just been fetched. -/
theorem lookup_endpoints_step {s : TurnClientState PeerId} {input : ClientInput PeerId Addr} {source : TurnSource}
    {learned : LearnedServers} (stored : (clientStep s input).2.endpoints.lookup source = some learned) :
    s.endpoints.lookup source = some learned ∨ ∃ credentials now,
      input = .acceptFromEndpoint source credentials now ∧ learned = .new credentials now := by
  rcases clientStep_cases s input with
    ⟨_, _, _, same⟩ | ⟨_, _, _, _, same⟩ | ⟨other, credentials, now, rfl, same⟩ | ⟨now, _, same⟩
  · rw [same] at stored
    exact .inl stored
  · rw [same] at stored
    exact .inl stored
  · rw [same, acceptFromEndpoint, Table.lookup_insert_eq] at stored
    split_ifs at stored with mine
    · subst mine
      exact .inr ⟨credentials, now, rfl, (Option.some.inj stored).symm⟩
    · exact .inl stored
  · rw [same, lookup_prune_endpoints] at stored
    exact .inl (Option.filter_eq_some_iff.mp stored).1

/-! ### The hosts of a peer -/

/-- The hosts of the direct connections to a peer since it was last forgotten, by one more operation. -/
def noteInput (peer : PeerId) (hosts : List String) : ClientInput PeerId Addr → List String
  | .noteConnection other remote => if other = peer then hosts ++ (directHost remote).toList else hosts
  | .forgetPeer other => if other = peer then [] else hosts
  | _ => hosts

/-- The hosts of the direct connections to a peer that were noted since the peer was last forgotten. -/
def notedHosts (peer : PeerId) (inputs : List (ClientInput PeerId Addr)) : List String :=
  inputs.foldl (noteInput peer) []

theorem notedHosts_concat (peer : PeerId) (inputs : List (ClientInput PeerId Addr)) (input : ClientInput PeerId Addr) :
    notedHosts peer (inputs ++ [input]) = noteInput peer (notedHosts peer inputs) input := by
  unfold notedHosts
  rw [List.foldl_append]
  rfl

theorem noteInput_subset (peer : PeerId) {hosts hosts' : List String} (within : hosts ⊆ hosts')
    (input : ClientInput PeerId Addr) : noteInput peer hosts input ⊆ noteInput peer hosts' input := by
  unfold noteInput
  split
  · split_ifs
    · exact List.append_subset.mpr ⟨List.Subset.trans within (List.subset_append_left _ _), List.subset_append_right _ _⟩
    · exact within
  · split_ifs
    · exact List.Subset.refl _
    · exact within
  · exact within

theorem hosts_noteHost (peer other : PeerId) (host : String) :
    (s.noteHost other host).hosts peer ⊆ if other = peer then s.hosts peer ++ [host] else s.hosts peer := by
  unfold noteHost
  by_cases full : s.peerHosts.lookup other = none ∧ s.peerHosts.entries.length ≥ maxTrackedPeers
  · rw [if_pos full]
    split_ifs
    · exact List.subset_append_left _ _
    · exact List.Subset.refl _
  · rw [if_neg full]
    unfold TurnClientState.hosts
    dsimp only
    rw [Table.lookup_insert_eq]
    by_cases mine : other = peer
    · subst mine
      rw [if_pos rfl, if_pos rfl, Option.getD_some]
      split_ifs
      · exact List.Subset.refl _
      · exact List.subset_append_left _ _
    · rw [if_neg (Ne.symm mine), if_neg mine]
      exact List.Subset.refl _

/-- **The remembered hosts** are among those of the direct connections. -/
theorem hosts_clientStep (peer : PeerId) (input : ClientInput PeerId Addr) :
    (clientStep s input).2.hosts peer ⊆ noteInput peer (s.hosts peer) input := by
  cases input with
  | noteConnection other remote =>
    show (s.noteConnection other remote).hosts peer ⊆ if other = peer then s.hosts peer ++ _ else s.hosts peer
    unfold noteConnection
    cases directHost remote with
    | none =>
      rw [Option.toList_none, List.append_nil, ite_self]
      exact List.Subset.refl _
    | some host => exact hosts_noteHost s peer other host
  | forgetPeer other =>
    show ((s.peerHosts.erase other).lookup peer).getD [] ⊆ if other = peer then [] else s.hosts peer
    rw [Table.lookup_erase_eq]
    by_cases mine : other = peer
    · rw [if_pos mine.symm, if_pos mine, Option.getD_none]
      exact List.Subset.refl _
    · rw [if_neg (Ne.symm mine), if_neg mine]
      exact List.Subset.refl _
  | shouldRequest other now =>
    obtain ⟨requestedAt, same⟩ := s.shouldRequest_eq other now
    show (s.shouldRequest other now).2.hosts peer ⊆ s.hosts peer
    rw [same]
    exact List.Subset.refl _
  | acceptFromBroker other credentials now =>
    show (s.acceptFromBroker other credentials now).2.hosts peer ⊆ s.hosts peer
    rw [acceptFromBroker_eq]
    split_ifs
    · exact List.Subset.refl _
    · exact List.Subset.refl _
  | markUnsupported other => exact List.Subset.refl _
  | acceptFromEndpoint source credentials now => exact List.Subset.refl _
  | prune now => exact List.Subset.refl _

/-! ### Justifications -/

section Justifications

variable (cfg : TurnClientConfig) (inputs : List (ClientInput PeerId Addr))

/-- Every URL can be read, and its host is an accepted one or one under which the peer is directly connected. -/
def HostsVouched (peer : PeerId) (server : IceServer) : Prop :=
  ∀ url ∈ server.urls, ∃ parsed, IceUrl.parse url = .ok parsed ∧
    (parsed.host ∈ cfg.acceptedProviderHosts ∨ parsed.host ∈ notedHosts peer inputs)

/-- A set of a broker is what was kept of an offer, judged by the hosts at that time. -/
def BrokerGrant (peer : PeerId) (learned : LearnedServers) : Prop :=
  ∃ before credentials now after, inputs = before ++ .acceptFromBroker peer credentials now :: after ∧
    learned.expiresAt = now + secs credentials.ttlSecs ∧ ∀ server ∈ learned.servers,
      server ∈ credentials.iceServers ∧ (cfg.discovery = some .sameHost → HostsVouched cfg before peer server)

/-- A set of an endpoint is what was fetched. -/
def EndpointGrant (source : TurnSource) (learned : LearnedServers) : Prop :=
  ∃ before credentials now after, inputs = before ++ .acceptFromEndpoint source credentials now :: after ∧
    learned.expiresAt = now + secs credentials.ttlSecs ∧ learned.servers = credentials.iceServers

structure Justified (s : TurnClientState PeerId) : Prop where
  fixed : Fixed (new PeerId cfg) s
  hosts : ∀ peer, s.hosts peer ⊆ notedHosts peer inputs
  brokers : ∀ peer learned, s.brokers.lookup peer = some learned → BrokerGrant cfg inputs peer learned
  endpoints : ∀ source learned, s.endpoints.lookup source = some learned → EndpointGrant inputs source learned

variable {cfg inputs}

theorem BrokerGrant.concat {peer : PeerId} {learned : LearnedServers} (grant : BrokerGrant cfg inputs peer learned)
    (input : ClientInput PeerId Addr) : BrokerGrant cfg (inputs ++ [input]) peer learned := by
  obtain ⟨before, credentials, now, after, rfl, kept⟩ := grant
  exact ⟨before, credentials, now, after ++ [input], by simp, kept⟩

theorem EndpointGrant.concat {source : TurnSource} {learned : LearnedServers}
    (grant : EndpointGrant inputs source learned) (input : ClientInput PeerId Addr) :
    EndpointGrant (inputs ++ [input]) source learned := by
  obtain ⟨before, credentials, now, after, rfl, kept⟩ := grant
  exact ⟨before, credentials, now, after ++ [input], by simp, kept⟩

theorem mem_keptOffer {s : TurnClientState PeerId} {peer : PeerId} {credentials : TurnCredentials} {server : IceServer}
    (kept : server ∈ (s.keptOffer peer credentials).iceServers) : server ∈ credentials.iceServers ∧
      server.validate "iceServers" = .ok () ∧ s.hostAllowed peer server = true := by
  obtain ⟨sanitized, allowed⟩ := List.mem_filter.mp kept
  obtain ⟨offered, valid⟩ := TurnCredentials.mem_sanitize sanitized
  exact ⟨offered, valid, allowed⟩

theorem ttlSecs_keptOffer (peer : PeerId) (credentials : TurnCredentials) :
    (s.keptOffer peer credentials).ttlSecs = credentials.ttlSecs := TurnCredentials.ttlSecs_sanitize credentials

/-- **An offer is judged** by the hosts that are remembered when it is accepted. -/
theorem hostsVouched_of_kept (justified : Justified cfg inputs s) (same : cfg.discovery = some .sameHost) {peer : PeerId}
    {credentials : TurnCredentials} {server : IceServer}
    (kept : server ∈ (s.keptOffer peer credentials).iceServers) : HostsVouched cfg inputs peer server := by
  obtain ⟨_, valid, allowed⟩ := mem_keptOffer kept
  have trust : s.discovery = some .sameHost := justified.fixed.discovery.trans same
  unfold hostAllowed at allowed
  rw [trust] at allowed
  rw [List.all_eq_true] at allowed
  intro url member
  obtain ⟨parsed, read, _⟩ := (IceServer.validate_ok_iff.mp valid).2 url member
  refine ⟨parsed, read, ?_⟩
  have known := allowed parsed.host (IceServer.host_mem_hosts member read)
  rw [Bool.or_eq_true, List.contains_iff_mem, List.contains_iff_mem, justified.fixed.acceptedHosts] at known
  exact known.imp_right fun remembered => justified.hosts peer remembered

/-- **Every operation keeps the justifications.** -/
theorem Justified.step (justified : Justified cfg inputs s) (input : ClientInput PeerId Addr) :
    Justified cfg (inputs ++ [input]) (clientStep s input).2 where
  fixed := by
    obtain ⟨sources, staticServers, discovery, acceptedHosts, maxServers⟩ := clientStep_fixed s input
    exact ⟨sources.trans justified.fixed.sources, staticServers.trans justified.fixed.staticServers,
      discovery.trans justified.fixed.discovery, acceptedHosts.trans justified.fixed.acceptedHosts,
      maxServers.trans justified.fixed.maxServers⟩
  hosts peer := by
    rw [notedHosts_concat]
    exact List.Subset.trans (hosts_clientStep s peer input) (noteInput_subset peer (justified.hosts peer) input)
  brokers peer learned stored := by
    rcases lookup_brokers_step stored with earlier | ⟨credentials, now, rfl, rfl⟩
    · exact (justified.brokers peer learned earlier).concat input
    · refine ⟨inputs, credentials, now, [], rfl, congrArg (fun ttl => now + secs ttl) (ttlSecs_keptOffer s peer credentials),
        fun server kept => ⟨(mem_keptOffer kept).1, fun same => hostsVouched_of_kept s justified same kept⟩⟩
  endpoints source learned stored := by
    rcases lookup_endpoints_step stored with earlier | ⟨credentials, now, rfl, rfl⟩
    · exact (justified.endpoints source learned earlier).concat input
    · exact ⟨inputs, credentials, now, [], rfl, rfl, rfl⟩

theorem justified_new (cfg : TurnClientConfig) : Justified cfg ([] : List (ClientInput PeerId Addr)) (new PeerId cfg) where
  fixed := ⟨rfl, rfl, rfl, rfl, rfl⟩
  hosts _ := List.Subset.refl _
  brokers _ _ stored := nomatch stored
  endpoints _ _ stored := nomatch stored

theorem justified_final (cfg : TurnClientConfig) (inputs : List (ClientInput PeerId Addr)) :
    Justified cfg inputs (final clientStep (new PeerId cfg) inputs) :=
  final_induct clientStep (Justified cfg) inputs (justified_new cfg)
    fun _ input _ current _ justified => Justified.step current justified input

end Justifications

/-- **Trust in TURN servers.** After any operations, at most `max_servers` servers with different URLs are returned, in
source order. Each of them is static, or it stands in a set that an endpoint or a broker handed over. If the last
operation was a pruning, none of these sets has expired. And what a broker offered was judged when it was accepted: if
only the same host is trusted, every host of a stored server was an accepted one or one of the direct connections to
that broker since it was last forgotten. -/
theorem effective_trusted (cfg : TurnClientConfig) (inputs : List (ClientInput PeerId Addr)) :
    let s := final clientStep (new PeerId cfg) inputs
    s.effective.length ≤ cfg.maxServers ∧ (s.effective.map IceServer.urls).Nodup ∧
    s.effective.Sublist (cfg.sources.flatMap s.serversFrom) ∧
    (∀ server ∈ s.effective, server ∈ cfg.servers ∨
      (∃ peer learned, s.brokers.lookup peer = some learned ∧ server ∈ learned.servers) ∨
      ∃ source learned, s.endpoints.lookup source = some learned ∧ server ∈ learned.servers) ∧
    (∀ before now, inputs = before ++ [.prune now] →
      (∀ peer learned, s.brokers.lookup peer = some learned → now < learned.expiresAt) ∧
      ∀ source learned, s.endpoints.lookup source = some learned → now < learned.expiresAt) ∧
    (∀ peer learned, s.brokers.lookup peer = some learned → BrokerGrant cfg inputs peer learned) ∧
    ∀ source learned, s.endpoints.lookup source = some learned → EndpointGrant inputs source learned := by
  intro s
  have justified : Justified cfg inputs s := justified_final cfg inputs
  have sources : s.sources = cfg.sources := justified.fixed.sources
  have maxServers : s.maxServers = cfg.maxServers := justified.fixed.maxServers
  refine ⟨maxServers ▸ s.length_effective_le, s.nodup_urls_effective, sources ▸ s.effective_sublist, ?_, ?_,
    justified.brokers, justified.endpoints⟩
  · intro server returned
    refine (mem_effective returned).imp_left fun listed => ?_
    rw [justified.fixed.staticServers] at listed
    unfold new at listed
    dsimp only at listed
    split_ifs at listed
    · exact listed
    · exact absurd listed List.not_mem_nil
  · rintro before now rfl
    have pruned : s = ((final clientStep (new PeerId cfg) before).prune now).2 := final_concat _ _ _ _
    rw [pruned]
    constructor
    · intro peer learned stored
      rw [lookup_prune_brokers] at stored
      exact of_decide_eq_true (Option.filter_eq_some_iff.mp stored).2
    · intro source learned stored
      rw [lookup_prune_endpoints] at stored
      exact of_decide_eq_true (Option.filter_eq_some_iff.mp stored).2

end Operations

/-- The host of the connection and the trusted provider are accepted, another host is not. -/
example :
    let turnAt := fun url : String => (⟨[url], some "u", some "c"⟩ : IceServer)
    let client := (TurnClientState.new KeyPeer .standard).noteConnection ⟨1⟩ (⟨7⟩ : TcpHost)
    (client.acceptFromBroker ⟨1⟩ ⟨[turnAt "turn:203.0.113.7:3478", turnAt "turn:turn.cloudflare.com:3478",
      turnAt "turn:victim.example.net:3478"], some 3600⟩ 0).1 = ⟨2, 1⟩ := by decide

end P2pNet.Connectivity.Turn
