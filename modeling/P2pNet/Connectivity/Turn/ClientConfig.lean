/-
**Where a browser gets TURN servers** (`crates/connectivity/turn/config/client.rs`, with the endpoints of
`crates/connectivity/turn/provider/http.rs` and the secrets of `crates/connectivity/turn/secret.rs`).

The reader of URLs is not part of this repository. It gives a scheme and, if there is one, a host.
-/

import P2pNet.Connectivity.Turn.Credentials

namespace P2pNet.Connectivity.Turn

open Lib

/-- Most ICE servers handed to one `RTCPeerConnection`. -/
def maxIceServers : ℕ := 8

def defaultMaxServers : ℕ := 4

def cloudflareTurnHost : String := "turn.cloudflare.com"

/-! ### Secrets and endpoints -/

inductive SecretRef
  | env (name : String)
  | file (path : String)
  | value (secret : String)
  deriving DecidableEq

def SecretRef.raw : SecretRef → String
  | env raw | file raw | value raw => raw

def SecretRef.validate (secret : SecretRef) (field : String) : Except NetError Unit :=
  rejectIf (Text.trim secret.raw = "") (configError s!"{field} must not be empty")

structure HttpProviderConfig where
  url : String
  bearerToken : Option SecretRef
  timeoutSecs : ℕ
  deriving DecidableEq

/-- What is read of a `url::Url`. -/
structure ParsedUrl where
  scheme : String
  host : Option String

def validateTimeout (field : String) (timeoutSecs : ℕ) : Except NetError Unit :=
  rejectIf (¬ (1 ≤ timeoutSecs ∧ timeoutSecs ≤ 30)) (configError s!"{field}.timeout_secs must be between 1 and 30")

def validateTtl (field : String) (ttl : ℕ) : Except NetError Unit :=
  rejectIf (¬ (minCredentialTtlSecs ≤ ttl ∧ ttl ≤ maxCredentialTtlSecs))
    (configError s!"{field} must be between {minCredentialTtlSecs} and {maxCredentialTtlSecs}")

section Endpoints

variable (parseUrl : String → Except String ParsedUrl)

/-- HTTPS, or plain HTTP to a loopback development host. -/
def validateEndpointUrl (field raw : String) : Except NetError Unit := do
  let url ← (parseUrl raw).mapError fun err => configError s!"{field} `{raw}` is not a URL: {err}"
  let localDev := url.scheme = "http" ∧
    (url.host = some "localhost" ∨ url.host = some "127.0.0.1" ∨ url.host = some "[::1]")
  rejectIf (url.scheme ≠ "https" ∧ ¬ localDev)
    (configError s!"{field} must use https (http is allowed only for localhost)")

def HttpProviderConfig.validate (endpoint : HttpProviderConfig) (field : String) : Except NetError Unit := do
  validateEndpointUrl parseUrl s!"{field}.url" endpoint.url
  match endpoint.bearerToken with
  | some token => token.validate s!"{field}.bearer_token"
  | none => pure ()
  validateTimeout field endpoint.timeoutSecs

end Endpoints

/-! ### The configuration -/

inductive TurnSource
  | libp2p
  | selfHosted
  | cloudflare
  | http
  deriving DecidableEq

namespace TurnSource

/-- Your own servers, then servers found on the network, then endpoints. -/
def autoOrder : List TurnSource := [selfHosted, libp2p, http, cloudflare]

def asStr : TurnSource → String
  | libp2p => "libp2p"
  | selfHosted => "self_hosted"
  | cloudflare => "cloudflare"
  | http => "http"

def configKey : TurnSource → String
  | libp2p => "auto_discover"
  | selfHosted => "servers"
  | cloudflare => "cloudflare"
  | http => "http"

def missingHint : TurnSource → String
  | libp2p => " (turn.client.auto_discover is false)"
  | selfHosted => " (turn.client.servers is empty)"
  | cloudflare =>
    " (set turn.client.cloudflare.url to a credential endpoint such as providers/turn/cloudflare)"
  | http => " (set turn.client.http.url)"

end TurnSource

/-- Which broker peers' TURN servers a browser accepts. -/
inductive DiscoveryTrust
  | sameHost
  | any
  deriving DecidableEq

structure TurnClientConfig where
  enabled : Bool
  autoDiscover : Bool
  providers : Option (List TurnSource)
  servers : List IceServer
  cloudflare : Option HttpProviderConfig
  http : Option HttpProviderConfig
  discoveryTrust : DiscoveryTrust
  trustedHosts : List String
  maxServers : ℕ
  credentialTtlSecs : ℕ
  deriving DecidableEq

namespace TurnClientConfig

/-- `default`. -/
def standard : TurnClientConfig where
  enabled := true
  autoDiscover := true
  providers := none
  servers := []
  cloudflare := none
  http := none
  discoveryTrust := .sameHost
  trustedHosts := []
  maxServers := defaultMaxServers
  credentialTtlSecs := defaultCredentialTtlSecs

variable (cfg : TurnClientConfig)

/-- The endpoint behind an endpoint source. -/
def endpoint : TurnSource → Option HttpProviderConfig
  | .cloudflare => cfg.cloudflare
  | .http => cfg.http
  | .libp2p | .selfHosted => none

def isConfigured (source : TurnSource) : Bool :=
  match source with
  | .libp2p => cfg.autoDiscover
  | .selfHosted => !cfg.servers.isEmpty
  | .cloudflare | .http => (cfg.endpoint source).isSome

/-- Active sources in preference order. -/
def sources : List TurnSource :=
  if !cfg.enabled then []
  else match cfg.providers with
    | some explicit => explicit
    | none => TurnSource.autoOrder.filter cfg.isConfigured

def hasExplicitSources : Bool :=
  cfg.providers.isSome || [TurnSource.selfHosted, .cloudflare, .http].any cfg.isConfigured

/-- How far broker-offered servers are trusted; `none` when the `libp2p` source is off. -/
def discovery : Option DiscoveryTrust :=
  if cfg.sources.contains .libp2p then some cfg.discoveryTrust else none

/-- Hosts accepted from broker peers under `same_host`, lower-cased, sorted and without repetitions. -/
def acceptedProviderHosts : List String :=
  let hosts := cfg.trustedHosts.map (fun host => Text.toAsciiLowercase (Text.trim host)) ++ [cloudflareTurnHost]
  (hosts.insertionSort (· ≤ ·)).destutter (· ≠ ·)

/-- One entry of `turn.client.servers`. -/
def validateServer (server : IceServer) (index : ℕ) : Except NetError Unit := do
  let field := s!"turn.client.servers[{index}]"
  server.validate field
  rejectIf (server.isTurn = false) (configError
    s!"{field} has no turn:/turns: url; STUN servers belong in browser_webrtc.stun.servers")

/-- A source that an explicit list names must be configured. -/
def validateListed (source : TurnSource) : Except NetError Unit :=
  let name := source.asStr
  let hint := source.missingHint
  rejectIf (cfg.isConfigured source = false)
    (configError s!"turn.client.providers lists `{name}`, which is not configured{hint}")

/-- A configured source must be named by an explicit list. -/
def validateUnlisted (explicit : List TurnSource) (source : TurnSource) : Except NetError Unit :=
  let key := source.configKey
  let name := source.asStr
  rejectIf (cfg.isConfigured source = true ∧ source ∉ explicit)
    (configError s!"turn.client.{key} is configured but `{name}` is missing from turn.client.providers")

def validateExplicitSources (explicit : List TurnSource) : Except NetError Unit := do
  rejectIf (explicit = []) (configError
    "turn.client.providers must not be empty; set turn.client.enabled to false to use no TURN")
  -- what is left after sorting and removing repetitions is as long as the list of different sources
  rejectIf (explicit.dedup.length ≠ explicit.length) (configError "turn.client.providers lists a source twice")
  explicit.forM cfg.validateListed
  [TurnSource.selfHosted, .cloudflare, .http].forM (cfg.validateUnlisted explicit)

section Validation

variable (parseUrl : String → Except String ParsedUrl)

/-- Client endpoints are fetched by browsers, so they must not carry secrets. -/
def validateBrowserEndpoint (source : TurnSource) : Except NetError Unit :=
  match cfg.endpoint source with
  | none => .ok ()
  | some endpoint => do
    let key := source.configKey
    let field := s!"turn.client.{key}"
    rejectIf (endpoint.bearerToken.isSome = true) (configError
      s!"{field}.bearer_token would be shipped to every browser; protect the endpoint with ALLOWED_ORIGINS and rate limits, or put the provider on a broker node (turn.broker.provider)")
    endpoint.validate parseUrl field

def validate : Except NetError Unit := do
  rejectIf (cfg.enabled = false ∧ cfg.hasExplicitSources = true) (configError
    "turn.client.enabled is false but TURN sources are configured; remove them or enable the client")
  cfg.servers.zipIdx.forM fun entry => validateServer entry.1 entry.2
  [TurnSource.cloudflare, .http].forM (cfg.validateBrowserEndpoint parseUrl)
  match cfg.providers with
  | some explicit => cfg.validateExplicitSources explicit
  | none => pure ()
  rejectIf (¬ (1 ≤ cfg.maxServers ∧ cfg.maxServers ≤ maxIceServers))
    (configError s!"turn.client.max_servers must be between 1 and {maxIceServers}")
  rejectIf (cfg.trustedHosts.any (fun host => Text.trim host = "") = true)
    (configError "turn.client.trusted_hosts must not contain empty hosts")
  validateTtl "turn.client.credential_ttl_secs" cfg.credentialTtlSecs

end Validation

end TurnClientConfig

example : TurnClientConfig.standard.sources = [.libp2p] ∧
    TurnClientConfig.standard.acceptedProviderHosts = ["turn.cloudflare.com"] := by decide

end P2pNet.Connectivity.Turn
