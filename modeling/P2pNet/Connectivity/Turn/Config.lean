/-
**The TURN section** (`crates/connectivity/turn/config.rs`, with the providers of `crates/connectivity/turn/provider.rs`).

A browser's sources (`P2pNet.Connectivity.Turn.ClientConfig`), the built-in server and the credential broker.
-/

import P2pNet.Connectivity.IpText
import P2pNet.Connectivity.Turn.ClientConfig

namespace P2pNet.Connectivity.Turn

open Lib

/-! ### Providers -/

structure CloudflareProviderConfig where
  keyId : String
  apiToken : SecretRef
  apiBase : String
  timeoutSecs : ℕ

structure SharedSecretProviderConfig where
  urls : List String
  secret : SecretRef

inductive TurnProviderConfig
  | http (cfg : HttpProviderConfig)
  | cloudflare (cfg : CloudflareProviderConfig)
  | sharedSecret (cfg : SharedSecretProviderConfig)

/-- URLs are checked with placeholder credentials; real ones are minted. -/
def SharedSecretProviderConfig.validate (cfg : SharedSecretProviderConfig) (field : String) : Except NetError Unit := do
  cfg.secret.validate s!"{field}.secret"
  let template : IceServer := ⟨cfg.urls, some "u", some "c"⟩
  template.validate s!"{field}.urls"
  rejectIf (template.isTurn = false) (configError s!"{field}.urls must include at least one turn: or turns: URL")

section Providers

variable (parseUrl : String → Except String ParsedUrl)

def CloudflareProviderConfig.validate (cfg : CloudflareProviderConfig) (field : String) : Except NetError Unit := do
  rejectIf (cfg.keyId = "" ∨ cfg.keyId.toList.all (fun char => Text.isAsciiAlphanumeric char || char = '-') = false)
    (configError s!"{field}.key_id must be the Cloudflare TURN key ID (letters, digits, '-')")
  cfg.apiToken.validate s!"{field}.api_token"
  validateEndpointUrl parseUrl s!"{field}.api_base" cfg.apiBase
  validateTimeout field cfg.timeoutSecs

def TurnProviderConfig.validate (provider : TurnProviderConfig) (field : String) : Except NetError Unit :=
  match provider with
  | http cfg => cfg.validate parseUrl field
  | cloudflare cfg => cfg.validate parseUrl field
  | sharedSecret cfg => cfg.validate field

end Providers

/-! ### The server and the broker -/

def parseIp (field raw : String) : Except NetError IpAddr :=
  okOr (configError s!"{field} `{raw}` is not an IP address") (IpAddr.parse raw)

structure TurnServerConfig where
  enabled : Bool
  bindIp : String
  listenPort : ℕ
  publicIp : Option String
  publicHost : Option String
  realm : String
  sharedSecret : Option SecretRef
  relayPortMin : ℕ
  relayPortMax : ℕ
  allowPrivatePeers : Bool

namespace TurnServerConfig

/-- `default`. -/
def standard : TurnServerConfig where
  enabled := false
  bindIp := "0.0.0.0"
  listenPort := 3478
  publicIp := none
  publicHost := none
  realm := "p2p-net"
  sharedSecret := none
  relayPortMin := 49160
  relayPortMax := 49359
  allowPrivatePeers := false

def validHost (host : String) : Bool :=
  !host.isEmpty && host.toList.all fun char => Text.isAsciiAlphanumeric char || char = '.' || char = '-'

def validate (cfg : TurnServerConfig) : Except NetError Unit :=
  if !cfg.enabled then .ok ()
  else do
    let _ ← parseIp "turn.server.bind_ip" cfg.bindIp
    match cfg.publicIp with
    | some publicIp => do
      let _ ← parseIp "turn.server.public_ip" publicIp
    | none => pure ()
    rejectIf (cfg.publicHost.any (fun host => !validHost host) = true)
      (configError "turn.server.public_host must be a DNS name")
    rejectIf (cfg.listenPort = 0) (configError "turn.server.listen_port must not be 0")
    rejectIf (Text.trim cfg.realm = "") (configError "turn.server.realm must not be empty")
    match cfg.sharedSecret with
    | some secret => secret.validate "turn.server.shared_secret"
    | none => pure ()
    rejectIf (cfg.relayPortMin < 1024 ∨ cfg.relayPortMin > cfg.relayPortMax)
      (configError "turn.server relay ports need 1024 <= relay_port_min <= relay_port_max")
    rejectIf (cfg.relayPortMin ≤ cfg.listenPort ∧ cfg.listenPort ≤ cfg.relayPortMax)
      (configError "turn.server.listen_port must be outside the relay port range")

end TurnServerConfig

structure TurnBrokerConfig where
  enabled : Bool
  provider : Option TurnProviderConfig
  credentialTtlSecs : ℕ
  maxRequestsPerPeerPerMinute : ℕ

/-- `default`. -/
def TurnBrokerConfig.standard : TurnBrokerConfig where
  enabled := false
  provider := none
  credentialTtlSecs := defaultCredentialTtlSecs
  maxRequestsPerPeerPerMinute := 6

structure TurnConfig where
  client : TurnClientConfig
  server : TurnServerConfig
  broker : TurnBrokerConfig

/-- `default`. -/
def TurnConfig.standard : TurnConfig := ⟨.standard, .standard, .standard⟩

section Validation

variable (parseUrl : String → Except String ParsedUrl)

def TurnBrokerConfig.validate (cfg : TurnBrokerConfig) (serverEnabled : Bool) : Except NetError Unit :=
  if !cfg.enabled then .ok ()
  else do
    match cfg.provider with
    | some provider => provider.validate parseUrl "turn.broker.provider"
    | none =>
      rejectIf (serverEnabled = false)
        (configError "turn.broker.enabled needs turn.broker.provider or turn.server.enabled")
    rejectIf (¬ (1 ≤ cfg.maxRequestsPerPeerPerMinute ∧ cfg.maxRequestsPerPeerPerMinute ≤ 600))
      (configError "turn.broker.max_requests_per_peer_per_minute must be between 1 and 600")
    validateTtl "turn.broker.credential_ttl_secs" cfg.credentialTtlSecs

def TurnConfig.validate (cfg : TurnConfig) : Except NetError Unit := do
  cfg.client.validate parseUrl
  cfg.server.validate
  cfg.broker.validate parseUrl cfg.server.enabled

end Validation

end P2pNet.Connectivity.Turn
