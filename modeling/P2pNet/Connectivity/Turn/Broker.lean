/-
**The credential broker** (`crates/connectivity/turn/broker.rs`, `crates/connectivity/turn/refresh.rs`).

A broker fetches credentials from its sources, keeps them until they expire and answers peers from what it has. Each peer
has a window of a minute in which so many of its requests are admitted. The windows are kept in one table; when it has
4096 entries or more, those that are over are removed before the next one is entered.
-/

import P2pNet.Lib.Run
import P2pNet.Lib.Table
import P2pNet.Lib.RateWindow
import P2pNet.Connectivity.Turn.Config

set_option linter.unusedSectionVars false

namespace P2pNet.Connectivity.Turn

open Lib

/-! ### Refreshing -/

def firstRetry : ℕ := secs 30

def maxRetry : ℕ := secs 600

/-- Fetches run in the background and leave their result in the slot. -/
structure ProviderRefresher where
  providerName : String
  slot : Option (Except String TurnCredentials)
  inFlight : Bool
  nextDue : ℕ
  failures : ℕ

namespace ProviderRefresher

variable (refresher : ProviderRefresher)

def new (providerName : String) (now : ℕ) : ProviderRefresher := ⟨providerName, none, false, now, 0⟩

/-- Start a fetch when one is due and none is running. -/
def startIfDue (now : ℕ) : Bool × ProviderRefresher :=
  if refresher.inFlight = true ∨ now < refresher.nextDue then (false, refresher)
  else (true, { refresher with inFlight := true })

/-- The time until the next fetch, and the number of failures. -/
def delayAfter : Except String TurnCredentials → ℕ × ℕ
  | .ok credentials => (secs credentials.ttlSecs * 3 / 4, 0)
  | .error _ => (min (firstRetry * 2 ^ min refresher.failures 5) maxRetry, min (refresher.failures + 1) (2 ^ 32 - 1))

/-- Collect a finished fetch and schedule the next one. -/
def takeResult (now : ℕ) : Option (Except String TurnCredentials) × ProviderRefresher :=
  match refresher.slot with
  | none => (none, refresher)
  | some result =>
    let (delay, failures) := refresher.delayAfter result
    (some result, { refresher with slot := none, inFlight := false, nextDue := now + delay, failures })

end ProviderRefresher

/-! ### The broker -/

def rateWindow : ℕ := secs 60

def maxRateLimitedPeers : ℕ := 4096

structure CredentialRequest where
  ttlSecs : ℕ
  deriving DecidableEq

inductive CredentialResponse
  | granted (credentials : TurnCredentials)
  | unavailable
  | rateLimited
  deriving DecidableEq

structure TurnBrokerStatus where
  sources : List String
  readySources : ℕ
  granted : ℕ
  rateLimited : ℕ
  unavailable : ℕ
  sourceErrors : ℕ
  lastError : Option String

structure BrokerSource where
  refresher : ProviderRefresher
  cached : Option LearnedServers

structure TurnBrokerState (PeerId : Type) where
  sources : List BrokerSource
  maxPerWindow : ℕ
  windows : Table PeerId RateWindow
  status : TurnBrokerStatus

def TurnProviderConfig.name : TurnProviderConfig → String
  | .http _ => "http"
  | .cloudflare _ => "cloudflare"
  | .sharedSecret _ => "shared_secret"

/-- One source of `maintain`: what was fetched, and the source afterwards. -/
def BrokerSource.maintain (source : BrokerSource) (now : ℕ) : Option (Except String TurnCredentials) × BrokerSource :=
  let (result, refresher) := source.refresher.takeResult now
  let cached := match result with
    | some (.ok credentials) => some (LearnedServers.new credentials now)
    | _ => source.cached
  (result, ⟨(refresher.startIfDue now).2, cached.filter fun learned => decide (now < learned.expiresAt)⟩)

/-- The pulse line for a fetch. -/
def refreshPulse (name : String) : Except String TurnCredentials → String
  | .ok credentials =>
    let servers := credentials.iceServers.length
    let ttl := credentials.ttlSecs
    s!"TURN_BROKER_REFRESHED source={name} servers={servers} ttl={ttl}"
  | .error error => s!"TURN_BROKER_SOURCE_FAILED source={name} error={error}"

def TurnBrokerStatus.noteFetch (status : TurnBrokerStatus) : Except String TurnCredentials → TurnBrokerStatus
  | .ok _ => status
  | .error error => { status with sourceErrors := saturatingAdd status.sourceErrors 1, lastError := some error }

section Operations

variable {PeerId : Type} [DecidableEq PeerId]

namespace TurnBrokerState

variable (s : TurnBrokerState PeerId)

def addSource (provider : TurnProviderConfig) (now : ℕ) : TurnBrokerState PeerId :=
  { s with
    sources := s.sources ++ [⟨.new provider.name now, none⟩]
    status := { s.status with sources := s.status.sources ++ [provider.name] } }

variable (PeerId) in
def new (cfg : TurnBrokerConfig) (now : ℕ) : TurnBrokerState PeerId :=
  let empty : TurnBrokerState PeerId := ⟨[], cfg.maxRequestsPerPeerPerMinute, ∅, ⟨[], 0, 0, 0, 0, 0, none⟩⟩
  match cfg.provider with
  | some provider => empty.addSource provider now
  | none => empty

/-- Start due refreshes and collect finished ones. -/
def maintain (now : ℕ) : List String × TurnBrokerState PeerId :=
  let sources := s.sources.map fun source => (source.maintain now).2
  let fetched := s.sources.filterMap fun source =>
    (source.maintain now).1.map fun result => (source.refresher.providerName, result)
  let status := fetched.foldl (fun status fetch => status.noteFetch fetch.2) s.status
  (fetched.map fun fetch => refreshPulse fetch.1 fetch.2,
    { s with
      sources
      status := { status with readySources := sources.countP fun source => source.cached.isSome } })

/-- The table when a call comes: one that is full loses the windows that are over. -/
def pruned (now : ℕ) : Table PeerId RateWindow :=
  if s.windows.entries.length ≥ maxRateLimitedPeers
  then Table.retain (fun _ window => RateWindow.isRunning rateWindow now window) s.windows
  else s.windows

def admitPeer (peer : PeerId) (now : ℕ) : Bool × TurnBrokerState PeerId :=
  let (admitted, window) := RateWindow.admitCall rateWindow s.maxPerWindow now ((s.pruned now).lookup peer)
  (admitted, { s with windows := (s.pruned now).insert peer window })

/-- The credentials that have not expired. -/
def live (now : ℕ) : List LearnedServers :=
  (s.sources.filterMap BrokerSource.cached).filter fun cached => decide (cached.expiresAt > now)

/-- Answer an admitted request from the cache. -/
def answerAdmitted (now : ℕ) : CredentialResponse × TurnBrokerState PeerId :=
  let live := s.live now
  match (live.map fun cached => asSecs (cached.expiresAt - now)).min? with
  | none => (.unavailable, { s with status := { s.status with unavailable := saturatingAdd s.status.unavailable 1 } })
  | some remaining =>
    (.granted ⟨live.flatMap LearnedServers.servers, some remaining⟩,
      { s with status := { s.status with granted := saturatingAdd s.status.granted 1 } })

/-- Answer one peer request. -/
def answer (peer : PeerId) (now : ℕ) : CredentialResponse × TurnBrokerState PeerId :=
  let (admitted, s) := s.admitPeer peer now
  if admitted then s.answerAdmitted now
  else (.rateLimited, { s with status := { s.status with rateLimited := saturatingAdd s.status.rateLimited 1 } })

/-- A fetch of the source at a place has ended. -/
def fetched (place : ℕ) (result : Except String TurnCredentials) : TurnBrokerState PeerId :=
  { s with sources := s.sources.modify place fun source =>
      { source with refresher := { source.refresher with slot := some result } } }

end TurnBrokerState

inductive BrokerInput (PeerId : Type)
  | answer (peer : PeerId) (now : ℕ)
  | maintain (now : ℕ)
  | fetched (place : ℕ) (result : Except String TurnCredentials)
  | addSource (provider : TurnProviderConfig) (now : ℕ)

inductive BrokerOutput
  | response (response : CredentialResponse)
  | pulses (lines : List String)

def brokerStep (s : TurnBrokerState PeerId) : BrokerInput PeerId → BrokerOutput × TurnBrokerState PeerId
  | .answer peer now => (s.answer peer now).map .response id
  | .maintain now => (s.maintain now).map .pulses id
  | .fetched place result => (.pulses [], s.fetched place result)
  | .addSource provider now => (.pulses [], s.addSource provider now)

/-! ### Answers -/

namespace TurnBrokerState

variable (s : TurnBrokerState PeerId)

theorem answerAdmitted_fixed (now : ℕ) : (s.answerAdmitted now).2.windows = s.windows ∧
    (s.answerAdmitted now).2.maxPerWindow = s.maxPerWindow ∧ (s.answerAdmitted now).1 ≠ .rateLimited := by
  unfold answerAdmitted
  dsimp only
  split
  · exact ⟨rfl, rfl, fun impossible => nomatch impossible⟩
  · exact ⟨rfl, rfl, fun impossible => nomatch impossible⟩

/-- **What an answer does** to the windows, and whether it is a refusal. -/
theorem answer_windows (peer : PeerId) (now : ℕ) :
    (s.answer peer now).2.windows = (s.admitPeer peer now).2.windows ∧
      (s.answer peer now).2.maxPerWindow = s.maxPerWindow ∧
      ((s.answer peer now).1 = .rateLimited ↔ (s.admitPeer peer now).1 = false) := by
  unfold answer
  obtain ⟨windows, limit, granted⟩ := (s.admitPeer peer now).2.answerAdmitted_fixed now
  cases admitted : (s.admitPeer peer now).1 with
  | false =>
    dsimp only
    rw [admitted]
    exact ⟨rfl, rfl, iff_of_true rfl rfl⟩
  | true =>
    dsimp only
    rw [admitted]
    exact ⟨windows, limit, iff_of_false granted (fun impossible => nomatch impossible)⟩

theorem lookup_pruned (now : ℕ) (peer : PeerId) : (s.pruned now).lookup peer = s.windows.lookup peer ∨
    (s.pruned now).lookup peer = RateWindow.sweep rateWindow now (s.windows.lookup peer) := by
  unfold pruned
  split_ifs
  · exact .inr (Table.lookup_retain _ _ _)
  · exact .inl rfl

/-- **The window of a peer after an answer**: the one of its own call, or what was there, unless it was over. -/
theorem lookup_windows_answer (peer other : PeerId) (now : ℕ) :
    (s.answer other now).2.windows.lookup peer = if peer = other
      then some (RateWindow.admitCall rateWindow s.maxPerWindow now ((s.pruned now).lookup peer)).2
      else (s.pruned now).lookup peer := by
  rw [(s.answer_windows other now).1]
  show ((s.pruned now).insert other
    (RateWindow.admitCall rateWindow s.maxPerWindow now ((s.pruned now).lookup other)).2).lookup peer = _
  rw [Table.lookup_insert_eq]
  split_ifs with same
  · rw [same]
  · rfl

/-- **Which credentials are granted**, and for how long: as long as the first of them lives. -/
theorem answer_granted {peer : PeerId} {now : ℕ} {credentials : TurnCredentials}
    (granted : (s.answer peer now).1 = .granted credentials) :
    credentials.iceServers = (s.live now).flatMap LearnedServers.servers ∧
      ∃ shortest ∈ s.live now, credentials.ttl = some (asSecs (shortest.expiresAt - now)) ∧
        ∀ cached ∈ s.live now, asSecs (shortest.expiresAt - now) ≤ asSecs (cached.expiresAt - now) := by
  unfold answer at granted
  dsimp only at granted
  split_ifs at granted with admitted
  · change ((s.admitPeer peer now).2.answerAdmitted now).1 = .granted credentials at granted
    unfold answerAdmitted at granted
    dsimp only at granted
    split at granted
    · exact nomatch granted
    · rename_i remaining least
      cases granted
      obtain ⟨member, lowest⟩ := List.min?_eq_some_iff.mp least
      obtain ⟨shortest, alive, rfl⟩ := List.mem_map.mp member
      exact ⟨rfl, shortest, alive, rfl, fun cached inside => lowest _ (List.mem_map_of_mem inside)⟩

end TurnBrokerState

end Operations

end P2pNet.Connectivity.Turn
