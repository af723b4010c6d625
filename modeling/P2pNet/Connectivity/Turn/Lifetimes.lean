/-
**Lifetimes of brokered credentials** (`TurnBrokerState::answer` of `crates/connectivity/turn/broker.rs`,
`accept_from_broker` of `crates/connectivity/turn/client.rs`).

A broker hands out what it has in its cache together with the whole seconds that the first of it has left. The client
takes that as the lifetime of all of it, but not less than a minute.
-/

import P2pNet.Connectivity.Turn.Broker
import P2pNet.Connectivity.Turn.Client

set_option linter.unusedSectionVars false

namespace P2pNet.Connectivity.Turn

open Lib

variable {Caller PeerId : Type} [DecidableEq Caller] [PeerIdentity PeerId]

/-- What a client keeps is stored for the lifetime of the offer. -/
theorem lookup_acceptFromBroker {client : TurnClientState PeerId} {broker : PeerId} {credentials : TurnCredentials}
    {server : IceServer} (kept : server ∈ (client.keptOffer broker credentials).iceServers) (now : ℕ) :
    ∃ learned, (client.acceptFromBroker broker credentials now).2.brokers.lookup broker = some learned ∧
      server ∈ learned.servers ∧ learned.expiresAt = now + secs credentials.ttlSecs := by
  refine ⟨.new (client.keptOffer broker credentials) now, ?_, kept, ?_⟩
  · rw [TurnClientState.acceptFromBroker_eq, if_pos (List.length_pos_of_mem kept)]
    exact AList.lookup_insert _
  · show now + secs (client.keptOffer broker credentials).ttlSecs = now + secs credentials.ttlSecs
    rw [ttlSecs_keptOffer]

/-- **What a client keeps** is live in the cache of the broker. -/
theorem exists_live_copy {s : TurnBrokerState Caller} {peer : Caller} {time : ℕ} {credentials : TurnCredentials}
    (granted : (s.answer peer time).1 = .granted credentials) {client : TurnClientState PeerId} {broker : PeerId}
    {server : IceServer} (kept : server ∈ (client.keptOffer broker credentials).iceServers) :
    ∃ copy ∈ s.live time, server ∈ copy.servers := by
  obtain ⟨servers, _⟩ := s.answer_granted granted
  have offered := (mem_keptOffer kept).1
  rw [servers] at offered
  obtain ⟨copy, alive, inside⟩ := List.mem_flatMap.mp offered
  exact ⟨copy, alive, inside⟩

theorem secs_asSecs_le (duration : ℕ) : secs (asSecs duration) ≤ duration := Nat.div_mul_le_self _ _

/-- A lifetime is at least a minute. -/
theorem minute_le_lifetime (credentials : TurnCredentials) : secs 60 ≤ secs credentials.ttlSecs :=
  Nat.mul_le_mul_right _ TurnCredentials.minCredentialTtlSecs_le_ttlSecs

/-- An offered lifetime is at most what is left, if a minute is left. -/
theorem lifetime_le {credentials : TurnCredentials} {offered remaining : ℕ} (given : credentials.ttl = some offered)
    (least : offered ≤ asSecs remaining) (enough : secs 60 ≤ remaining) : secs credentials.ttlSecs ≤ remaining := by
  have whole : 60 ≤ asSecs remaining := (Nat.le_div_iff_mul_le (by norm_num)).mpr enough
  have bounded : credentials.ttlSecs ≤ asSecs remaining := by
    by_cases short : offered ≤ minCredentialTtlSecs
    · rw [TurnCredentials.ttlSecs_of_short given short]
      exact whole
    · exact ((TurnCredentials.ttlSecs_le_iff given).mpr (Nat.le_of_not_le short)).trans least
  exact (Nat.mul_le_mul_right _ bounded).trans (secs_asSecs_le remaining)

/-- **The lifetime of brokered credentials.** A broker in any state grants credentials, and a client in any state accepts
some of them at any time. What it keeps is in the cache of the broker; and it expires with the client no later than after
the time that a live copy of it had left with the broker, exactly if that copy had a minute left. -/
theorem brokered_lifetime_iff {s : TurnBrokerState Caller} {peer : Caller} {time : ℕ} {credentials : TurnCredentials}
    (granted : (s.answer peer time).1 = .granted credentials) {client : TurnClientState PeerId} {broker : PeerId}
    {server : IceServer} (kept : server ∈ (client.keptOffer broker credentials).iceServers) (accepted : ℕ) :
    (∃ copy ∈ s.live time, server ∈ copy.servers) ∧
    ∃ learned, (client.acceptFromBroker broker credentials accepted).2.brokers.lookup broker = some learned ∧
      server ∈ learned.servers ∧ ∀ copy ∈ s.live time, server ∈ copy.servers →
        (learned.expiresAt ≤ accepted + (copy.expiresAt - time) ↔ secs 60 ≤ copy.expiresAt - time) := by
  obtain ⟨learned, stored, inside, expires⟩ := lookup_acceptFromBroker kept accepted
  refine ⟨exists_live_copy granted kept, learned, stored, inside, fun copy alive _ => ?_⟩
  rw [expires, Nat.add_le_add_iff_left]
  constructor
  · exact (minute_le_lifetime credentials).trans
  · intro enough
    obtain ⟨_, shortest, _, given, least⟩ := s.answer_granted granted
    exact lifetime_le given (least copy alive) enough

namespace LastMinute

def turnServer : IceServer := ⟨["turn:turn.cloudflare.com:3478?transport=udp"], some "u", some "c"⟩

/-- A broker with a credential endpoint. -/
def config : TurnBrokerConfig :=
  { TurnBrokerConfig.standard with
    enabled := true
    provider := some (.http ⟨"https://w.example.dev/ice-servers", none, 5⟩) }

/-- Credentials for ten minutes are fetched. The endpoint fails when they are due for a refresh. -/
def inputs : List (BrokerInput KeyPeer) :=
  [.maintain 0, .fetched 0 (.ok ⟨[turnServer], some 600⟩), .maintain (secs 1), .maintain (secs 451),
    .fetched 0 (.error "timed out"), .maintain (secs 456)]

def broker : TurnBrokerState KeyPeer := final brokerStep (TurnBrokerState.new KeyPeer config 0) inputs

def client : TurnClientState KeyPeer := TurnClientState.new KeyPeer .standard

/-- What the broker has in its cache. -/
def copy : LearnedServers := ⟨[turnServer], secs 451, secs 601⟩

theorem live_copy : broker.live (secs 500) = [copy] ∧ broker.live (secs 571) = [copy] := by decide

/-- **Half a minute before the credentials expire**, the broker hands them out for 30 seconds. A client that accepts them
a second later keeps them for a minute, although they expire after 29 seconds. -/
theorem outlives : (broker.answer ⟨1⟩ (secs 571)).1 = .granted ⟨[turnServer], some 30⟩ ∧
    copy ∈ broker.live (secs 571) ∧ turnServer ∈ copy.servers ∧ copy.expiresAt - secs 571 = secs 30 ∧
    (client.acceptFromBroker ⟨9⟩ ⟨[turnServer], some 30⟩ (secs 572)).2.brokers.lookup ⟨9⟩
      = some ⟨[turnServer], secs 617, secs 632⟩ ∧
    ¬ secs 632 ≤ secs 572 + secs 30 := by
  refine ⟨by decide, ?_, by decide, by decide, by decide, by decide⟩
  rw [live_copy.2]
  exact List.mem_singleton_self _

/-- With more than a minute left they expire in time. -/
theorem expires_in_time : ∃ learned, (client.acceptFromBroker ⟨9⟩ ⟨[turnServer], some 101⟩ (secs 501)).2.brokers.lookup ⟨9⟩
    = some learned ∧ learned.expiresAt ≤ secs 501 + (copy.expiresAt - secs 500) := by
  have granted : (broker.answer ⟨1⟩ (secs 500)).1 = .granted ⟨[turnServer], some 101⟩ := by decide
  have kept : turnServer ∈ (client.keptOffer ⟨9⟩ ⟨[turnServer], some 101⟩).iceServers := by decide
  obtain ⟨_, learned, stored, _, lifetime⟩ := brokered_lifetime_iff granted kept (secs 501)
  refine ⟨learned, stored, (lifetime copy ?_ (by decide)).mpr (by decide)⟩
  rw [live_copy.1]
  exact List.mem_singleton_self _

end LastMinute

end P2pNet.Connectivity.Turn
