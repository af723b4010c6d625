/-
**TURN credentials** (`crates/connectivity/turn/credentials.rs`, `LearnedServers` of `crates/connectivity/turn/client.rs`).

Every source hands over ICE servers and, if it says so, how long they live. What is kept of them is checked and bounded,
and a lifetime outside the accepted range is moved to its nearer end.
-/

import P2pNet.Connectivity.Ice

namespace P2pNet.Connectivity.Turn

open Lib

/-- Most entries kept from any single credential source. -/
def maxIceServersPerSource : ℕ := 8

def defaultCredentialTtlSecs : ℕ := 3600

def minCredentialTtlSecs : ℕ := 60

def maxCredentialTtlSecs : ℕ := 48 * 3600

/-- Instants and durations are nanoseconds. -/
def secs (count : ℕ) : ℕ := count * 10 ^ 9

/-- `Duration::as_secs`. -/
def asSecs (duration : ℕ) : ℕ := duration / 10 ^ 9

structure TurnCredentials where
  iceServers : List IceServer
  ttl : Option ℕ
  deriving DecidableEq

namespace TurnCredentials

variable (credentials : TurnCredentials)

/-- Effective lifetime, clamped to the accepted range. -/
def ttlSecs : ℕ :=
  let ttl := credentials.ttl.getD defaultCredentialTtlSecs
  if ttl < minCredentialTtlSecs then minCredentialTtlSecs
  else if ttl > maxCredentialTtlSecs then maxCredentialTtlSecs
  else ttl

/-- The number of entries dropped, and what is left. -/
def sanitize : ℕ × TurnCredentials :=
  let valid := credentials.iceServers.filter fun server => decide (server.validate "iceServers" = .ok ())
  let kept := valid.take maxIceServersPerSource
  (credentials.iceServers.length - kept.length, ⟨kept, some credentials.ttlSecs⟩)

variable {credentials}

theorem minCredentialTtlSecs_le_ttlSecs : minCredentialTtlSecs ≤ credentials.ttlSecs := by
  unfold ttlSecs
  dsimp only
  split_ifs with short long
  · exact le_rfl
  · decide
  · exact Nat.le_of_not_lt short

/-- **A lifetime that is offered** is not exceeded, unless it is too short. -/
theorem ttlSecs_le_iff {credentials : TurnCredentials} {offered : ℕ} (given : credentials.ttl = some offered) :
    credentials.ttlSecs ≤ offered ↔ minCredentialTtlSecs ≤ offered := by
  constructor
  · exact minCredentialTtlSecs_le_ttlSecs.trans
  · intro enough
    unfold ttlSecs
    rw [given]
    dsimp only [Option.getD_some]
    split_ifs with short long
    · exact enough
    · exact long.le
    · exact le_rfl

theorem ttlSecs_of_short {credentials : TurnCredentials} {offered : ℕ} (given : credentials.ttl = some offered)
    (short : offered ≤ minCredentialTtlSecs) : credentials.ttlSecs = minCredentialTtlSecs := by
  unfold ttlSecs
  rw [given]
  dsimp only [Option.getD_some]
  split_ifs with less more
  · rfl
  · exact absurd (more.trans_le short) (by decide)
  · exact le_antisymm short (Nat.le_of_not_lt less)

/-- A clamped lifetime is not changed again. -/
theorem ttlSecs_sanitize (credentials : TurnCredentials) : credentials.sanitize.2.ttlSecs = credentials.ttlSecs := by
  have range : minCredentialTtlSecs ≤ credentials.ttlSecs ∧ credentials.ttlSecs ≤ maxCredentialTtlSecs := by
    refine ⟨minCredentialTtlSecs_le_ttlSecs, ?_⟩
    unfold ttlSecs
    dsimp only
    split_ifs with short long
    · decide
    · exact le_rfl
    · exact Nat.le_of_not_lt long
  have stays : ∀ ttl, minCredentialTtlSecs ≤ ttl → ttl ≤ maxCredentialTtlSecs →
      ttlSecs ⟨credentials.sanitize.2.iceServers, some ttl⟩ = ttl := by
    intro ttl least most
    unfold ttlSecs
    exact (if_neg least.not_gt).trans (if_neg most.not_gt)
  exact stays _ range.1 range.2

/-- **What is kept** was offered and is valid. -/
theorem mem_sanitize {server : IceServer} (kept : server ∈ credentials.sanitize.2.iceServers) :
    server ∈ credentials.iceServers ∧ server.validate "iceServers" = .ok () := by
  obtain ⟨offered, valid⟩ := List.mem_filter.mp (List.mem_of_mem_take kept)
  exact ⟨offered, of_decide_eq_true valid⟩

end TurnCredentials

/-- Credentials from one source with their refresh and expiry deadlines. -/
structure LearnedServers where
  servers : List IceServer
  refreshAt : ℕ
  expiresAt : ℕ
  deriving DecidableEq

/-- Refresh at three quarters of the lifetime so a new set arrives first. -/
def LearnedServers.new (credentials : TurnCredentials) (now : ℕ) : LearnedServers :=
  let ttl := secs credentials.ttlSecs
  ⟨credentials.iceServers, now + ttl * 3 / 4, now + ttl⟩

end P2pNet.Connectivity.Turn
