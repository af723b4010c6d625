/-
**Message security settings** (`crates/protocol/pulse.rs`, `MessageSecurityConfig`).

The settings bound the size, the age and the future skew of heartbeats and application envelopes, and
size the two replay caches. `validate` refuses settings whose cache forgets a message that would still
be fresh; `ReplaySettings.covers` is that relation for one of the two kinds, and `validate_covers`
says that accepted settings have it for both.
-/

import P2pNet.Common.Basic

namespace P2pNet.Protocol

open Lib

def nsPerSec : UInt64 := 1000000000

structure ReputationConfig where
  acceptReward : Int32
  invalidPenalty : Int32
  decayStep : Int32
  decayIntervalSecs : UInt64

def ReputationConfig.default : ReputationConfig where
  acceptReward := 1
  invalidPenalty := 5
  decayStep := 1
  decayIntervalSecs := 60

def ReputationConfig.validate (config : ReputationConfig) : Except NetError Unit := do
  rejectIf (config.acceptReward ≤ 0)
    (configError "message_security.reputation.accept_reward must be positive")
  rejectIf (config.invalidPenalty ≤ 0)
    (configError "message_security.reputation.invalid_penalty must be positive")
  rejectIf (config.decayStep ≤ 0)
    (configError "message_security.reputation.decay_step must be positive")
  rejectIf (config.decayIntervalSecs = 0)
    (configError "message_security.reputation.decay_interval_secs must be at least 1")

structure MessageSecurityConfig where
  maxHeartbeatWireBytes : ℕ
  maxHeartbeatAgeSecs : UInt64
  maxHeartbeatFutureSkewSecs : UInt64
  replayCacheCapacity : ℕ
  replayCacheTtlSecs : UInt64
  maxAppMessageAgeSecs : UInt64
  maxAppMessageFutureSkewSecs : UInt64
  appReplayCacheCapacity : ℕ
  appReplayCacheTtlSecs : UInt64
  reputation : ReputationConfig

namespace MessageSecurityConfig

def default : MessageSecurityConfig where
  maxHeartbeatWireBytes := 4096
  maxHeartbeatAgeSecs := 10 * 60
  maxHeartbeatFutureSkewSecs := 2 * 60
  replayCacheCapacity := 8192
  replayCacheTtlSecs := 15 * 60
  maxAppMessageAgeSecs := 10 * 60
  maxAppMessageFutureSkewSecs := 2 * 60
  appReplayCacheCapacity := 8192
  appReplayCacheTtlSecs := 15 * 60
  reputation := .default

/-- The settings that bound the freshness of one kind of message and the memory of its cache. -/
structure ReplaySettings where
  age : UInt64
  skew : UInt64
  capacity : ℕ
  ttl : UInt64

def heartbeats (config : MessageSecurityConfig) : ReplaySettings :=
  ⟨config.maxHeartbeatAgeSecs, config.maxHeartbeatFutureSkewSecs, config.replayCacheCapacity,
    config.replayCacheTtlSecs⟩

def apps (config : MessageSecurityConfig) : ReplaySettings :=
  ⟨config.maxAppMessageAgeSecs, config.maxAppMessageFutureSkewSecs, config.appReplayCacheCapacity,
    config.appReplayCacheTtlSecs⟩

/-- The checks of one kind: its fields under their names in the error texts. -/
def checkReplay (settings : ReplaySettings) (age skew capacity ttl : String) : Except NetError Unit := do
  rejectIf (settings.age = 0) (configError s!"message_security.{age} must be at least 1")
  rejectIf (settings.skew > settings.age) (configError s!"message_security.{skew} must be <= {age}")
  rejectIf (settings.capacity = 0) (configError s!"message_security.{capacity} must be at least 1")
  rejectIf (settings.ttl = 0) (configError s!"message_security.{ttl} must be at least 1")
  rejectIf (settings.ttl < U64.saturatingAdd settings.age settings.skew)
    (configError s!"message_security.{ttl} must cover {age} + {skew}")

def validate (config : MessageSecurityConfig) : Except NetError Unit := do
  rejectIf (config.maxHeartbeatWireBytes = 0)
    (configError "message_security.max_heartbeat_wire_bytes must be at least 1")
  rejectIf (config.maxHeartbeatWireBytes > 1024 * 1024)
    (configError "message_security.max_heartbeat_wire_bytes must not exceed 1048576")
  checkReplay config.heartbeats "max_heartbeat_age_secs" "max_heartbeat_future_skew_secs"
    "replay_cache_capacity" "replay_cache_ttl_secs"
  checkReplay config.apps "max_app_message_age_secs" "max_app_message_future_skew_secs"
    "app_replay_cache_capacity" "app_replay_cache_ttl_secs"
  config.reputation.validate

/-! ### What accepted settings satisfy -/

/-- The cache is not empty-sized and remembers a key as long as its message can be fresh. -/
structure ReplaySettings.Covers (settings : ReplaySettings) : Prop where
  capacity_pos : 0 < settings.capacity
  window : U64.saturatingAdd settings.age settings.skew ≤ settings.ttl

theorem checkReplay_covers {settings : ReplaySettings} {age skew capacity ttl : String}
    (checked : checkReplay settings age skew capacity ttl = .ok ()) : settings.Covers := by
  unfold checkReplay at checked
  rw [bind_unit_ok_iff, bind_unit_ok_iff, bind_unit_ok_iff, bind_unit_ok_iff] at checked
  obtain ⟨_, _, positive, _, covered⟩ := checked
  rw [rejectIf_ok_iff] at positive covered
  exact ⟨Nat.pos_of_ne_zero positive, UInt64.not_lt.mp covered⟩

/-- **Accepted settings cover both kinds of messages.** -/
theorem validate_covers {config : MessageSecurityConfig} (valid : config.validate = .ok ()) :
    config.heartbeats.Covers ∧ config.apps.Covers := by
  unfold validate at valid
  rw [bind_unit_ok_iff, bind_unit_ok_iff, bind_unit_ok_iff, bind_unit_ok_iff] at valid
  obtain ⟨_, _, heartbeats, apps, _⟩ := valid
  exact ⟨checkReplay_covers heartbeats, checkReplay_covers apps⟩

example : default.validate = .ok () := by decide

end MessageSecurityConfig

end P2pNet.Protocol
