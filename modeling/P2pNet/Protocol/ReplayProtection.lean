/-
**Freshness and replay protection** (`crates/protocol/app_security.rs` and the heartbeat checks of
`crates/protocol/pulse.rs`).

Both kinds of messages are checked the same way: a message must be well formed and fresh, then its
replay key is offered to a bounded cache. `appAdmission` and `heartbeatAdmitted` say which key a call
offers, if any; `validateAppMessageSecurity_eq` and `heartbeatStep_agree` say that a call is its admission
followed by one access of the cache, so that a run of calls is a run of the cache.

`replay_protection`: whatever the settings that `validate` accepts, two acceptances of one replay key
have at least `capacity` acceptances of distinct other keys between them. The lifetime of a key covers
the time in which its message can be fresh, also where the conversion to nanoseconds saturates
(`U64.saturated_window`), so that age alone never lets a message in twice.
-/

import P2pNet.Lib.ReplayCache
import P2pNet.Api.AppMessage
import P2pNet.Protocol.HeartbeatWire
import P2pNet.Protocol.MessageSecurity

set_option linter.unusedSectionVars false

namespace P2pNet.Protocol

open Lib PeerIdentity

variable {PeerId : Type} [PeerIdentity PeerId]

/-! ### Freshness -/

/-- Is a time stamp neither too far ahead of the clock nor too old? -/
def isFresh (settings : MessageSecurityConfig.ReplaySettings) (stamp now : UInt64) : Bool :=
  ¬ (stamp > U64.saturatingAdd now (U64.saturatingMul settings.skew nsPerSec)
    ∨ U64.saturatingSub now stamp > U64.saturatingMul settings.age nsPerSec)

/-- `new`: the capacity is at least one, the lifetime is converted to nanoseconds. -/
def newCache {K : Type} (settings : MessageSecurityConfig.ReplaySettings) : ReplayCache K where
  capacity := max settings.capacity 1
  ttl := U64.saturatingMul settings.ttl nsPerSec
  entries := ∅
  order := []

/-! ### Application envelopes -/

def appNonceBytes : ℕ := 32

inductive AppMessageSecurityDecision
  | accept
  | reject
  | ignoreDuplicate
  deriving DecidableEq, Repr

structure AppReplayKey (PeerId : Type) where
  source : PeerId
  timestampNs : UInt64
  nonce : ByteArrayOf appNonceBytes
  deriving DecidableEq

abbrev AppMessageReplayCache (PeerId : Type) := ReplayCache (AppReplayKey PeerId)

def AppMessageReplayCache.new (config : MessageSecurityConfig) : AppMessageReplayCache PeerId :=
  newCache config.apps

/-- `decode_nonce` of `app_security.rs`: the text must have 64 bytes before it is read. -/
def decodeAppNonce (nonceHex : String) : Option (ByteArrayOf appNonceBytes) := do
  if nonceHex.utf8ByteSize ≠ appNonceBytes * 2 then none
  else
    let decoded ← Hex.decode nonceHex
    if sized : decoded.length = appNonceBytes then some ⟨decoded, sized⟩ else none

def validateAppMessageSecurity (source : PeerId) (message : Api.AppMessage) (now : UInt64)
    (config : MessageSecurityConfig) (cache : AppMessageReplayCache PeerId) :
    AppMessageSecurityDecision × AppMessageReplayCache PeerId :=
  match decodeAppNonce message.nonceHex with
  | none => (.reject, cache)
  | some nonce =>
    if nonce.toList.all (· == 0) then (.reject, cache)
    else if !isFresh config.apps message.timestampNs now then (.reject, cache)
    else
      let key : AppReplayKey PeerId := ⟨source, message.timestampNs, nonce⟩
      match cache.checkAndInsert key now with
      | (false, cache) => (.ignoreDuplicate, cache)
      | (true, cache) => (.accept, cache)

/-! ### Heartbeats -/

inductive HeartbeatValidationDecision
  | accept
  | reject
  | ignoreDuplicate
  | rejectOversize
  deriving DecidableEq, Repr

structure HeartbeatValidationResult where
  decision : HeartbeatValidationDecision
  envelope : Option HeartbeatEnvelope

structure HeartbeatReplayKey (PeerId : Type) where
  source : PeerId
  schemaVersion : UInt16
  timestampNs : UInt64
  nonce : ByteArrayOf nonceBytes
  deriving DecidableEq

abbrev HeartbeatReplayCache (PeerId : Type) := ReplayCache (HeartbeatReplayKey PeerId)

def HeartbeatReplayCache.new (config : MessageSecurityConfig) : HeartbeatReplayCache PeerId :=
  newCache config.heartbeats

def replayKey (source : PeerId) (env : HeartbeatEnvelope) : Option (HeartbeatReplayKey PeerId) := do
  let nonce ← decodeNonce env.nonceHex
  return ⟨source, env.schemaVersion, env.timestampNs, nonce⟩

/-- The expired keys go even when the envelope has no key. -/
def HeartbeatReplayCache.checkAndInsert (cache : HeartbeatReplayCache PeerId) (source : PeerId)
    (env : HeartbeatEnvelope) (now : UInt64) : Bool × HeartbeatReplayCache PeerId :=
  match replayKey source env with
  | none => (false, cache.prune now)
  | some key => ReplayCache.checkAndInsert cache key now

def verifyHeartbeatWithConfig (blake3 : Blake3) (source : PeerId) (env : HeartbeatEnvelope) (now : UInt64)
    (config : MessageSecurityConfig) : Bool :=
  if env.schemaVersion ≠ heartbeatSchemaVersion then false
  else if env.peerId ≠ toText source then false
  else if env.entropy.length ≠ heartbeatEntropyBytes then false
  else if env.entropy.all (· == 0) then false
  else match decodeNonce env.nonceHex with
    | none => false
    | some nonce =>
      if (blake3 env.entropy).toList ≠ nonce.toList then false
      else isFresh config.heartbeats env.timestampNs now

def validateHeartbeatWire (blake3 : Blake3) (source : PeerId) (data : List UInt8) (now : UInt64)
    (config : MessageSecurityConfig) (cache : HeartbeatReplayCache PeerId) :
    Except Fault (HeartbeatValidationResult × HeartbeatReplayCache PeerId) :=
  if data.length > config.maxHeartbeatWireBytes then .ok (⟨.rejectOversize, none⟩, cache)
  else match decodeHeartbeatWire PeerId data with
    | .error (.inl fault) => .error fault
    | .error (.inr _) => .ok (⟨.reject, none⟩, cache)
    | .ok env =>
      if !verifyHeartbeatWithConfig blake3 source env now config then .ok (⟨.reject, some env⟩, cache)
      else match HeartbeatReplayCache.checkAndInsert cache source env now with
        | (false, cache) => .ok (⟨.ignoreDuplicate, some env⟩, cache)
        | (true, cache) => .ok (⟨.accept, some env⟩, cache)

/-! ### A check in front of a cache -/

section Guarded

variable {K Call Out : Type} [DecidableEq K] {step : ReplayCache K → Call → Out × ReplayCache K}
  {request : Call → ReplayCache.Access K} {accepts : Out → Prop} {start : ReplayCache K}
  {calls : List Call}

/-- A call is accepted exactly when the cache answers that its key is new. -/
theorem acceptedAt_iff
    (agree : ∀ cache call, (step cache call).2 = (ReplayCache.access cache (request call)).2)
    (answer : ∀ cache call, accepts (step cache call).1 ↔
      (ReplayCache.access cache (request call)).1 = true) (position : ℕ) (key : K) :
    ReplayCache.AcceptedAt start (calls.map request) position key ↔
      ∃ call out, calls[position]? = some call ∧ (outputs step start calls)[position]? = some out ∧
        accepts out ∧ (request call).key = some key := by
  unfold ReplayCache.AcceptedAt
  rw [outputs_getElem?, outputs_getElem?, ← List.map_take, ← final_map step _ request agree,
    List.getElem?_map]
  cases calls[position]? with
  | none => simp
  | some call =>
    simp only [Option.map_some, Option.some.injEq]
    constructor
    · rintro ⟨now, same, new⟩
      refine ⟨call, _, rfl, rfl, (answer _ call).mpr new, ?_⟩
      rw [same]
    · rintro ⟨_, _, rfl, rfl, accepted, offered⟩
      refine ⟨(request call).now, ?_, (answer _ call).mp accepted⟩
      rw [← offered]

/-- **Replay protection of a guarded cache**: when every key that is offered carries a fresh stamp. -/
theorem guarded_protection {settings : MessageSecurityConfig.ReplaySettings} (covers : settings.Covers)
    (agree : ∀ cache call, (step cache call).2 = (ReplayCache.access cache (request call)).2)
    (answer : ∀ cache call, accepts (step cache call).1 ↔
      (ReplayCache.access cache (request call)).1 = true)
    (stamp : K → UInt64)
    (fresh : ∀ call key, (request call).key = some key →
      isFresh settings (stamp key) (request call).now = true)
    (clock : calls.Pairwise fun earlier later => (request earlier).now ≤ (request later).now)
    {first second : ℕ} (order : first < second) {key : K}
    (one : ∃ call out, calls[first]? = some call ∧
      (outputs step (newCache settings) calls)[first]? = some out ∧ accepts out ∧
        (request call).key = some key)
    (two : ∃ call out, calls[second]? = some call ∧
      (outputs step (newCache settings) calls)[second]? = some out ∧ accepts out ∧
        (request call).key = some key) :
    ∃ others : Finset K, settings.capacity ≤ others.card ∧ ∀ other ∈ others, other ≠ key ∧
      ∃ between, first < between ∧ between < second ∧ ∃ call out, calls[between]? = some call ∧
        (outputs step (newCache settings) calls)[between]? = some out ∧ accepts out ∧
          (request call).key = some other := by
  have coherent : ReplayCache.Coherent (newCache settings : ReplayCache K) := List.Perm.refl _
  have ordered : (calls.map request).Pairwise fun earlier later => earlier.now ≤ later.now :=
    List.pairwise_map.mpr clock
  -- a stamp that was not too far ahead at the first call and is not too old at the second
  have timely : ∀ early late, (calls.map request)[first]? = some ⟨some key, early⟩ →
      (calls.map request)[second]? = some ⟨some key, late⟩ →
      U64.saturatingSub late early ≤ U64.saturatingMul settings.ttl nsPerSec := by
    have freshAt : ∀ (position : ℕ) (now : UInt64),
        (calls.map request)[position]? = some ⟨some key, now⟩ → isFresh settings (stamp key) now = true := by
      intro position now located
      rw [List.getElem?_map, Option.map_eq_some_iff] at located
      obtain ⟨call, _, same⟩ := located
      have offered := fresh call key (by rw [same])
      rw [same] at offered
      exact offered
    intro early late firstHere secondHere
    have firstFresh := freshAt first early firstHere
    have secondFresh := freshAt second late secondHere
    unfold isFresh at firstFresh secondFresh
    rw [decide_eq_true_eq, not_or] at firstFresh secondFresh
    exact U64.saturated_window covers.window (UInt64.not_lt.mp firstFresh.1) (UInt64.not_lt.mp secondFresh.2)
  obtain ⟨others, many, apart⟩ := ReplayCache.capacity_between coherent ordered order timely
    ((acceptedAt_iff agree answer first key).mpr one) ((acceptedAt_iff agree answer second key).mpr two)
  refine ⟨others, (le_max_left _ _).trans many, fun other member => ?_⟩
  obtain ⟨different, between, after, before, accepted⟩ := apart other member
  exact ⟨different, between, after, before, (acceptedAt_iff agree answer between other).mp accepted⟩

end Guarded

/-! ### Runs of application envelopes -/

structure AppSecurityCall (PeerId : Type) where
  source : PeerId
  message : Api.AppMessage
  now : UInt64

def appStep (config : MessageSecurityConfig) (cache : AppMessageReplayCache PeerId)
    (call : AppSecurityCall PeerId) : AppMessageSecurityDecision × AppMessageReplayCache PeerId :=
  validateAppMessageSecurity call.source call.message call.now config cache

/-- The replay key of an envelope: its source, time stamp and nonce. -/
def appReplayKey (source : PeerId) (message : Api.AppMessage) : Option (AppReplayKey PeerId) :=
  (decodeAppNonce message.nonceHex).map fun nonce => ⟨source, message.timestampNs, nonce⟩

/-- The call at a position returns `Accept` for an envelope with this replay key. -/
def AppAcceptedAt (config : MessageSecurityConfig) (calls : List (AppSecurityCall PeerId)) (position : ℕ)
    (key : AppReplayKey PeerId) : Prop :=
  ∃ call, calls[position]? = some call ∧
    (outputs (appStep config) (AppMessageReplayCache.new config) calls)[position]? = some .accept ∧
    appReplayKey call.source call.message = some key

/-- The key a call offers to the cache, once the other checks have passed. -/
def appAdmission (config : MessageSecurityConfig) (call : AppSecurityCall PeerId) :
    Option (AppReplayKey PeerId) :=
  (appReplayKey call.source call.message).filter fun key =>
    !key.nonce.toList.all (· == 0) && isFresh config.apps call.message.timestampNs call.now

def appRequest (config : MessageSecurityConfig) (call : AppSecurityCall PeerId) :
    ReplayCache.Access (AppReplayKey PeerId) := ⟨appAdmission config call, call.now⟩

/-- The decision after the cache's answer. -/
def appDecision (answer : Bool) : AppMessageSecurityDecision := if answer then .accept else .ignoreDuplicate

/-- **A call is its admission and one access of the cache.** -/
theorem validateAppMessageSecurity_eq (config : MessageSecurityConfig) (cache : AppMessageReplayCache PeerId)
    (call : AppSecurityCall PeerId) :
    appStep config cache call = match appAdmission config call with
      | none => (.reject, cache)
      | some key => (appDecision (ReplayCache.checkAndInsert cache key call.now).1,
          (ReplayCache.checkAndInsert cache key call.now).2) := by
  unfold appStep validateAppMessageSecurity appAdmission appReplayKey
  cases decodeAppNonce call.message.nonceHex with
  | none => rfl
  | some nonce =>
    simp only [Option.map_some, Option.filter_some]
    by_cases zero : (nonce.toList.all (· == 0)) = true
    · rw [if_pos zero, if_neg (by simp [zero])]
    · rw [if_neg zero]
      by_cases fresh : isFresh config.apps call.message.timestampNs call.now = true
      · rw [if_neg (by simp [fresh]), if_pos (by simp [zero, fresh])]
        simp only
        rcases ReplayCache.checkAndInsert cache ⟨call.source, call.message.timestampNs, nonce⟩ call.now with
          ⟨_ | _, next⟩
        · rfl
        · rfl
      · rw [if_pos (by simp [fresh]), if_neg (by simp [fresh])]

theorem appAdmission_eq_some {config : MessageSecurityConfig} {call : AppSecurityCall PeerId}
    {key : AppReplayKey PeerId} (offered : appAdmission config call = some key) :
    appReplayKey call.source call.message = some key ∧
      isFresh config.apps key.timestampNs call.now = true := by
  obtain ⟨found, passes⟩ := Option.filter_eq_some_iff.mp offered
  rw [Bool.and_eq_true] at passes
  refine ⟨found, ?_⟩
  obtain ⟨nonce, _, rfl⟩ := Option.map_eq_some_iff.mp found
  exact passes.2

theorem appAcceptedAt_iff (config : MessageSecurityConfig) (calls : List (AppSecurityCall PeerId))
    (position : ℕ) (key : AppReplayKey PeerId) :
    AppAcceptedAt config calls position key ↔ ∃ call out, calls[position]? = some call ∧
      (outputs (appStep config) (newCache config.apps) calls)[position]? = some out ∧ out = .accept ∧
        (appRequest config call).key = some key := by
  constructor
  · rintro ⟨call, here, accepted, known⟩
    refine ⟨call, .accept, here, accepted, rfl, ?_⟩
    rw [outputs_getElem?, here, Option.map_some, validateAppMessageSecurity_eq] at accepted
    show appAdmission config call = some key
    cases offered : appAdmission config call with
    | none =>
      simp only [offered] at accepted
      cases accepted
    | some other =>
      rw [← known]
      exact (appAdmission_eq_some offered).1.symm
  · rintro ⟨call, _, here, accepted, rfl, offered⟩
    exact ⟨call, here, accepted, (appAdmission_eq_some offered).1⟩

theorem app_protection {config : MessageSecurityConfig} (valid : config.validate = .ok ())
    {calls : List (AppSecurityCall PeerId)} (clock : calls.Pairwise fun earlier later => earlier.now ≤ later.now)
    {first second : ℕ} (order : first < second) {key : AppReplayKey PeerId}
    (one : AppAcceptedAt config calls first key) (two : AppAcceptedAt config calls second key) :
    ∃ others : Finset (AppReplayKey PeerId), config.appReplayCacheCapacity ≤ others.card ∧
      ∀ other ∈ others, other ≠ key ∧ ∃ between, first < between ∧ between < second ∧
        AppAcceptedAt config calls between other := by
  rw [appAcceptedAt_iff] at one two
  simp only [appAcceptedAt_iff]
  refine guarded_protection (MessageSecurityConfig.validate_covers valid).2 (fun cache call => ?_)
    (fun cache call => ?_) AppReplayKey.timestampNs (fun call key offered => ?_) clock order one two
  · unfold appRequest ReplayCache.access
    cases offered : appAdmission config call with
    | none => simp only [validateAppMessageSecurity_eq, offered]
    | some key => simp only [validateAppMessageSecurity_eq, offered]
  · unfold appRequest ReplayCache.access
    cases offered : appAdmission config call with
    | none => simp [validateAppMessageSecurity_eq, offered]
    | some key => simp [validateAppMessageSecurity_eq, offered, appDecision]
  · exact (appAdmission_eq_some offered).2

/-! ### Runs of heartbeats -/

structure HeartbeatCall (PeerId : Type) where
  source : PeerId
  data : List UInt8
  now : UInt64

def heartbeatStep (blake3 : Blake3) (config : MessageSecurityConfig) (cache : HeartbeatReplayCache PeerId)
    (call : HeartbeatCall PeerId) :
    Except Fault HeartbeatValidationResult × HeartbeatReplayCache PeerId :=
  match validateHeartbeatWire blake3 call.source call.data call.now config cache with
  | .ok (result, next) => (.ok result, next)
  | .error fault => (.error fault, cache)

/-- The call at a position returns `Accept` for a heartbeat with this replay key. -/
def HeartbeatAcceptedAt (blake3 : Blake3) (config : MessageSecurityConfig) (calls : List (HeartbeatCall PeerId))
    (position : ℕ) (key : HeartbeatReplayKey PeerId) : Prop :=
  ∃ call env, calls[position]? = some call ∧
    (outputs (heartbeatStep blake3 config) (HeartbeatReplayCache.new config) calls)[position]?
      = some (.ok ⟨.accept, some env⟩) ∧
    replayKey call.source env = some key

/-- The envelope whose key a call offers to the cache, once the other checks have passed. -/
def heartbeatAdmitted (blake3 : Blake3) (config : MessageSecurityConfig) (call : HeartbeatCall PeerId) :
    Option HeartbeatEnvelope :=
  if call.data.length > config.maxHeartbeatWireBytes then none
  else match decodeHeartbeatWire PeerId call.data with
    | .error _ => none
    | .ok env => if verifyHeartbeatWithConfig blake3 call.source env call.now config then some env else none

def heartbeatRequest (blake3 : Blake3) (config : MessageSecurityConfig) (call : HeartbeatCall PeerId) :
    ReplayCache.Access (HeartbeatReplayKey PeerId) :=
  ⟨(heartbeatAdmitted blake3 config call).bind (replayKey call.source), call.now⟩

def heartbeatDecision (answer : Bool) : HeartbeatValidationDecision :=
  if answer then .accept else .ignoreDuplicate

theorem verifyHeartbeat_spec {blake3 : Blake3} {source : PeerId} {env : HeartbeatEnvelope} {now : UInt64}
    {config : MessageSecurityConfig} (verified : verifyHeartbeatWithConfig blake3 source env now config = true) :
    (∃ nonce, decodeNonce env.nonceHex = some nonce) ∧
      isFresh config.heartbeats env.timestampNs now = true := by
  unfold verifyHeartbeatWithConfig at verified
  split_ifs at verified
  cases read : decodeNonce env.nonceHex with
  | none =>
    rw [read] at verified
    cases verified
  | some nonce =>
    rw [read] at verified
    simp only at verified
    split_ifs at verified
    exact ⟨⟨nonce, rfl⟩, verified⟩

theorem heartbeatAdmitted_eq_some {blake3 : Blake3} {config : MessageSecurityConfig}
    {call : HeartbeatCall PeerId} {env : HeartbeatEnvelope}
    (admitted : heartbeatAdmitted blake3 config call = some env) :
    ¬ call.data.length > config.maxHeartbeatWireBytes ∧ decodeHeartbeatWire PeerId call.data = .ok env ∧
      verifyHeartbeatWithConfig blake3 call.source env call.now config = true := by
  unfold heartbeatAdmitted at admitted
  split_ifs at admitted with oversize
  refine ⟨oversize, ?_⟩
  cases read : decodeHeartbeatWire PeerId call.data with
  | error reason =>
    rw [read] at admitted
    cases admitted
  | ok decoded =>
    rw [read] at admitted
    simp only at admitted
    split_ifs at admitted with verified
    cases admitted
    exact ⟨rfl, verified⟩

/-- **A call that passes the checks is one access of the cache.** -/
theorem heartbeatStep_admitted {blake3 : Blake3} {config : MessageSecurityConfig}
    (cache : HeartbeatReplayCache PeerId) {call : HeartbeatCall PeerId} {env : HeartbeatEnvelope}
    (admitted : heartbeatAdmitted blake3 config call = some env) :
    ∃ key, replayKey call.source env = some key ∧ key.timestampNs = env.timestampNs ∧
      heartbeatStep blake3 config cache call
        = (.ok ⟨heartbeatDecision (ReplayCache.checkAndInsert cache key call.now).1, some env⟩,
          (ReplayCache.checkAndInsert cache key call.now).2) := by
  obtain ⟨size, decoded, verified⟩ := heartbeatAdmitted_eq_some admitted
  obtain ⟨⟨nonce, read⟩, _⟩ := verifyHeartbeat_spec verified
  have key : replayKey call.source env
      = some ⟨call.source, env.schemaVersion, env.timestampNs, nonce⟩ := by
    unfold replayKey
    rw [read]
    rfl
  refine ⟨_, key, rfl, ?_⟩
  unfold heartbeatStep validateHeartbeatWire HeartbeatReplayCache.checkAndInsert
  rw [if_neg size, decoded]
  simp only [verified, Bool.not_true, Bool.false_eq_true, if_false, key]
  rcases ReplayCache.checkAndInsert cache ⟨call.source, env.schemaVersion, env.timestampNs, nonce⟩ call.now
    with ⟨_ | _, next⟩
  · rfl
  · rfl

/-- **A call that fails a check** does not touch the cache and does not return `Accept`. -/
theorem heartbeatStep_refused {blake3 : Blake3} {config : MessageSecurityConfig}
    (cache : HeartbeatReplayCache PeerId) {call : HeartbeatCall PeerId}
    (refused : heartbeatAdmitted blake3 config call = none) :
    (heartbeatStep blake3 config cache call).2 = cache ∧
      ∀ env, (heartbeatStep blake3 config cache call).1 ≠ .ok ⟨.accept, env⟩ := by
  unfold heartbeatAdmitted at refused
  unfold heartbeatStep validateHeartbeatWire
  by_cases oversize : call.data.length > config.maxHeartbeatWireBytes
  · rw [if_pos oversize]
    refine ⟨rfl, ?_⟩
    rintro env ⟨⟩
  · rw [if_neg oversize] at refused ⊢
    cases read : decodeHeartbeatWire PeerId call.data with
    | error reason =>
      cases reason with
      | inl fault =>
        refine ⟨rfl, ?_⟩
        rintro env ⟨⟩
      | inr error =>
        refine ⟨rfl, ?_⟩
        rintro env ⟨⟩
    | ok env =>
      rw [read] at refused
      simp only at refused ⊢
      split_ifs at refused with verified
      rw [if_pos (by rw [Bool.not_eq_true] at verified; rw [verified]; rfl)]
      refine ⟨rfl, ?_⟩
      rintro env ⟨⟩

/-- An answer of `validate_heartbeat_wire` that accepts. -/
def HeartbeatAccepts (out : Except Fault HeartbeatValidationResult) : Prop :=
  ∃ env, out = .ok ⟨.accept, env⟩

theorem heartbeatStep_agree (blake3 : Blake3) (config : MessageSecurityConfig)
    (cache : HeartbeatReplayCache PeerId) (call : HeartbeatCall PeerId) :
    (heartbeatStep blake3 config cache call).2
        = (ReplayCache.access cache (heartbeatRequest blake3 config call)).2 ∧
      (HeartbeatAccepts (heartbeatStep blake3 config cache call).1 ↔
        (ReplayCache.access cache (heartbeatRequest blake3 config call)).1 = true) := by
  unfold heartbeatRequest ReplayCache.access
  cases admitted : heartbeatAdmitted blake3 config call with
  | none =>
    obtain ⟨same, never⟩ := heartbeatStep_refused cache admitted
    refine ⟨same, ?_⟩
    simp only [Option.bind_none, Bool.false_eq_true, iff_false]
    rintro ⟨env, accepted⟩
    exact never env accepted
  | some env =>
    obtain ⟨key, known, _, step⟩ := heartbeatStep_admitted cache admitted
    simp only [Option.bind_some, known, step, true_and]
    cases (ReplayCache.checkAndInsert cache key call.now).1 with
    | false =>
      simp only [Bool.false_eq_true, iff_false]
      rintro ⟨_, ⟨⟩⟩
    | true => exact ⟨fun _ => rfl, fun _ => ⟨some env, rfl⟩⟩

theorem heartbeatAcceptedAt_iff (blake3 : Blake3) (config : MessageSecurityConfig)
    (calls : List (HeartbeatCall PeerId)) (position : ℕ) (key : HeartbeatReplayKey PeerId) :
    HeartbeatAcceptedAt blake3 config calls position key ↔ ∃ call out, calls[position]? = some call ∧
      (outputs (heartbeatStep blake3 config) (newCache config.heartbeats) calls)[position]? = some out ∧
        HeartbeatAccepts out ∧ (heartbeatRequest blake3 config call).key = some key := by
  -- the envelope in an accepting answer is the admitted one
  have carries : ∀ (cache : HeartbeatReplayCache PeerId) call env,
      (heartbeatStep blake3 config cache call).1 = .ok ⟨.accept, env⟩ →
        heartbeatAdmitted blake3 config call = env ∧ ∃ read, env = some read := by
    intro cache call env accepted
    cases admitted : heartbeatAdmitted blake3 config call with
    | none => exact absurd accepted ((heartbeatStep_refused cache admitted).2 env)
    | some read =>
      obtain ⟨key, _, _, step⟩ := heartbeatStep_admitted cache admitted
      rw [step] at accepted
      have same := congrArg HeartbeatValidationResult.envelope (Except.ok.inj accepted)
      exact ⟨same, read, same.symm⟩
  constructor
  · rintro ⟨call, env, here, accepted, known⟩
    refine ⟨call, _, here, accepted, ⟨some env, rfl⟩, ?_⟩
    rw [outputs_getElem?, here, Option.map_some, Option.some.injEq] at accepted
    show (heartbeatAdmitted blake3 config call).bind (replayKey call.source) = some key
    rw [(carries _ call _ accepted).1]
    exact known
  · rintro ⟨call, _, here, accepted, ⟨env, rfl⟩, offered⟩
    have answer := accepted
    rw [outputs_getElem?, here, Option.map_some, Option.some.injEq] at answer
    obtain ⟨admitted, read, rfl⟩ := carries _ call env answer
    refine ⟨call, read, here, accepted, ?_⟩
    change (heartbeatAdmitted blake3 config call).bind (replayKey call.source) = some key at offered
    rw [admitted] at offered
    exact offered

theorem heartbeat_protection (blake3 : Blake3) {config : MessageSecurityConfig}
    (valid : config.validate = .ok ()) {calls : List (HeartbeatCall PeerId)}
    (clock : calls.Pairwise fun earlier later => earlier.now ≤ later.now) {first second : ℕ}
    (order : first < second) {key : HeartbeatReplayKey PeerId}
    (one : HeartbeatAcceptedAt blake3 config calls first key)
    (two : HeartbeatAcceptedAt blake3 config calls second key) :
    ∃ others : Finset (HeartbeatReplayKey PeerId), config.replayCacheCapacity ≤ others.card ∧
      ∀ other ∈ others, other ≠ key ∧ ∃ between, first < between ∧ between < second ∧
        HeartbeatAcceptedAt blake3 config calls between other := by
  rw [heartbeatAcceptedAt_iff] at one two
  simp only [heartbeatAcceptedAt_iff]
  refine guarded_protection (MessageSecurityConfig.validate_covers valid).1
    (fun cache call => (heartbeatStep_agree blake3 config cache call).1)
    (fun cache call => (heartbeatStep_agree blake3 config cache call).2) HeartbeatReplayKey.timestampNs
    (fun call key offered => ?_) clock order one two
  obtain ⟨env, admitted, known⟩ := Option.bind_eq_some_iff.mp offered
  obtain ⟨found, same, stamps, _⟩ := heartbeatStep_admitted (newCache config.heartbeats) admitted
  rw [known] at same
  cases same
  rw [stamps]
  exact (verifyHeartbeat_spec (heartbeatAdmitted_eq_some admitted).2.2).2

/-- **Replay protection** of application envelopes and of heartbeats. -/
theorem replay_protection (blake3 : Blake3) {config : MessageSecurityConfig} (valid : config.validate = .ok ()) :
    (∀ calls : List (AppSecurityCall PeerId), calls.Pairwise (fun earlier later => earlier.now ≤ later.now) →
      ∀ (first second : ℕ) (key : AppReplayKey PeerId), first < second →
        AppAcceptedAt config calls first key → AppAcceptedAt config calls second key →
        ∃ others : Finset (AppReplayKey PeerId), config.appReplayCacheCapacity ≤ others.card ∧
          ∀ other ∈ others, other ≠ key ∧ ∃ between, first < between ∧ between < second ∧
            AppAcceptedAt config calls between other) ∧
    (∀ calls : List (HeartbeatCall PeerId), calls.Pairwise (fun earlier later => earlier.now ≤ later.now) →
      ∀ (first second : ℕ) (key : HeartbeatReplayKey PeerId), first < second →
        HeartbeatAcceptedAt blake3 config calls first key →
        HeartbeatAcceptedAt blake3 config calls second key →
        ∃ others : Finset (HeartbeatReplayKey PeerId), config.replayCacheCapacity ≤ others.card ∧
          ∀ other ∈ others, other ≠ key ∧ ∃ between, first < between ∧ between < second ∧
            HeartbeatAcceptedAt blake3 config calls between other) := by
  constructor
  · intro calls clock first second key order one two
    exact app_protection valid clock order one two
  · intro calls clock first second key order one two
    exact heartbeat_protection blake3 valid clock order one two

/-- An envelope with a nonce that repeats one byte, one second before the clock. -/
def repeatedCall (byte : UInt8) : AppSecurityCall Seed where
  source := .nnoo
  message := {
    schemaVersion := 2
    networkId := 1
    topic := "replay"
    sourcePeerId := Seed.nnoo.text
    targetPeerId := none
    timestampNs := 1700000000000000000
    nonceHex := Hex.encode (List.replicate 32 byte)
    payload := [] }
  now := 1700000001000000000

def repeatedKey (byte : UInt8) : AppReplayKey Seed :=
  ⟨.nnoo, 1700000000000000000, ⟨List.replicate 32 byte, rfl⟩⟩

/-- A cache of one key: the first envelope is accepted again once another one has been. -/
theorem replay_protection_single : ∃ others : Finset (AppReplayKey Seed), 1 ≤ others.card ∧
    ∀ other ∈ others, other ≠ repeatedKey 1 ∧ ∃ between, 0 < between ∧ between < 2 ∧
      AppAcceptedAt { MessageSecurityConfig.default with appReplayCacheCapacity := 1 }
        [repeatedCall 1, repeatedCall 2, repeatedCall 1] between other := by
  have valid : MessageSecurityConfig.validate
      { MessageSecurityConfig.default with appReplayCacheCapacity := 1 } = .ok () := by decide
  refine (replay_protection (fun _ => ⟨List.replicate 32 0, rfl⟩) valid).1
    [repeatedCall 1, repeatedCall 2, repeatedCall 1] ?_ 0 2 (repeatedKey 1) Nat.zero_lt_two ?_ ?_
  · decide
  · exact ⟨repeatedCall 1, rfl, by decide, by decide⟩
  · exact ⟨repeatedCall 1, rfl, by decide, by decide⟩

/-! ### What the caches hold -/

/-- A run of one cache: its bound, what it holds, and that both loops end in every state of it. -/
def Represented {K : Type} [DecidableEq K] (settings : MessageSecurityConfig.ReplaySettings)
    (requests : List (ReplayCache.Access K)) (cache : ReplayCache K) : Prop :=
  1 ≤ cache.capacity ∧ cache.capacity = max settings.capacity 1 ∧
    cache.Represents (ReplayCache.acceptedKeys (newCache settings) requests) ∧
    (∀ now, ∃ rounds ≤ cache.order.length, ReplayCache.Ends (ReplayCache.pruneRound cache.ttl now)
      (cache.order, cache.entries) rounds ((cache.prune now).order, (cache.prune now).entries)) ∧
    ∀ key now, ∃ rounds ≤ cache.order.length + 1, ReplayCache.Ends (ReplayCache.evictRound cache.capacity)
      (cache.order ++ [key], cache.entries.insert key now) rounds
      (ReplayCache.evictLoop cache.capacity (cache.order ++ [key]) (cache.entries.insert key now))

theorem represented_final {K : Type} [DecidableEq K] (settings : MessageSecurityConfig.ReplaySettings)
    (requests : List (ReplayCache.Access K)) :
    Represented settings requests (final ReplayCache.insertCall (newCache settings) requests) := by
  have coherent : ReplayCache.Coherent (newCache settings : ReplayCache K) := List.Perm.refl _
  obtain ⟨capacity, represents⟩ :=
    ReplayCache.represents_final coherent (Nat.zero_le _) (List.suffix_refl []) requests
  refine ⟨?_, capacity, represents, fun now => ReplayCache.pruneLoop_ends _ _ _ _, fun key now => ?_⟩
  · rw [capacity]
    exact le_max_right _ _
  · have ends := ReplayCache.evictLoop_ends (final ReplayCache.insertCall (newCache settings) requests).capacity
      ((final ReplayCache.insertCall (newCache settings) requests).order ++ [key])
      ((final ReplayCache.insertCall (newCache settings) requests).entries.insert key now)
    rwa [List.length_append, List.length_singleton] at ends

/-- **The representation of both caches**, in every state that calls of `check_and_insert` reach, whatever the clock
shows. -/
theorem replay_caches_represented (config : MessageSecurityConfig) :
    (∀ calls : List (AppReplayKey PeerId × UInt64), Represented config.apps
      (calls.map fun call => ⟨some call.1, call.2⟩)
      (final (fun cache call => ReplayCache.checkAndInsert cache call.1 call.2) (AppMessageReplayCache.new config)
        calls)) ∧
    ∀ calls : List (PeerId × HeartbeatEnvelope × UInt64), Represented config.heartbeats
      (calls.map fun call => ⟨replayKey call.1 call.2.1, call.2.2⟩)
      (final (fun cache call => HeartbeatReplayCache.checkAndInsert cache call.1 call.2.1 call.2.2)
        (HeartbeatReplayCache.new config) calls) := by
  constructor
  · intro calls
    rw [final_map _ ReplayCache.insertCall (fun call => ⟨some call.1, call.2⟩) fun cache call => ?_]
    · exact represented_final _ _
    · rfl
  · intro calls
    rw [final_map _ ReplayCache.insertCall (fun call => ⟨replayKey call.1 call.2.1, call.2.2⟩) fun cache call => ?_]
    · exact represented_final _ _
    · unfold HeartbeatReplayCache.checkAndInsert ReplayCache.insertCall
      cases replayKey call.1 call.2.1 <;> rfl

end P2pNet.Protocol
