/-
**Receiving application messages** (`crates/node/events/app.rs`).

`handleAppMessage` takes one gossipsub message of an application topic through decoding, reassembly,
authentication and replay protection. What it does to its own state is the returned context, what it
does to the rest of the node (the validation report to gossipsub, reputation, metrics, delivery) is the
list of effects, in order.

A fragment that is delivered once more is meant to be an idempotent ignore. `duplicate_ignored_iff`:
it is one exactly when both memory ceilings would leave room to store it again, because the ceilings
are checked before the slot is looked at. `duplicate_penalized`: with 128 first fragments of one author
in memory, the second delivery of any of them is reported as invalid and costs the author reputation.
-/

import P2pNet.Api.ReassemblerRuns
import P2pNet.Protocol.ReplayProtection

set_option linter.unusedSectionVars false

namespace P2pNet.Node

open Lib PeerIdentity Api Protocol

variable {PeerId MessageId : Type} [PeerIdentity PeerId]

/-! ### The handler -/

inductive MessageAcceptance
  | accept
  | reject
  | ignore
  deriving DecidableEq, Repr

/-- What the handler does outside its own state. -/
inductive AppEffect (PeerId MessageId : Type)
  | reportMessageValidationResult (id : MessageId) (source : PeerId) (acceptance : MessageAcceptance)
  | reputationAccept (peer : PeerId)
  | reputationPenalizeInvalid (peer : PeerId)
  | reputationIgnoreDuplicate (peer : PeerId)
  | recordReceived (peer : Option PeerId) (topic : Option String) (bytes : UInt64)
  | deliver (message : AppMessage)
  | appReceived
  | appIgnored
  | appRejected
  | pulse (text : String)

/-- The part of `SwarmEventContext` the handler reads and writes. -/
structure AppContext (PeerId : Type) where
  networkId : UInt32
  localPeer : PeerId
  messageSecurity : MessageSecurityConfig
  appReplayCache : AppMessageReplayCache PeerId
  appFragmentReassembler : AppFragmentReassembler PeerId

/-- A gossipsub message as the event loop hands it over. -/
structure GossipMessage (PeerId MessageId : Type) where
  propagationSource : PeerId
  authenticatedSource : Option PeerId
  messageId : MessageId
  receivedTopic : String
  data : List UInt8

/-- The clock readings of one call: the two instants of a push and the wall clock. -/
structure Readings where
  now : ℕ
  created : ℕ
  unixTimestampNs : UInt64

def transportAccountingOverheadBytes : UInt64 := 64

def accountedTransportBytes (serializedLen : ℕ) : UInt64 :=
  U64.saturatingAdd (UInt64.ofNat (min serializedLen wordMax)) transportAccountingOverheadBytes

theorem accountedTransportBytes_pos (len : ℕ) : 0 < (accountedTransportBytes len).toNat := by
  have overhead : transportAccountingOverheadBytes.toNat = 64 := rfl
  unfold accountedTransportBytes
  rw [U64.toNat_saturatingAdd, overhead]
  unfold wordMax
  omega

theorem accountedTransportBytes_le {len bound : ℕ} (within : len ≤ bound) :
    (accountedTransportBytes len).toNat ≤ bound + 64 := by
  have overhead : transportAccountingOverheadBytes.toNat = 64 := rfl
  unfold accountedTransportBytes
  rw [U64.toNat_saturatingAdd, overhead, U64.toNat_ofNat (min_le_right _ _)]
  omega

def rejectAppMessage (gossip : GossipMessage PeerId MessageId) (authenticatedSource : Option PeerId)
    (accountedBytes : UInt64) (reason : String) : List (AppEffect PeerId MessageId) :=
  (authenticatedSource.toList.map .reputationPenalizeInvalid) ++
    [.reportMessageValidationResult gossip.messageId gossip.propagationSource .reject,
      .recordReceived (some gossip.propagationSource) none accountedBytes,
      .appRejected,
      .pulse s!"peer {toText gossip.propagationSource} rejected_app_message {reason}"]

/-- The checks and effects of a message that is complete, in one frame or after reassembly. -/
def processCompleteMessage (ctx : AppContext PeerId) (gossip : GossipMessage PeerId MessageId)
    (author : PeerId) (accountedBytes : UInt64) (message : AppMessage) (unixTimestampNs : UInt64) :
    List (AppEffect PeerId MessageId) × AppContext PeerId :=
  if message.networkId ≠ ctx.networkId ∨
      (validateAppMessageAuthentication message author gossip.receivedTopic).isOk = false then
    (rejectAppMessage gossip (some author) accountedBytes "application authentication/topic mismatch", ctx)
  else
    let (decision, appReplayCache) := validateAppMessageSecurity author message unixTimestampNs
      ctx.messageSecurity ctx.appReplayCache
    let ctx := { ctx with appReplayCache }
    match decision with
    | .ignoreDuplicate =>
      ([.reputationIgnoreDuplicate author,
        .reportMessageValidationResult gossip.messageId gossip.propagationSource .ignore,
        .recordReceived (some gossip.propagationSource) (some message.topic) accountedBytes,
        .appIgnored,
        .pulse s!"peer {toText author} ignored_duplicate_app_message"], ctx)
    | .reject =>
      (rejectAppMessage gossip (some author) accountedBytes
        "application freshness/replay validation failed", ctx)
    | .accept =>
      ([.reportMessageValidationResult gossip.messageId gossip.propagationSource .accept,
        .reputationAccept author,
        .recordReceived (some gossip.propagationSource) (some message.topic) accountedBytes] ++
        (if message.isForPeer ctx.localPeer then [.deliver message, .appReceived] else [.appIgnored]), ctx)

/-- A frame that is not a whole message: it is a fragment or nothing. -/
def handleFragment (blake3 : Blake3) (fragments : SerdeJson AppFragment) (ctx : AppContext PeerId)
    (gossip : GossipMessage PeerId MessageId) (author : PeerId) (accountedBytes : UInt64)
    (readings : Readings) : Except Fault (List (AppEffect PeerId MessageId) × AppContext PeerId) :=
  let reject := rejectAppMessage gossip (some author) accountedBytes
  match decodeFragment PeerId fragments gossip.data with
  | .error _ => .ok (reject "invalid application envelope/fragment", ctx)
  | .ok fragment =>
    match appTopicName fragment.networkId fragment.topic with
    | .error _ => .ok (reject "invalid fragment topic", ctx)
    | .ok expectedTopic =>
      if fragment.networkId ≠ ctx.networkId ∨ fragment.sourcePeerId ≠ toText author ∨
          expectedTopic ≠ gossip.receivedTopic then
        .ok (reject "fragment authentication/topic mismatch", ctx)
      else do
        let (reassembled, appFragmentReassembler) ← ctx.appFragmentReassembler.push blake3 author fragment
          readings.now readings.created
        let ctx := { ctx with appFragmentReassembler }
        let received := .recordReceived (some gossip.propagationSource) none accountedBytes
        match reassembled with
        | .error _ => return (reject "fragment reassembly rejected", ctx)
        | .ok none =>
          return ([received,
            .reportMessageValidationResult gossip.messageId gossip.propagationSource .accept], ctx)
        | .ok (some message) =>
          let (effects, ctx) :=
            processCompleteMessage ctx gossip author accountedBytes message readings.unixTimestampNs
          return (received :: effects, ctx)

def handleAppMessage (blake3 : Blake3) (messages : SerdeJson AppMessage)
    (fragments : SerdeJson AppFragment) (ctx : AppContext PeerId) (gossip : GossipMessage PeerId MessageId)
    (readings : Readings) : Except Fault (List (AppEffect PeerId MessageId) × AppContext PeerId) :=
  let accountedBytes := accountedTransportBytes gossip.data.length
  match gossip.authenticatedSource with
  | none =>
    .ok (rejectAppMessage gossip none accountedBytes "missing authenticated Gossipsub author", ctx)
  | some author =>
    match decodeAppMessage PeerId messages gossip.data with
    | .ok message =>
      .ok (processCompleteMessage ctx gossip author accountedBytes message readings.unixTimestampNs)
    | .error _ => handleFragment blake3 fragments ctx gossip author accountedBytes readings

/-! ### Fragments that arrive twice -/

section Redelivery

open AppFragmentReassembler

variable (blake3 : Blake3) (messages : SerdeJson AppMessage) (fragments : SerdeJson AppFragment)

/-- The frame carries the fragment of this author, for this network and on its topic. -/
structure Carries (ctx : AppContext PeerId) (gossip : GossipMessage PeerId MessageId) (author : PeerId)
    (fragment : AppFragment) : Prop where
  authored : gossip.authenticatedSource = some author
  notWhole : ∃ reason, decodeAppMessage PeerId messages gossip.data = .error reason
  decoded : decodeFragment PeerId fragments gossip.data = .ok fragment
  topic : appTopicName fragment.networkId fragment.topic = .ok gossip.receivedTopic
  network : fragment.networkId = ctx.networkId

variable {blake3 messages fragments}

/-- **Such a frame reaches the reassembler**, and the answer of the push decides what follows. -/
theorem Carries.run {ctx : AppContext PeerId} {gossip : GossipMessage PeerId MessageId}
    {author : PeerId} {fragment : AppFragment} (carries : Carries messages fragments ctx gossip author fragment)
    (source : fragment.sourcePeerId = toText author) (readings : Readings)
    {result : AppFragmentReassembler.PushResult} {after : AppFragmentReassembler PeerId}
    (pushed : ctx.appFragmentReassembler.push blake3 author fragment readings.now readings.created
      = .ok (result, after)) :
    handleAppMessage blake3 messages fragments ctx gossip readings =
      let bytes := accountedTransportBytes gossip.data.length
      let received := .recordReceived (some gossip.propagationSource) none bytes
      let ctx := { ctx with appFragmentReassembler := after }
      match result with
      | .error _ => .ok (rejectAppMessage gossip (some author) bytes "fragment reassembly rejected", ctx)
      | .ok none => .ok ([received,
          .reportMessageValidationResult gossip.messageId gossip.propagationSource .accept], ctx)
      | .ok (some message) =>
        let complete := processCompleteMessage ctx gossip author bytes message readings.unixTimestampNs
        .ok (received :: complete.1, complete.2) := by
  obtain ⟨reason, notWhole⟩ := carries.notWhole
  have passes : ¬ (fragment.networkId ≠ ctx.networkId ∨ fragment.sourcePeerId ≠ toText author ∨
      gossip.receivedTopic ≠ gossip.receivedTopic) := by
    rw [not_or, not_or, not_not, not_not, not_not]
    exact ⟨carries.network, source, rfl⟩
  unfold handleAppMessage handleFragment
  simp only [carries.authored, notWhole, carries.decoded, carries.topic, if_neg passes, pushed, ok_bind]
  rcases result with reason | (_ | message)
  · rfl
  · rfl
  · rfl

/-- The effects of a fragment that completes no message. -/
theorem Carries.handled {ctx : AppContext PeerId} {gossip : GossipMessage PeerId MessageId}
    {author : PeerId} {fragment : AppFragment} (carries : Carries messages fragments ctx gossip author fragment)
    (source : fragment.sourcePeerId = toText author) {s after : AppFragmentReassembler PeerId}
    (holds : ctx.appFragmentReassembler = s) (readings : Readings)
    {result : AppFragmentReassembler.PushResult}
    (pushed : s.push blake3 author fragment readings.now readings.created = .ok (result, after)) :
    ∃ effects changed, handleAppMessage blake3 messages fragments ctx gossip readings = .ok (effects, changed) ∧
      (result = .ok none → effects = [
        .recordReceived (some gossip.propagationSource) none (accountedTransportBytes gossip.data.length),
        .reportMessageValidationResult gossip.messageId gossip.propagationSource .accept]) ∧
      (∀ reason, result = .error reason → effects = rejectAppMessage gossip (some author)
        (accountedTransportBytes gossip.data.length) "fragment reassembly rejected") := by
  subst holds
  rw [carries.run source readings pushed]
  rcases result with reason | (_ | message)
  · exact ⟨_, _, rfl, nofun, fun _ _ => rfl⟩
  · exact ⟨_, _, rfl, fun _ => rfl, nofun⟩
  · exact ⟨_, _, rfl, nofun, nofun⟩

/-- The wires of the sample fragments are no whole messages. -/
theorem sample_not_whole (number : UInt8) {index : ℕ} (within : index < 2) :
    ∃ reason, decodeAppMessage Seed Sample.messages (fragmentWire (Sample.fragment number index))
      = .error reason := by
  have short : ¬ (fragmentWire (Sample.fragment number index)).length > 6 * maxAppMessageBytes := by
    have bound := Sample.wire_length_le number index within
    have ceiling : maxFragmentWireBytes ≤ 6 * maxAppMessageBytes := by decide
    omega
  refine ⟨.appMessage "<unknown>" "missing field `schema_version`", ?_⟩
  unfold decodeAppMessage
  rw [rejectIf_neg short, ok_bind]
  rfl

namespace Redelivered

/-- One author's first fragments in memory, and the first of them once more from a neighbour. -/
def state (count : ℕ) : AppFragmentReassembler Seed := final (pushStep Sample.blake3) empty (flood count)

def context (count : ℕ) : AppContext Seed where
  networkId := 1
  localPeer := .qcu2
  messageSecurity := .default
  appReplayCache := .new .default
  appFragmentReassembler := state count

theorem context_reassembler (count : ℕ) : (context count).appFragmentReassembler = state count := by
  simp only [context]

def gossip : GossipMessage Seed ℕ where
  propagationSource := .qcu2
  authenticatedSource := some .nnoo
  messageId := 7
  receivedTopic := "p2p-net/app/v2/net-1/fragment-test"
  data := fragmentWire (Sample.fragment 0 0)

theorem gossip_data : gossip.data = fragmentWire (Sample.fragment 0 0) := by
  simp only [gossip]

theorem gossip_decoded : decodeFragment Seed Sample.codec gossip.data = .ok (Sample.fragment 0 0) := by
  rw [gossip_data]
  exact Sample.decodeFragment_wire 0 Nat.zero_lt_two

theorem gossip_topic : appTopicName (Sample.fragment 0 0).networkId (Sample.fragment 0 0).topic
    = .ok gossip.receivedTopic := by
  show appTopicName 1 "fragment-test" = .ok "p2p-net/app/v2/net-1/fragment-test"
  decide

theorem carries (count : ℕ) :
    Carries Sample.messages Sample.codec (context count) gossip .nnoo (Sample.fragment 0 0) := by
  refine ⟨rfl, ?_, gossip_decoded, gossip_topic, rfl⟩
  rw [gossip_data]
  exact sample_not_whole 0 Nat.zero_lt_two

/-- The fragment is there, and young. -/
theorem present {count : ℕ} (positive : 0 < count) (small : count ≤ 128) : ∃ entry chunk,
    (state count).entries.lookup (reassemblyKey .nnoo (Sample.fragment 0 0)) = some entry ∧
      isExpired 0 entry = false ∧ sameMessage entry.fragment (Sample.fragment 0 0) = true ∧
      entry.chunks[(Sample.fragment 0 0).index]? = some (some chunk) := by
  have flooded := flooded_final small
  obtain ⟨entry, found, same, chunk, filled⟩ := flooded.held 0 positive
  exact ⟨entry, chunk, found, flooded.isExpired found, same, filled⟩

theorem totals {count : ℕ} (small : count ≤ 128) :
    Table.total (bytesOf .nnoo) (liveEntries (state count) 0) = count * 16384 ∧
      Table.total (fun _ entry => entry.bytes) (liveEntries (state count) 0) = count * 16384 := by
  have flooded := flooded_final small
  obtain ⟨live, _, kept, lookups⟩ := expire_spec flooded.accounted 0
  have before := flooded.live kept lookups
  refine ⟨?_, ?_⟩
  · exact (total_live lookups _).symm.trans ((kept.peer_eq .nnoo).symm.trans before.counted)
  · exact (total_live lookups _).symm.trans (kept.global_eq.symm.trans before.total)

end Redelivered

/-- The effects report the message as invalid or cost somebody reputation. -/
def Blames (effects : List (AppEffect PeerId MessageId)) : Prop :=
  (∃ peer, .reputationPenalizeInvalid peer ∈ effects) ∨
    ∃ id source, .reportMessageValidationResult id source .reject ∈ effects

variable (blake3 messages fragments)

/-- **A fragment delivered once more is an idempotent ignore exactly when both ceilings would leave room
to store it again**: the push then answers `Ok(None)` and only drops old entries, and the handler
neither reports the frame as invalid nor penalizes its author. -/
theorem duplicate_ignored_iff {s : AppFragmentReassembler PeerId}
    (reached : Reachable (pushStep blake3) (fun event => Accepted PeerId fragments event.fragment) empty s)
    {author : PeerId} {fragment : AppFragment} (accepted : Accepted PeerId fragments fragment)
    {now created : ℕ} {entry : ReassemblyEntry} {chunk : List UInt8}
    (found : s.entries.lookup (reassemblyKey author fragment) = some entry)
    (young : isExpired now entry = false) (same : sameMessage entry.fragment fragment = true)
    (present : entry.chunks[fragment.index]? = some (some chunk)) :
    (∃ live, expire saturatingSub s now = .ok live ∧
      push blake3 s author fragment now created = .ok (.ok none, live) ∧
      ∀ (ctx : AppContext PeerId) (gossip : GossipMessage PeerId MessageId) (readings : Readings),
        ctx.appFragmentReassembler = s → readings.now = now → readings.created = created →
        Carries messages fragments ctx gossip author fragment →
        ∃ effects changed, handleAppMessage blake3 messages fragments ctx gossip readings
          = .ok (effects, changed) ∧ ¬ Blames effects) ↔
    Table.total (bytesOf author) (liveEntries s now) + fragment.payload.length
        ≤ maxReassemblyBytesPerPeer ∧
      Table.total (fun _ entry => entry.bytes) (liveEntries s now) + fragment.payload.length
        ≤ maxReassemblyBytesGlobal := by
  have owned := reachable_owned reached
  obtain ⟨live, result, expires, pushed, answer⟩ := push_duplicate blake3 (reachable_accounted reached)
    owned accepted.valid created found young same present
  constructor
  · rintro ⟨_, _, ignored, _⟩
    rw [pushed] at ignored
    by_contra full
    rw [if_neg full] at answer
    subst answer
    cases ignored
  · intro room
    rw [if_pos room] at answer
    subst answer
    refine ⟨live, expires, pushed, ?_⟩
    rintro ctx gossip readings rfl rfl rfl carries
    obtain ⟨effects, changed, handled, accepts, _⟩ :=
      carries.handled (owned.source found same) rfl readings pushed
    refine ⟨effects, changed, handled, ?_⟩
    rw [accepts rfl]
    simp [Blames]

theorem duplicate_ignored_iff_single : ∃ effects changed, handleAppMessage Sample.blake3 Sample.messages
    Sample.codec (Redelivered.context 1) Redelivered.gossip ⟨0, 0, 0⟩ = .ok (effects, changed) ∧
      ¬ Blames effects := by
  have reached : Reachable (pushStep Sample.blake3)
      (fun event => Accepted Seed Sample.codec event.fragment) empty (Redelivered.state 1) :=
    reachable_final (flood 1) (flood_accepted 1)
  have small : 1 ≤ 128 := by norm_num
  obtain ⟨entry, chunk, found, young, same, filled⟩ := Redelivered.present Nat.one_pos small
  obtain ⟨live, _, _, handled⟩ := (duplicate_ignored_iff Sample.blake3 Sample.messages Sample.codec
    reached ⟨_, Redelivered.gossip_decoded⟩ found young same filled).mpr (by
      rw [(Redelivered.totals small).1, (Redelivered.totals small).2, Sample.length_payload]
      decide)
  exact handled (Redelivered.context 1) Redelivered.gossip ⟨0, 0, 0⟩ (Redelivered.context_reassembler 1)
    rfl rfl (Redelivered.carries 1)

/-- **The ceiling is hit first**: 128 fragments of 16 KiB fill one author's share, and the second delivery
of a fragment that is there is answered by an error, a rejection and a penalty. -/
theorem duplicate_penalized : (∃ entry chunk,
    (Redelivered.state 128).entries.lookup (reassemblyKey .nnoo (Sample.fragment 0 0)) = some entry ∧
      isExpired 0 entry = false ∧ sameMessage entry.fragment (Sample.fragment 0 0) = true ∧
      entry.chunks[(Sample.fragment 0 0).index]? = some (some chunk)) ∧
    (∃ live, push Sample.blake3 (Redelivered.state 128) .nnoo (Sample.fragment 0 0) 0 0
      = .ok (.error (appError "fragment-test" "fragment reassembly memory ceiling exceeded"), live)) ∧
    ∃ effects changed, handleAppMessage Sample.blake3 Sample.messages Sample.codec
        (Redelivered.context 128) Redelivered.gossip ⟨0, 0, 0⟩ = .ok (effects, changed) ∧
      .reputationPenalizeInvalid Seed.nnoo ∈ effects ∧
      .reportMessageValidationResult 7 Seed.qcu2 .reject ∈ effects := by
  have flooded : Flooded 128 (Redelivered.state 128) := flooded_final le_rfl
  have owned : Owned (Redelivered.state 128) :=
    reachable_owned (reachable_final (flood 128) (flood_accepted 128))
  obtain ⟨entry, chunk, found, young, same, filled⟩ := Redelivered.present (by norm_num) (le_refl 128)
  obtain ⟨live, result, _, pushed, answer⟩ := push_duplicate Sample.blake3 flooded.accounted owned
    (Sample.fragment_valid 0 Nat.zero_lt_two) 0 found young same filled
  have totals := Redelivered.totals (le_refl 128)
  rw [totals.1, totals.2, Sample.length_payload, if_neg (by decide)] at answer
  subst answer
  obtain ⟨effects, changed, handled, _, rejects⟩ := (Redelivered.carries 128).handled
    (owned.source found same) (Redelivered.context_reassembler 128) ⟨0, 0, 0⟩ pushed
  refine ⟨⟨entry, chunk, found, young, same, filled⟩, ⟨live, pushed⟩, effects, changed, handled, ?_⟩
  rw [rejects _ rfl]
  exact ⟨List.mem_cons_self, List.mem_cons_of_mem _ List.mem_cons_self⟩

end Redelivery

end P2pNet.Node
