/-
**Received bytes** (`crates/node/events/app.rs`, `crates/api/metrics.rs`).

Every application frame that arrives is to be counted once. `handleAppMessage_frame`: a frame is counted
once, except that a fragment which completes its message is counted in the fragment path and again as a
message. So the counter of received bytes is the sum of the frames all along a run exactly when no frame
of the run completes a message, unless the counter is at its limit anyway (`received_bytes_iff`); the two
frames of one message are counted as three (`completing_fragment_counted_twice`).
-/

import P2pNet.Api.FragmentRoundTrip
import P2pNet.Api.Metrics
import P2pNet.Node.Events.App

set_option linter.unusedSectionVars false

namespace P2pNet.Node

open Lib PeerIdentity Api Protocol AppFragmentReassembler

variable {PeerId MessageId : Type} [PeerIdentity PeerId]

/-! ### Frames that arrive -/

section Received

/-- What an effect does to the metrics. -/
def AppEffect.account (bandwidth : BandwidthMetrics PeerId) :
    AppEffect PeerId MessageId → BandwidthMetrics PeerId
  | .recordReceived peer topic bytes => bandwidth.recordReceived peer topic bytes
  | _ => bandwidth

/-- The amounts the effects record as received. -/
def recorded (effects : List (AppEffect PeerId MessageId)) : List UInt64 :=
  effects.filterMap fun
    | .recordReceived _ _ bytes => some bytes
    | _ => none

theorem foldl_account_total (effects : List (AppEffect PeerId MessageId))
    (bandwidth : BandwidthMetrics PeerId) :
    (effects.foldl AppEffect.account bandwidth).totalBytesReceived
      = (recorded effects).foldl U64.saturatingAdd bandwidth.totalBytesReceived := by
  induction effects generalizing bandwidth with
  | nil => rfl
  | cons effect rest ih =>
    rw [List.foldl_cons, ih]
    cases effect <;> rfl

theorem recorded_reject (gossip : GossipMessage PeerId MessageId) (author : Option PeerId)
    (bytes : UInt64) (reason : String) : recorded (rejectAppMessage gossip author bytes reason) = [bytes] := by
  cases author <;> rfl

/-- A complete message is counted on every branch. -/
theorem recorded_complete (ctx : AppContext PeerId) (gossip : GossipMessage PeerId MessageId)
    (author : PeerId) (bytes : UInt64) (message : AppMessage) (now : UInt64) :
    recorded (processCompleteMessage ctx gossip author bytes message now).1 = [bytes] := by
  unfold processCompleteMessage
  split_ifs with mismatch
  · exact recorded_reject gossip _ bytes _
  · rcases validateAppMessageSecurity author message now ctx.messageSecurity ctx.appReplayCache with
      ⟨decision, cache⟩
    cases decision with
    | ignoreDuplicate => rfl
    | reject => exact recorded_reject gossip _ bytes _
    | accept =>
      by_cases here : message.isForPeer ctx.localPeer = true
      · simp [recorded, here]
      · simp [recorded, here]

/-- A complete message changes nothing but the replay cache. -/
theorem complete_context (ctx : AppContext PeerId) (gossip : GossipMessage PeerId MessageId)
    (author : PeerId) (bytes : UInt64) (message : AppMessage) (now : UInt64) :
    ∃ cache, (processCompleteMessage ctx gossip author bytes message now).2
      = { ctx with appReplayCache := cache } := by
  unfold processCompleteMessage
  split_ifs with mismatch
  · exact ⟨_, rfl⟩
  · rcases validateAppMessageSecurity author message now ctx.messageSecurity ctx.appReplayCache with
      ⟨decision, cache⟩
    cases decision <;> exact ⟨cache, rfl⟩

variable (blake3 : Blake3) (messages : SerdeJson AppMessage) (fragments : SerdeJson AppFragment)

/-- The frame completes a message, and the message passes the checks of the reassembler. -/
def Reassembles (ctx : AppContext PeerId) (gossip : GossipMessage PeerId MessageId)
    (readings : Readings) : Prop :=
  ∃ author fragment live, Carries messages fragments ctx gossip author fragment ∧
    expire saturatingSub ctx.appFragmentReassembler readings.now = .ok live ∧
    HandsOut blake3 live author fragment

/-- The handler runs, and it counts the frame once, or twice when the frame completes a message. -/
def CountsFrame (ctx : AppContext PeerId) (gossip : GossipMessage PeerId MessageId)
    (readings : Readings) : Prop :=
  ∃ effects changed, handleAppMessage blake3 messages fragments ctx gossip readings = .ok (effects, changed) ∧
    Accounted changed.appFragmentReassembler ∧
    (Reassembles blake3 messages fragments ctx gossip readings →
      recorded effects = List.replicate 2 (accountedTransportBytes gossip.data.length)) ∧
    (¬ Reassembles blake3 messages fragments ctx gossip readings →
      recorded effects = List.replicate 1 (accountedTransportBytes gossip.data.length))

variable {blake3 messages fragments}

/-- A rejected frame is counted once. -/
theorem countsFrame_rejected {ctx : AppContext PeerId} (accounted : Accounted ctx.appFragmentReassembler)
    {gossip : GossipMessage PeerId MessageId} {readings : Readings} {author : Option PeerId} {reason : String}
    (handled : handleAppMessage blake3 messages fragments ctx gossip readings = .ok
      (rejectAppMessage gossip author (accountedTransportBytes gossip.data.length) reason, ctx))
    (never : ¬ Reassembles blake3 messages fragments ctx gossip readings) :
    CountsFrame blake3 messages fragments ctx gossip readings :=
  ⟨_, ctx, handled, accounted, fun completes => absurd completes never,
    fun _ => recorded_reject gossip author _ reason⟩

theorem Carries.unique {ctx : AppContext PeerId} {gossip : GossipMessage PeerId MessageId}
    {author other : PeerId} {fragment second : AppFragment}
    (carries : Carries messages fragments ctx gossip author fragment)
    (again : Carries messages fragments ctx gossip other second) : author = other ∧ fragment = second :=
  ⟨Option.some.inj (carries.authored.symm.trans again.authored),
    Except.ok.inj (carries.decoded.symm.trans again.decoded)⟩

/-- A frame that reaches the reassembler is counted by what the push answers. -/
theorem Carries.counted {ctx : AppContext PeerId} {gossip : GossipMessage PeerId MessageId}
    {author : PeerId} {fragment : AppFragment} (carries : Carries messages fragments ctx gossip author fragment)
    (source : fragment.sourcePeerId = toText author) {after : AppFragmentReassembler PeerId}
    (readings : Readings) {result : PushResult}
    (pushed : ctx.appFragmentReassembler.push blake3 author fragment readings.now readings.created
      = .ok (result, after)) :
    ∃ effects changed, handleAppMessage blake3 messages fragments ctx gossip readings = .ok (effects, changed) ∧
      (∃ cache, changed = { ctx with appReplayCache := cache, appFragmentReassembler := after }) ∧
      ((∃ message, result = .ok (some message)) →
        recorded effects = List.replicate 2 (accountedTransportBytes gossip.data.length)) ∧
      ((¬ ∃ message, result = .ok (some message)) →
        recorded effects = List.replicate 1 (accountedTransportBytes gossip.data.length)) := by
  rw [carries.run source readings pushed]
  rcases result with reason | (_ | message)
  · exact ⟨_, _, rfl, ⟨_, rfl⟩, nofun, fun _ => recorded_reject gossip _ _ _⟩
  · exact ⟨_, _, rfl, ⟨_, rfl⟩, nofun, fun _ => rfl⟩
  · refine ⟨_, _, rfl, complete_context _ gossip author _ message _, fun _ => ?_,
      fun unfinished => absurd ⟨message, rfl⟩ unfinished⟩
    exact congrArg (accountedTransportBytes gossip.data.length :: ·)
      (recorded_complete _ gossip author _ message _)

/-- A frame that is not a whole message. -/
theorem handleFragment_frame {ctx : AppContext PeerId} (accounted : Accounted ctx.appFragmentReassembler)
    (gossip : GossipMessage PeerId MessageId) (readings : Readings) {author : PeerId}
    (authored : gossip.authenticatedSource = some author)
    (notWhole : ∃ reason, decodeAppMessage PeerId messages gossip.data = .error reason) :
    CountsFrame blake3 messages fragments ctx gossip readings := by
  obtain ⟨reason, broken⟩ := notWhole
  have enters : handleAppMessage blake3 messages fragments ctx gossip readings = handleFragment blake3 fragments
      ctx gossip author (accountedTransportBytes gossip.data.length) readings := by
    unfold handleAppMessage
    simp only [authored, broken]
  cases decoded : decodeFragment PeerId fragments gossip.data with
  | error wrong =>
    apply countsFrame_rejected accounted
    · rw [enters, handleFragment, decoded]
    · rintro ⟨_, fragment, _, carries, _⟩
      cases decoded.symm.trans carries.decoded
  | ok fragment =>
    cases topic : appTopicName fragment.networkId fragment.topic with
    | error wrong =>
      apply countsFrame_rejected accounted
      · rw [enters, handleFragment, decoded]
        simp only [topic]
        rfl
      · rintro ⟨_, other, _, carries, _⟩
        obtain rfl := Except.ok.inj (decoded.symm.trans carries.decoded)
        cases topic.symm.trans carries.topic
    | ok expected =>
      by_cases mismatch : fragment.networkId ≠ ctx.networkId ∨ fragment.sourcePeerId ≠ toText author ∨
          expected ≠ gossip.receivedTopic
      · apply countsFrame_rejected accounted
        · rw [enters, handleFragment, decoded]
          simp only [topic, if_pos mismatch]
          rfl
        · rintro ⟨other, second, _, carries, _, handsOut⟩
          obtain rfl := Except.ok.inj (decoded.symm.trans carries.decoded)
          obtain rfl := Option.some.inj (authored.symm.trans carries.authored)
          rcases mismatch with network | source | channel
          · exact absurd carries.network network
          · exact absurd handsOut.1.1 source
          · exact absurd (Except.ok.inj (topic.symm.trans carries.topic)) channel
      · rw [not_or, not_or, not_not, not_not, not_not] at mismatch
        obtain ⟨network, source, rfl⟩ := mismatch
        have carries : Carries messages fragments ctx gossip author fragment :=
          ⟨authored, ⟨reason, broken⟩, decoded, topic, network⟩
        have valid : fragment.Valid PeerId := Accepted.valid ⟨_, decoded⟩
        obtain ⟨live, result, after, expires, kept, _, runs, step⟩ :=
          push_case blake3 accounted author valid readings.now readings.created
        have pushed : ctx.appFragmentReassembler.push blake3 author fragment readings.now readings.created
            = .ok (result, after) := runs saturatingSub saturatingSub_sound
        have lives := expires saturatingSub saturatingSub_sound
        obtain ⟨effects, changed, handled, ⟨_, rfl⟩, twice, once⟩ := carries.counted source readings pushed
        have returns := push_message_iff blake3 accounted valid lives pushed
        refine ⟨effects, _, handled, step.accounted valid kept, ?_, fun whole => once ?_⟩
        · rintro ⟨_, _, _, again, still, handsOut⟩
          obtain ⟨rfl, rfl⟩ := carries.unique again
          obtain rfl := Except.ok.inj (lives.symm.trans still)
          exact twice (returns.mpr handsOut)
        · intro returned
          exact whole ⟨author, fragment, live, carries, lives, returns.mp returned⟩

/-- **Every frame is counted once**, and once more when it completes a message. -/
theorem handleAppMessage_frame {ctx : AppContext PeerId} (accounted : Accounted ctx.appFragmentReassembler)
    (gossip : GossipMessage PeerId MessageId) (readings : Readings) :
    CountsFrame blake3 messages fragments ctx gossip readings := by
  cases authored : gossip.authenticatedSource with
  | none =>
    apply countsFrame_rejected accounted
    · unfold handleAppMessage
      simp only [authored]
      rfl
    · rintro ⟨author, fragment, live, carries, _⟩
      cases authored.symm.trans carries.authored
  | some author =>
    cases whole : decodeAppMessage PeerId messages gossip.data with
    | ok message =>
      have handled : handleAppMessage blake3 messages fragments ctx gossip readings
          = .ok (processCompleteMessage ctx gossip author (accountedTransportBytes gossip.data.length) message
            readings.unixTimestampNs) := by
        unfold handleAppMessage
        simp only [authored, whole]
      have counted := recorded_complete ctx gossip author (accountedTransportBytes gossip.data.length) message
        readings.unixTimestampNs
      have context := complete_context ctx gossip author (accountedTransportBytes gossip.data.length) message
        readings.unixTimestampNs
      generalize processCompleteMessage ctx gossip author _ message _ = outcome at handled counted context
      obtain ⟨effects, changed⟩ := outcome
      obtain ⟨cache, rfl⟩ := context
      refine ⟨effects, _, handled, accounted, ?_, fun _ => counted⟩
      rintro ⟨_, fragment, live, carries, _⟩
      obtain ⟨reason, notWhole⟩ := carries.notWhole
      cases whole.symm.trans notWhole
    | error reason =>
      exact handleFragment_frame accounted gossip readings authored ⟨reason, whole⟩

/-! ### Runs of arriving frames -/

structure Receiving (PeerId : Type) where
  ctx : AppContext PeerId
  bandwidth : BandwidthMetrics PeerId

abbrev Frame (PeerId MessageId : Type) := GossipMessage PeerId MessageId × Readings

variable (blake3 messages fragments)

/-- A call that faults leaves no state behind; the old one stands for it. -/
def receiveStep (s : Receiving PeerId) (frame : Frame PeerId MessageId) :
    Except Fault (List (AppEffect PeerId MessageId)) × Receiving PeerId :=
  match handleAppMessage blake3 messages fragments s.ctx frame.1 frame.2 with
  | .ok (effects, ctx) => (.ok effects, ⟨ctx, effects.foldl AppEffect.account s.bandwidth⟩)
  | .error fault => (.error fault, s)

/-- The accounted sizes of some frames. -/
def accountedSize (frames : List (Frame PeerId MessageId)) : ℕ :=
  (frames.map fun frame => (accountedTransportBytes frame.1.data.length).toNat).sum

/-- The frame completes no message, unless its size alone takes the counter to its limit. -/
def CountedOnce (s : Receiving PeerId) (frame : Frame PeerId MessageId) : Prop :=
  Reassembles blake3 messages fragments s.ctx frame.1 frame.2 →
    wordMax ≤ s.bandwidth.totalBytesReceived.toNat + (accountedTransportBytes frame.1.data.length).toNat

theorem accountedSize_pair (first second : Frame PeerId MessageId) : accountedSize [first, second]
    = (accountedTransportBytes first.1.data.length).toNat
      + (accountedTransportBytes second.1.data.length).toNat := by
  unfold accountedSize
  rw [List.map_cons, List.map_cons, List.map_nil, List.sum_cons, List.sum_cons, List.sum_nil, add_zero]

theorem receiveStep_handled (s : Receiving PeerId) (frame : Frame PeerId MessageId)
    {effects : List (AppEffect PeerId MessageId)} {changed : AppContext PeerId}
    (handled : handleAppMessage blake3 messages fragments s.ctx frame.1 frame.2 = .ok (effects, changed)) :
    receiveStep blake3 messages fragments s frame
      = (.ok effects, ⟨changed, effects.foldl AppEffect.account s.bandwidth⟩) := by
  unfold receiveStep
  rw [handled]

/-- **One frame**: no fault, and the counter grows by one size or by two. -/
theorem receiveStep_total {s : Receiving PeerId} (accounted : Accounted s.ctx.appFragmentReassembler)
    (frame : Frame PeerId MessageId) :
    Accounted (receiveStep blake3 messages fragments s frame).2.ctx.appFragmentReassembler ∧
      (Reassembles blake3 messages fragments s.ctx frame.1 frame.2 →
        (receiveStep blake3 messages fragments s frame).2.bandwidth.totalBytesReceived.toNat
          = min (s.bandwidth.totalBytesReceived.toNat + 2 * (accountedTransportBytes frame.1.data.length).toNat)
            wordMax) ∧
      (¬ Reassembles blake3 messages fragments s.ctx frame.1 frame.2 →
        (receiveStep blake3 messages fragments s frame).2.bandwidth.totalBytesReceived.toNat
          = min (s.bandwidth.totalBytesReceived.toNat + (accountedTransportBytes frame.1.data.length).toNat)
            wordMax) := by
  obtain ⟨effects, changed, handled, kept, twice, once⟩ :
      CountsFrame blake3 messages fragments s.ctx frame.1 frame.2 :=
    handleAppMessage_frame accounted frame.1 frame.2
  rw [receiveStep_handled blake3 messages fragments s frame handled]
  refine ⟨kept, fun completes => ?_, fun whole => ?_⟩
  · rw [foldl_account_total, twice completes, U64.toNat_foldl_saturatingAdd, List.map_replicate,
      List.sum_replicate, smul_eq_mul]
  · rw [foldl_account_total, once whole, U64.toNat_foldl_saturatingAdd, List.map_replicate,
      List.sum_replicate, smul_eq_mul, one_mul]

theorem receive_accounted {start : Receiving PeerId} (accounted : Accounted start.ctx.appFragmentReassembler)
    (frames : List (Frame PeerId MessageId)) :
    Accounted (final (receiveStep blake3 messages fragments) start frames).ctx.appFragmentReassembler := by
  refine final_induct (receiveStep blake3 messages fragments)
    (fun _ s => Accounted s.ctx.appFragmentReassembler) frames accounted ?_
  intro _ frame _ current _ kept
  exact (receiveStep_total blake3 messages fragments kept frame).1

end Received

/-! ### The two frames of one message -/

namespace TwoFrames

/-- The frame of the sample message at an index, from a neighbour. -/
def frame (index : ℕ) : Frame Seed ℕ :=
  (⟨.qcu2, some .nnoo, index, "p2p-net/app/v2/net-1/fragment-test", fragmentWire (Sample.fragment 0 index)⟩,
    ⟨0, 0, 0⟩)

def start : Receiving Seed where
  ctx := {
    networkId := 1
    localPeer := .qcu2
    messageSecurity := .default
    appReplayCache := .new .default
    appFragmentReassembler := empty }
  bandwidth := .default

theorem frame_data (index : ℕ) : (frame index).1.data = fragmentWire (Sample.fragment 0 index) := by
  simp only [frame]

theorem carries {index : ℕ} (within : index < 2) (ctx : AppContext Seed) (network : ctx.networkId = 1) :
    Carries Sample.messages Sample.codec ctx (frame index).1 .nnoo (Sample.fragment 0 index) := by
  refine ⟨rfl, ?_, ?_, ?_, network.symm⟩
  · rw [frame_data]
    exact sample_not_whole 0 within
  · rw [frame_data]
    exact Sample.decodeFragment_wire 0 within
  · show appTopicName 1 "fragment-test" = .ok "p2p-net/app/v2/net-1/fragment-test"
    decide

/-- The pushes of the two frames. -/
def event (index : ℕ) : PushEvent Seed := ⟨.nnoo, Sample.fragment 0 index, 0, 0⟩

theorem supplies {index : ℕ} (within : index < 2) :
    Supplies Sample.blake3 (Sample.message 0) Seed.nnoo (event index) index := by
  have two := Sample.fragmentCount_eq 0
  exact ⟨by omega, rfl, rfl⟩

theorem covered_iff (events : List (PushEvent Seed)) :
    Covered Sample.blake3 (Sample.message 0) Seed.nnoo events ↔
      ∀ index < 2, Seen Sample.blake3 (Sample.message 0) Seed.nnoo events index := by
  unfold Covered
  rw [Sample.fragmentCount_eq]

/-- The first frame is stored, and the second one completes the message. -/
theorem pushes : ∃ half done, pushStep Sample.blake3 empty (event 0) = (.ok (.ok none), half) ∧
    pushStep Sample.blake3 half (event 1) = (.ok (.ok (some (Sample.message 0))), done) := by
  have long : appFragmentPayloadBytes < (Sample.message 0).payload.length := by
    rw [Sample.payload_length]
    decide
  have source : (Sample.message 0).sourcePeerId = toText Seed.nnoo := rfl
  have small : ∀ index, (event index).fragment.payload.length ≤ 16384 := fun _ => List.length_take_le _ _
  have unseen : ¬ Covered Sample.blake3 (Sample.message 0) Seed.nnoo [event 0] := by
    rw [covered_iff]
    intro covered
    obtain ⟨only, member, brings⟩ := covered 1 Nat.one_lt_two
    rw [List.mem_singleton.mp member] at brings
    cases brings.index_unique (supplies Nat.zero_lt_two)
  have nothing : ¬ Covered Sample.blake3 (Sample.message 0) Seed.nnoo [] := by
    rw [covered_iff]
    intro covered
    obtain ⟨_, member, _⟩ := covered 0 Nat.zero_lt_two
    cases member
  obtain ⟨_, first⟩ := progress_empty.supply (Sample.message_accepted 0) long source
    (supplies Nat.zero_lt_two) le_rfl (fun _ member => nomatch member)
    (fun _ expires => flooded_empty.room (by norm_num) (small 0) expires) nothing
  obtain ⟨stored, progress⟩ := first unseen
  have one : flood 1 = [event 0] := rfl
  have flooded : Flooded 1 (final (pushStep Sample.blake3) empty (flood 1)) := flooded_final (by norm_num)
  rw [one, final_cons, final_nil] at flooded
  generalize pushStep Sample.blake3 empty (event 0) = outcome at stored progress flooded ⊢
  obtain ⟨answer, half⟩ := outcome
  obtain ⟨last, _⟩ := progress.supply (Sample.message_accepted 0) long source (supplies Nat.one_lt_two)
    le_rfl (fun earlier member _ _ => by rw [List.mem_singleton.mp member]; decide)
    (fun _ expires => flooded.room (by norm_num) (small 1) expires) unseen
  have covered : Covered Sample.blake3 (Sample.message 0) Seed.nnoo ([event 0] ++ [event 1]) := by
    rw [covered_iff]
    intro index within
    interval_cases index
    · exact ⟨event 0, List.mem_cons_self, supplies Nat.zero_lt_two⟩
    · exact ⟨event 1, List.mem_cons_of_mem _ List.mem_cons_self, supplies Nat.one_lt_two⟩
  have completed : (pushStep Sample.blake3 half (event 1)).1 = .ok (.ok (some (Sample.message 0))) :=
    last covered
  generalize second : pushStep Sample.blake3 half (event 1) = outcome at completed
  obtain ⟨other, done⟩ := outcome
  exact ⟨half, done, congrArg (·, half) stored, second.trans (congrArg (·, done) completed)⟩

theorem push_of_answer {s t : AppFragmentReassembler Seed} (event : PushEvent Seed) {result : PushResult}
    (answered : pushStep Sample.blake3 s event = (.ok result, t)) :
    s.push Sample.blake3 event.author event.fragment event.now event.created = .ok (result, t) := by
  unfold pushStep at answered
  cases pushed : s.push Sample.blake3 event.author event.fragment event.now event.created with
  | error fault =>
    rw [pushed] at answered
    cases answered
  | ok outcome =>
    rw [pushed] at answered
    cases answered
    rfl

/-- One of the two frames, by what its push answers. -/
theorem receive {index : ℕ} (within : index < 2) (state : Receiving Seed) {s t : AppFragmentReassembler Seed}
    (network : state.ctx.networkId = 1) (holds : state.ctx.appFragmentReassembler = s) {result : PushResult}
    (answered : pushStep Sample.blake3 s (event index) = (.ok result, t)) :
    ∃ next copies, (receiveStep Sample.blake3 Sample.messages Sample.codec state (frame index)).2 = next ∧
      next.ctx.networkId = 1 ∧ next.ctx.appFragmentReassembler = t ∧
      next.bandwidth.totalBytesReceived.toNat = min (state.bandwidth.totalBytesReceived.toNat
        + copies * (accountedTransportBytes (frame index).1.data.length).toNat) wordMax ∧
      ((∃ message, result = .ok (some message)) → copies = 2) ∧
      ((¬ ∃ message, result = .ok (some message)) → copies = 1) := by
  subst holds
  have pushed := push_of_answer (event index) answered
  obtain ⟨effects, _, handled, ⟨cache, rfl⟩, twice, once⟩ :=
    (carries within state.ctx network).counted rfl ⟨0, 0, 0⟩ pushed
  have total : ∀ copies, recorded effects
        = List.replicate copies (accountedTransportBytes (frame index).1.data.length) →
      (effects.foldl AppEffect.account state.bandwidth).totalBytesReceived.toNat
        = min (state.bandwidth.totalBytesReceived.toNat
          + copies * (accountedTransportBytes (frame index).1.data.length).toNat) wordMax := by
    intro copies counted
    rw [foldl_account_total, counted, U64.toNat_foldl_saturatingAdd, List.map_replicate, List.sum_replicate,
      smul_eq_mul]
  have step := receiveStep_handled Sample.blake3 Sample.messages Sample.codec state (frame index) handled
  by_cases message : ∃ message, result = .ok (some message)
  · exact ⟨_, 2, congrArg Prod.snd step, network, rfl, total 2 (twice message), fun _ => rfl,
      fun none => absurd message none⟩
  · exact ⟨_, 1, congrArg Prod.snd step, network, rfl, total 1 (once message),
      fun some => absurd some message, fun _ => rfl⟩

theorem size_le {index : ℕ} (within : index < 2) :
    (accountedTransportBytes (frame index).1.data.length).toNat ≤ 131072 + 64 := by
  apply accountedTransportBytes_le
  rw [frame_data]
  exact Sample.wire_length_le 0 index within

end TwoFrames

section Received

variable (blake3 : Blake3) (messages : SerdeJson AppMessage) (fragments : SerdeJson AppFragment)

/-- **The received bytes are the sum of the frames** all along a run exactly when no frame completes a
message, unless its size alone takes the counter to its limit. -/
theorem received_bytes_iff (start : Receiving PeerId)
    (reached : Reachable (pushStep blake3) (fun event => Accepted PeerId fragments event.fragment) empty
      start.ctx.appFragmentReassembler) (frames : List (Frame PeerId MessageId)) :
    (∀ count ≤ frames.length,
      (final (receiveStep blake3 messages fragments) start (frames.take count)).bandwidth.totalBytesReceived.toNat
        = min (start.bandwidth.totalBytesReceived.toNat + accountedSize (frames.take count)) wordMax) ↔
    ∀ (count : ℕ) (frame : Frame PeerId MessageId), frames[count]? = some frame →
      CountedOnce blake3 messages fragments
        (final (receiveStep blake3 messages fragments) start (frames.take count)) frame := by
  refine relative_iff_each (receiveStep blake3 messages fragments)
    (fun s => Accounted s.ctx.appFragmentReassembler)
    (fun consumed s => s.bandwidth.totalBytesReceived.toNat
      = min (start.bandwidth.totalBytesReceived.toNat + accountedSize consumed) wordMax)
    (CountedOnce blake3 messages fragments) frames (fun count => receive_accounted blake3 messages fragments (reachable_accounted reached) _) ?_ ?_
  · have bound := U64.toNat_le_wordMax start.bandwidth.totalBytesReceived
    simp only [accountedSize, List.map_nil, List.sum_nil]
    omega
  · intro consumed current frame _ accounted counted
    obtain ⟨_, twice, once⟩ := receiveStep_total blake3 messages fragments accounted frame
    have positive := accountedTransportBytes_pos frame.1.data.length
    have grown : accountedSize (consumed ++ [frame])
        = accountedSize consumed + (accountedTransportBytes frame.1.data.length).toNat := by
      simp [accountedSize]
    by_cases completes : Reassembles blake3 messages fragments current.ctx frame.1 frame.2
    · rw [twice completes, grown, counted]
      constructor
      · intro same _
        omega
      · intro limit
        have full := limit completes
        omega
    · rw [once completes, grown, counted]
      refine ⟨fun _ completed => absurd completed completes, fun _ => ?_⟩
      omega

end Received

theorem received_bytes_iff_first :
    (final (receiveStep Sample.blake3 Sample.messages Sample.codec) TwoFrames.start
        [TwoFrames.frame 0]).bandwidth.totalBytesReceived.toNat
      = min (TwoFrames.start.bandwidth.totalBytesReceived.toNat + accountedSize [TwoFrames.frame 0]) wordMax := by
  have each : ∀ (count : ℕ) (frame : Frame Seed ℕ), [TwoFrames.frame 0][count]? = some frame →
      CountedOnce Sample.blake3 Sample.messages Sample.codec (final (receiveStep Sample.blake3 Sample.messages
        Sample.codec) TwoFrames.start ([TwoFrames.frame 0].take count)) frame := by
    intro count frame here completes
    obtain ⟨within, _⟩ := List.getElem?_eq_some_iff.mp here
    obtain rfl : count = 0 := Nat.lt_one_iff.mp within
    obtain ⟨_, _, live, _, expires, ⟨_, _, entry, found, _⟩, _⟩ := completes
    -- nothing is in memory yet
    cases (Except.ok.inj expires : empty = live)
    cases found
  have whole : [TwoFrames.frame 0].take 1 = [TwoFrames.frame 0] := rfl
  have always := (received_bytes_iff Sample.blake3 Sample.messages Sample.codec TwoFrames.start .refl
    [TwoFrames.frame 0]).mpr each 1 le_rfl
  rw [whole] at always
  exact always

/-- **The fragment that completes a message is counted twice**: after its two frames the counter has the
size of the second one beyond their sum. -/
theorem completing_fragment_counted_twice :
    (final (receiveStep Sample.blake3 Sample.messages Sample.codec) TwoFrames.start
        [TwoFrames.frame 0, TwoFrames.frame 1]).bandwidth.totalBytesReceived.toNat
      = accountedSize [TwoFrames.frame 0, TwoFrames.frame 1]
        + (accountedTransportBytes (TwoFrames.frame 1).1.data.length).toNat := by
  obtain ⟨_, _, stored, completed⟩ := TwoFrames.pushes
  obtain ⟨half, _, first, network, holds, firstTotal, _, once⟩ :=
    TwoFrames.receive Nat.zero_lt_two TwoFrames.start rfl rfl stored
  obtain ⟨whole, _, second, _, _, secondTotal, twice, _⟩ :=
    TwoFrames.receive Nat.one_lt_two half network holds completed
  have firstSize := TwoFrames.size_le Nat.zero_lt_two
  have secondSize := TwoFrames.size_le Nat.one_lt_two
  have zero : TwoFrames.start.bandwidth.totalBytesReceived.toNat = 0 := rfl
  have limit : wordMax = 18446744073709551615 := rfl
  have one := once nofun
  have two := twice ⟨_, rfl⟩
  rw [final_cons, first, final_cons, second, final_nil, secondTotal, firstTotal, zero, one, two,
    accountedSize_pair]
  generalize (accountedTransportBytes (TwoFrames.frame 0).1.data.length).toNat = size at firstSize ⊢
  generalize (accountedTransportBytes (TwoFrames.frame 1).1.data.length).toNat = last at secondSize ⊢
  omega

end P2pNet.Node
