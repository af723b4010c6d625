/-
**Sent bytes** (`crates/node/commands.rs`, `crates/node/runtime_tasks.rs`, `crates/node/runtime/periodic.rs`).

A publish hands its frames to gossipsub one after the other and stops at the first that gossipsub
refuses. The bytes are recorded when all frames went out, and not at all otherwise
(`publishFrames_ok`, `publishFrames_error`). A heartbeat is recorded whatever gossipsub answers.

So the counter of sent bytes is the sum over the frames gossipsub accepted all along a run exactly when
no publish breaks off after a frame and no heartbeat is refused, unless the counter is at its limit
(`sent_bytes_iff`). `sent_bytes_differ`: a refused heartbeat counts, and the first frame of a message
whose second frame is refused does not.
-/

import P2pNet.Api.FragmentJson
import P2pNet.Api.Metrics
import P2pNet.Node.Events.App
import P2pNet.Protocol.HeartbeatWire

set_option linter.unusedSectionVars false

namespace P2pNet.Node

open Lib PeerIdentity Api Protocol

variable {PeerId : Type} [PeerIdentity PeerId]

/-! ### Publishing -/

/-- What `gossipsub.publish` answers to the frames of one publish, by position: an error or nothing. -/
abbrev PublishAnswers := ℕ → Option String

/-- The loop over the frames: the result, and the frames that gossipsub accepted. -/
def publishFrames (topic : String) (answers : PublishAnswers) :
    ℕ → UInt64 → List (List UInt8) → Except NetError UInt64 × List (List UInt8)
  | _, accountedBytes, [] => (.ok accountedBytes, [])
  | position, accountedBytes, wire :: wires =>
    let accountedBytes := U64.saturatingAdd accountedBytes (accountedTransportBytes wire.length)
    match answers position with
    | some reason => (.error (.appMessage topic reason), [])
    | none =>
      let (result, accepted) := publishFrames topic answers (position + 1) accountedBytes wires
      (result, wire :: accepted)

/-- The parts of the node that do not change while it publishes, and the code outside it. -/
structure Publisher (PeerId : Type) where
  networkId : UInt32
  localPeer : PeerId
  blake3 : Blake3
  messages : SerdeJson AppMessage
  fragments : SerdeJson AppFragment

/-- The topic and the frames of a message. -/
def Publisher.wires (node : Publisher PeerId) (message : AppMessage) : Except NetError (List (List UInt8)) := do
  let _ ← appTopicName message.networkId message.topic
  fragmentMessage PeerId node.blake3 node.messages node.fragments message

def publishAppMessage (node : Publisher PeerId) (message : AppMessage) (answers : PublishAnswers) :
    Except NetError UInt64 × List (List UInt8) :=
  match node.wires message with
  | .error error => (.error error, [])
  | .ok wires => publishFrames message.topic answers 0 0 wires

/-- The part of the `SendMessage` and `Broadcast` commands they share: what gossipsub accepted, and the
metrics. -/
def handlePublish (node : Publisher PeerId) (peer : Option PeerId) (built : Except NetError AppMessage)
    (answers : PublishAnswers) (bandwidth : BandwidthMetrics PeerId) :
    List (List UInt8) × BandwidthMetrics PeerId :=
  match built with
  | .error _ => ([], bandwidth)
  | .ok message =>
    match publishAppMessage node message answers with
    | (.ok bytes, accepted) => (accepted, bandwidth.recordSent peer (some message.topic) bytes)
    | (.error _, accepted) => (accepted, bandwidth)

/-! ### Heartbeats -/

def localHeartbeat (node : Publisher PeerId) (draw : Draw) : Except NetError (List UInt8) :=
  encodeHeartbeatWire PeerId (.new node.blake3 node.localPeer draw.entropy draw.timestampNs)

/-- `publish_heartbeat` and the tick that calls it: the answer of gossipsub is dropped. -/
def handleHeartbeat (node : Publisher PeerId) (draw : Draw) (answer : Option String)
    (bandwidth : BandwidthMetrics PeerId) : List (List UInt8) × BandwidthMetrics PeerId :=
  match localHeartbeat node draw with
  | .error _ => ([], bandwidth)
  | .ok payload =>
    (if answer = none then [payload] else [],
      bandwidth.recordSent none (some "heartbeat") (accountedTransportBytes payload.length))

/-! ### Runs -/

inductive SendEvent (PeerId : Type)
  | sendMessage (peer : PeerId) (topic : String) (payload : List UInt8) (draw : Draw)
      (answers : PublishAnswers)
  | broadcast (topic : String) (payload : List UInt8) (draw : Draw) (answers : PublishAnswers)
  | heartbeat (draw : Draw) (answer : Option String)

/-- One command or tick; the output is the frames that gossipsub accepted. -/
def sendStep (node : Publisher PeerId) (bandwidth : BandwidthMetrics PeerId) :
    SendEvent PeerId → List (List UInt8) × BandwidthMetrics PeerId
  | .sendMessage peer topic payload draw answers => handlePublish node (some peer)
      (AppMessage.addressed node.blake3 node.networkId topic node.localPeer peer payload draw) answers bandwidth
  | .broadcast topic payload draw answers => handlePublish node none
      (AppMessage.broadcast node.blake3 node.networkId topic node.localPeer payload draw) answers bandwidth
  | .heartbeat draw answer => handleHeartbeat node draw answer bandwidth

/-- The accounted size of some frames. -/
def wireSize (wires : List (List UInt8)) : ℕ :=
  (wires.map fun wire => (accountedTransportBytes wire.length).toNat).sum

/-- The publish does not break off after a frame. -/
def Unbroken (node : Publisher PeerId) (built : Except NetError AppMessage) (answers : PublishAnswers) : Prop :=
  ∀ message wires, built = .ok message → node.wires message = .ok wires →
    (∃ position < wires.length, answers position ≠ none) → answers 0 ≠ none

/-- The step sends all its frames or none. -/
def SentWhole (node : Publisher PeerId) : SendEvent PeerId → Prop
  | .sendMessage peer topic payload draw answers =>
    Unbroken node (AppMessage.addressed node.blake3 node.networkId topic node.localPeer peer payload draw) answers
  | .broadcast topic payload draw answers =>
    Unbroken node (AppMessage.broadcast node.blake3 node.networkId topic node.localPeer payload draw) answers
  | .heartbeat draw answer => ∀ payload, localHeartbeat node draw = .ok payload → answer = none

theorem wireSize_cons (wire : List UInt8) (wires : List (List UInt8)) :
    wireSize (wire :: wires) = (accountedTransportBytes wire.length).toNat + wireSize wires := by
  unfold wireSize
  rw [List.map_cons, List.sum_cons]

theorem wireSize_append (first second : List (List UInt8)) :
    wireSize (first ++ second) = wireSize first + wireSize second := by
  unfold wireSize
  rw [List.map_append, List.sum_append]

theorem wireSize_pos {wires : List (List UInt8)} (some : wires ≠ []) : 0 < wireSize wires := by
  cases wires with
  | nil => exact absurd rfl some
  | cons wire rest =>
    have positive := accountedTransportBytes_pos wire.length
    rw [wireSize_cons]
    omega

/-- **All frames accepted**: the result is their size. -/
theorem publishFrames_ok (topic : String) {answers : PublishAnswers} (wires : List (List UInt8))
    (position : ℕ) (accountedBytes : UInt64)
    (accepts : ∀ offset < wires.length, answers (position + offset) = none) :
    ∃ bytes, publishFrames topic answers position accountedBytes wires = (.ok bytes, wires) ∧
      bytes.toNat = min (accountedBytes.toNat + wireSize wires) wordMax := by
  induction wires generalizing position accountedBytes with
  | nil =>
    have bound := U64.toNat_le_wordMax accountedBytes
    exact ⟨accountedBytes, rfl, by simp [wireSize, bound]⟩
  | cons wire rest ih =>
    have first : answers position = none := accepts 0 (Nat.succ_pos _)
    obtain ⟨bytes, runs, total⟩ := ih (position + 1)
      (U64.saturatingAdd accountedBytes (accountedTransportBytes wire.length)) fun offset within => by
        rw [Nat.add_right_comm]
        exact accepts (offset + 1) (Nat.succ_lt_succ within)
    refine ⟨bytes, ?_, ?_⟩
    · simp only [publishFrames, first, runs]
    · rw [total, U64.toNat_saturatingAdd, wireSize_cons]
      omega

/-- **A frame refused**: no result, and nothing went out exactly when it was the first. -/
theorem publishFrames_error (topic : String) {answers : PublishAnswers} (wires : List (List UInt8))
    (position : ℕ) (accountedBytes : UInt64)
    (refuses : ∃ offset < wires.length, answers (position + offset) ≠ none) :
    ∃ error accepted, publishFrames topic answers position accountedBytes wires = (.error error, accepted) ∧
      (accepted = [] ↔ answers position ≠ none) := by
  induction wires generalizing position accountedBytes with
  | nil =>
    obtain ⟨offset, within, _⟩ := refuses
    cases within
  | cons wire rest ih =>
    cases first : answers position with
    | some reason => exact ⟨.appMessage topic reason, [], by simp only [publishFrames, first], by simp⟩
    | none =>
      have later : ∃ offset < rest.length, answers (position + 1 + offset) ≠ none := by
        obtain ⟨offset, within, refused⟩ := refuses
        cases offset with
        | zero => exact absurd first refused
        | succ offset =>
          refine ⟨offset, Nat.lt_of_succ_lt_succ within, ?_⟩
          rw [Nat.add_right_comm]
          exact refused
      obtain ⟨error, accepted, runs, _⟩ :=
        ih (position + 1) (U64.saturatingAdd accountedBytes (accountedTransportBytes wire.length)) later
      exact ⟨error, wire :: accepted, by simp only [publishFrames, first, runs], by simp⟩

theorem publishAppMessage_framed {node : Publisher PeerId} {message : AppMessage} {wires : List (List UInt8)}
    (framed : node.wires message = .ok wires) (answers : PublishAnswers) :
    publishAppMessage node message answers = publishFrames message.topic answers 0 0 wires := by
  unfold publishAppMessage
  rw [framed]

theorem handlePublish_error {node : Publisher PeerId} {message : AppMessage} {answers : PublishAnswers}
    {error : NetError} {accepted : List (List UInt8)}
    (broken : publishAppMessage node message answers = (.error error, accepted)) (peer : Option PeerId)
    (bandwidth : BandwidthMetrics PeerId) :
    handlePublish node peer (.ok message) answers bandwidth = (accepted, bandwidth) := by
  unfold handlePublish
  dsimp only
  rw [broken]

theorem handlePublish_ok {node : Publisher PeerId} {message : AppMessage} {answers : PublishAnswers}
    {bytes : UInt64} {accepted : List (List UInt8)}
    (whole : publishAppMessage node message answers = (.ok bytes, accepted)) (peer : Option PeerId)
    (bandwidth : BandwidthMetrics PeerId) : handlePublish node peer (.ok message) answers bandwidth
      = (accepted, bandwidth.recordSent peer (some message.topic) bytes) := by
  unfold handlePublish
  dsimp only
  rw [whole]

/-- A publish that is broken off leaves the metrics as they were. -/
theorem handlePublish_refused (node : Publisher PeerId) (peer : Option PeerId) {message : AppMessage}
    {wires : List (List UInt8)} (framed : node.wires message = .ok wires) {answers : PublishAnswers}
    (refuses : ∃ position < wires.length, answers position ≠ none) (bandwidth : BandwidthMetrics PeerId) :
    ∃ accepted, handlePublish node peer (.ok message) answers bandwidth = (accepted, bandwidth) ∧
      (accepted = [] ↔ answers 0 ≠ none) := by
  obtain ⟨error, accepted, runs, empty⟩ := publishFrames_error message.topic wires 0 0 (by simpa using refuses)
  exact ⟨accepted, handlePublish_error ((publishAppMessage_framed framed answers).trans runs) peer bandwidth,
    empty⟩

/-- What a step does to the counter, against what gossipsub accepted. -/
structure Sent (before after : BandwidthMetrics PeerId) (accepted : List (List UInt8)) (whole : Prop) : Prop where
  grows : before.totalBytesSent.toNat ≤ after.totalBytesSent.toNat
  counted : whole → after.totalBytesSent.toNat = min (before.totalBytesSent.toNat + wireSize accepted) wordMax
  differs : ¬ whole → before.totalBytesSent.toNat < wordMax →
    after.totalBytesSent.toNat ≠ min (before.totalBytesSent.toNat + wireSize accepted) wordMax

theorem handlePublish_sent (node : Publisher PeerId) (peer : Option PeerId)
    (built : Except NetError AppMessage) (answers : PublishAnswers) (bandwidth : BandwidthMetrics PeerId) :
    Sent bandwidth (handlePublish node peer built answers bandwidth).2
      (handlePublish node peer built answers bandwidth).1 (Unbroken node built answers) := by
  have bound := U64.toNat_le_wordMax bandwidth.totalBytesSent
  have silent : bandwidth.totalBytesSent.toNat
      = min (bandwidth.totalBytesSent.toNat + wireSize []) wordMax := by
    simp [wireSize, bound]
  cases built with
  | error reason => exact ⟨le_rfl, fun _ => silent, fun broken => absurd (fun _ _ => nofun) broken⟩
  | ok message =>
    cases framed : node.wires message with
    | error reason =>
      have nothing : publishAppMessage node message answers = (.error reason, []) := by
        unfold publishAppMessage
        rw [framed]
      rw [handlePublish_error nothing]
      refine ⟨le_rfl, fun _ => silent, fun broken => absurd ?_ broken⟩
      rintro _ wires ⟨⟩ framed'
      cases framed.symm.trans framed'
    | ok wires =>
      by_cases refuses : ∃ position < wires.length, answers position ≠ none
      · obtain ⟨accepted, dropped, empty⟩ := handlePublish_refused node peer framed refuses bandwidth
        rw [dropped]
        refine ⟨le_rfl, fun whole => ?_, fun broken room => ?_⟩
        · rw [empty.mpr (whole message wires rfl framed refuses)]
          exact silent
        · have partly : accepted ≠ [] := by
            intro none
            refine broken fun _ _ _ _ _ => empty.mp none
          have positive := wireSize_pos partly
          show bandwidth.totalBytesSent.toNat ≠ min (_ + wireSize accepted) wordMax
          omega
      · have accepts : ∀ position < wires.length, answers position = none := by
          intro position within
          by_contra refused
          exact refuses ⟨position, within, refused⟩
        obtain ⟨bytes, runs, total⟩ := publishFrames_ok message.topic wires 0 0
          (by simpa using accepts)
        have whole := (publishAppMessage_framed framed answers).trans runs
        have zero : (0 : UInt64).toNat = 0 := rfl
        rw [handlePublish_ok whole]
        refine ⟨?_, fun _ => ?_, fun broken => absurd ?_ broken⟩
        · rw [BandwidthMetrics.recordSent_total, U64.toNat_saturatingAdd]
          omega
        · show _ = min (_ + wireSize wires) wordMax
          rw [BandwidthMetrics.recordSent_total, U64.toNat_saturatingAdd, total, zero]
          omega
        · rintro _ others ⟨⟩ framed' refused
          obtain rfl := Except.ok.inj (framed.symm.trans framed')
          exact absurd refused refuses

theorem handleHeartbeat_sent (node : Publisher PeerId) (draw : Draw) (answer : Option String)
    (bandwidth : BandwidthMetrics PeerId) :
    Sent bandwidth (handleHeartbeat node draw answer bandwidth).2 (handleHeartbeat node draw answer bandwidth).1
      (∀ payload, localHeartbeat node draw = .ok payload → answer = none) := by
  have bound := U64.toNat_le_wordMax bandwidth.totalBytesSent
  cases encoded : localHeartbeat node draw with
  | error reason =>
    have nothing : handleHeartbeat node draw answer bandwidth = ([], bandwidth) := by
      simp only [handleHeartbeat, encoded]
    rw [nothing]
    refine ⟨le_rfl, fun _ => ?_, fun refused => absurd (fun _ => nofun) refused⟩
    simp [wireSize, bound]
  | ok payload =>
    have positive := accountedTransportBytes_pos payload.length
    have recorded : handleHeartbeat node draw answer bandwidth = (if answer = none then [payload] else [],
        bandwidth.recordSent none (some "heartbeat") (accountedTransportBytes payload.length)) := by
      simp only [handleHeartbeat, encoded]
    rw [recorded]
    refine ⟨?_, fun accepts => ?_, fun refused room => ?_⟩
    · rw [BandwidthMetrics.recordSent_total, U64.toNat_saturatingAdd]
      omega
    · rw [if_pos (accepts payload rfl), BandwidthMetrics.recordSent_total, U64.toNat_saturatingAdd]
      simp [wireSize]
    · have lost : answer ≠ none := fun none => refused fun _ _ => none
      rw [if_neg lost, BandwidthMetrics.recordSent_total, U64.toNat_saturatingAdd]
      simp only [wireSize, List.map_nil, List.sum_nil]
      omega

/-- **One step** counts exactly what gossipsub accepted if and only if it sends all its frames or none. -/
theorem sendStep_sent (node : Publisher PeerId) (bandwidth : BandwidthMetrics PeerId)
    (event : SendEvent PeerId) :
    Sent bandwidth (sendStep node bandwidth event).2 (sendStep node bandwidth event).1 (SentWhole node event) := by
  cases event with
  | sendMessage peer topic payload draw answers =>
    unfold sendStep
    exact handlePublish_sent node (some peer) _ answers bandwidth
  | broadcast topic payload draw answers =>
    unfold sendStep
    exact handlePublish_sent node none _ answers bandwidth
  | heartbeat draw answer => exact handleHeartbeat_sent node draw answer bandwidth

/-- The metrics have no influence on what goes out. -/
theorem sendStep_accepted (node : Publisher PeerId) (bandwidth : BandwidthMetrics PeerId)
    (event : SendEvent PeerId) : (sendStep node bandwidth event).1 = (sendStep node .default event).1 := by
  have publish : ∀ peer built answers, (handlePublish node peer built answers bandwidth).1
      = (handlePublish node peer built answers .default).1 := by
    intro peer built answers
    cases built with
    | error reason => rfl
    | ok message =>
      cases outcome : publishAppMessage node message answers with
      | mk result accepted =>
        cases result with
        | error reason => rw [handlePublish_error outcome, handlePublish_error outcome]
        | ok bytes => rw [handlePublish_ok outcome, handlePublish_ok outcome]
  cases event with
  | sendMessage peer topic payload draw answers =>
    unfold sendStep
    exact publish (some peer) _ answers
  | broadcast topic payload draw answers =>
    unfold sendStep
    exact publish none _ answers
  | heartbeat draw answer =>
    show (handleHeartbeat node draw answer bandwidth).1 = (handleHeartbeat node draw answer .default).1
    unfold handleHeartbeat
    generalize localHeartbeat node draw = encoded
    cases encoded <;> rfl

/-- **The sent bytes are the sum over the frames gossipsub accepted** all along a run exactly when every
step sends all its frames or none, or finds the counter at its limit. -/
theorem sent_bytes_iff (node : Publisher PeerId) (start : BandwidthMetrics PeerId)
    (events : List (SendEvent PeerId)) :
    (∀ count ≤ events.length,
      (final (sendStep node) start (events.take count)).totalBytesSent.toNat
        = min (start.totalBytesSent.toNat
          + wireSize (outputs (sendStep node) start (events.take count)).flatten) wordMax) ↔
    ∀ (count : ℕ) (event : SendEvent PeerId), events[count]? = some event →
      SentWhole node event ∨
        (final (sendStep node) start (events.take count)).totalBytesSent.toNat = wordMax := by
  have accepted : ∀ consumed, outputs (sendStep node) start consumed
      = consumed.map fun event => (sendStep node .default event).1 :=
    outputs_eq_map (sendStep node) (sendStep_accepted node) start
  refine relative_iff_each (sendStep node) (fun _ => True)
    (fun consumed bandwidth => bandwidth.totalBytesSent.toNat = min (start.totalBytesSent.toNat
      + wireSize (outputs (sendStep node) start consumed).flatten) wordMax)
    (fun bandwidth event => SentWhole node event ∨ bandwidth.totalBytesSent.toNat = wordMax)
    events (fun _ => trivial) ?_ ?_
  · have bound := U64.toNat_le_wordMax start.totalBytesSent
    simp [outputs, wireSize, bound]
  · intro consumed current event _ _ counted
    have step := sendStep_sent node current event
    have bound := U64.toNat_le_wordMax current.totalBytesSent
    have kept := U64.toNat_le_wordMax (sendStep node current event).2.totalBytesSent
    have grown : wireSize (outputs (sendStep node) start (consumed ++ [event])).flatten
        = wireSize (outputs (sendStep node) start consumed).flatten
          + wireSize (sendStep node current event).1 := by
      rw [accepted, accepted, List.map_append, List.flatten_append, wireSize_append,
        sendStep_accepted node current event]
      simp
    rw [grown]
    by_cases whole : SentWhole node event
    · have exactly := step.counted whole
      refine ⟨fun _ => .inl whole, fun _ => ?_⟩
      omega
    · have differs := step.differs whole
      have grows := step.grows
      rw [or_iff_right whole]
      omega

/-! ### A refused heartbeat and a refused second fragment -/

namespace Refused

/-- BLAKE3 at the sample payload and at the random bytes of a nonce. -/
def blake3 : Blake3 := fun data =>
  if data.length = 32 then ⟨0 :: List.replicate 31 0, rfl⟩ else Sample.blake3 data

def node : Publisher Seed := ⟨1, .nnoo, blake3, Sample.messages, Sample.codec⟩

def draw : Draw := ⟨List.replicate 32 0, 1700000000000000000⟩

def heartbeat : SendEvent Seed := .heartbeat draw (some "InsufficientPeers")

/-- Gossipsub takes the first frame and no other. -/
def answers : PublishAnswers := fun position => if position = 0 then none else some "InsufficientPeers"

def publish : SendEvent Seed := .broadcast "fragment-test" (List.replicate 16385 7) draw answers

theorem built : AppMessage.broadcast blake3 1 "fragment-test" Seed.nnoo (List.replicate 16385 7) draw
    = .ok (Sample.message 0) := by
  have topic : normalizeAppTopic "fragment-test" = .ok "fragment-test" := by decide
  have small : ¬ (List.replicate 16385 (7 : UInt8)).length > maxAppMessageBytes := by
    rw [List.length_replicate]
    decide
  unfold AppMessage.broadcast AppMessage.new validateAppPayloadLen
  rw [topic, ok_bind, rejectIf_neg small, ok_bind]
  rfl

theorem fragmentAt_eq (index : ℕ) : fragmentAt blake3 (Sample.message 0) index = Sample.fragment 0 index := by
  have long : ¬ (Sample.message 0).payload.length = 32 := by
    rw [Sample.payload_length]
    decide
  have hash : blake3 (Sample.message 0).payload = Sample.blake3 (Sample.message 0).payload := if_neg long
  unfold Sample.fragment fragmentAt fragmentOf payloadHash
  rw [hash]

theorem wires : node.wires (Sample.message 0) = .ok ((List.range (fragmentCount (Sample.message 0))).map
    fun index => fragmentWire (Sample.fragment 0 index)) := by
  have topic : appTopicName 1 "fragment-test" = .ok "p2p-net/app/v2/net-1/fragment-test" := by decide
  show (appTopicName 1 "fragment-test" >>= fun _ => _) = _
  rw [topic, ok_bind]
  refine fragmentMessage_ok Seed blake3 Sample.messages Sample.codec (Sample.message_accepted 0) ?_
    fun index within => ?_
  · rw [Sample.payload_length]
    decide
  · rw [Sample.fragmentCount_eq] at within
    rw [fragmentAt_eq, encodeFragment_ok_iff]
    exact ⟨rfl, Sample.wire_length_le 0 index within⟩

theorem heartbeat_step : ∃ payload, sendStep node .default heartbeat
    = ([], BandwidthMetrics.recordSent .default none (some "heartbeat") (accountedTransportBytes payload)) := by
  have encodes : (localHeartbeat node draw).isOk = true := by decide
  cases encoded : localHeartbeat node draw with
  | error reason =>
    rw [encoded] at encodes
    cases encodes
  | ok payload =>
    refine ⟨payload.length, ?_⟩
    show handleHeartbeat node draw (some "InsufficientPeers") .default = _
    simp only [handleHeartbeat, encoded, reduceCtorEq, if_false]

theorem publish_built : sendStep node .default publish
    = handlePublish node none (.ok (Sample.message 0)) answers .default := by
  rw [← built]
  rfl

theorem publish_step : ∃ accepted, sendStep node .default publish = (accepted, .default) ∧ accepted ≠ [] := by
  have refuses : ∃ position < ((List.range (fragmentCount (Sample.message 0))).map
      fun index => fragmentWire (Sample.fragment 0 index)).length, answers position ≠ none := by
    refine ⟨1, ?_, nofun⟩
    rw [List.length_map, List.length_range, Sample.fragmentCount_eq]
    exact one_lt_two
  obtain ⟨accepted, dropped, first⟩ := handlePublish_refused node none wires refuses .default
  exact ⟨accepted, publish_built.trans dropped, fun none => first.mp none rfl⟩

end Refused

/-- **A refused heartbeat counts, and a frame that went out before a refused one does not.** -/
theorem sent_bytes_differ :
    (wireSize (outputs (sendStep Refused.node) .default [Refused.heartbeat]).flatten = 0 ∧
      0 < (final (sendStep Refused.node) .default [Refused.heartbeat]).totalBytesSent.toNat) ∧
    0 < wireSize (outputs (sendStep Refused.node) .default [Refused.publish]).flatten ∧
      (final (sendStep Refused.node) .default [Refused.publish]).totalBytesSent.toNat = 0 := by
  obtain ⟨payload, beats⟩ := Refused.heartbeat_step
  obtain ⟨accepted, publishes, partly⟩ := Refused.publish_step
  refine ⟨⟨?_, ?_⟩, ?_, ?_⟩
  · rw [outputs, outputs, beats]
    rfl
  · have positive := accountedTransportBytes_pos payload
    have limit := U64.toNat_le_wordMax (accountedTransportBytes payload)
    rw [final_cons, final_nil, beats, BandwidthMetrics.recordSent_total, U64.toNat_saturatingAdd]
    omega
  · rw [outputs, outputs, publishes, List.flatten_cons, List.flatten_nil, List.append_nil]
    exact wireSize_pos partly
  · rw [final_cons, final_nil, publishes]
    rfl

end P2pNet.Node
