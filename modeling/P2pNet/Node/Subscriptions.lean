/-
**Topic subscriptions** (`crates/api/subscriptions.rs`, `NodeHandle::subscribe` in `crates/node/handle.rs`,
`subscribe_app_topic` in `crates/node/commands.rs`).

`subscribe` joins the gossip topic of the normalised text and returns a filter on the text as it was
given; an accepted envelope also keeps its topic as it was written. A subscription is due every message
that is delivered on its gossip topic while it is open. `deliver_topic`: a delivered message belongs to the
gossip topic it came on, so that no subscription yields more than it is due.

`subscriptions_served_iff`: all along a run every subscription yields exactly what it is due if and only
if every message delivered on the gossip topic of an open subscription carries the very text that was
given to `subscribe`. `padded_subscription_starves`: a subscription to `" chat "` yields nothing.
-/

import P2pNet.Node.Events.App

set_option linter.unusedSectionVars false

namespace P2pNet.Node

open Lib PeerIdentity Api Protocol

variable {PeerId MessageId : Type} [PeerIdentity PeerId]

/-! ### Subscriptions -/

/-- The filter and the messages in the receiver. -/
structure AppSubscription where
  topic : String
  receiver : List AppMessage

/-- `recv`: messages with another topic are dropped; when none is left the call waits. -/
def AppSubscription.recv (subscription : AppSubscription) : Option AppMessage × AppSubscription :=
  match subscription.receiver.dropWhile fun message => message.topic ≠ subscription.topic with
  | [] => (none, { subscription with receiver := [] })
  | message :: rest => (some message, { subscription with receiver := rest })

/-- What the receiver still holds for the subscription. -/
def AppSubscription.pending (subscription : AppSubscription) : List AppMessage :=
  subscription.receiver.filter fun message => message.topic = subscription.topic

/-- **`recv` returns the first pending message**, and the others stay pending. -/
theorem AppSubscription.recv_pending (subscription : AppSubscription) :
    subscription.recv.1.toList ++ subscription.recv.2.pending = subscription.pending ∧
      subscription.recv.2.topic = subscription.topic := by
  obtain ⟨topic, receiver⟩ := subscription
  induction receiver with
  | nil => exact ⟨rfl, rfl⟩
  | cons message rest ih =>
    by_cases matching : message.topic = topic
    · simp [recv, pending, matching]
    · have skips : AppSubscription.recv ⟨topic, message :: rest⟩ = AppSubscription.recv ⟨topic, rest⟩ := by
        simp [recv, matching]
      rw [skips]
      refine ⟨ih.1.trans ?_, ih.2⟩
      simp [pending, matching]

/-- A subscription with what `recv` has returned from it, and what has been delivered on its gossip
topic since it was opened. -/
structure Watched where
  subscription : AppSubscription
  yielded : List AppMessage
  due : List AppMessage

/-- Everything that is due has been yielded or is pending, and nothing else. -/
def Watched.Served (watched : Watched) : Prop :=
  watched.yielded ++ watched.subscription.pending = watched.due

/-! ### Runs -/

structure Listening (PeerId : Type) where
  ctx : AppContext PeerId
  appTopicHashes : List String
  watched : List Watched

inductive ListenEvent (PeerId MessageId : Type)
  | subscribe (topic : String) (answer : Option String)
  | gossip (gossip : GossipMessage PeerId MessageId) (readings : Readings)
  | recv (position : ℕ)
  | drop (position : ℕ)

/-- The messages the effects hand to the application. -/
def delivered (effects : List (AppEffect PeerId MessageId)) : List AppMessage :=
  effects.filterMap fun
    | .deliver message => some message
    | _ => none

/-- Is this the gossip topic of a text? -/
def isGossipTopic (networkId : UInt32) (topic receivedTopic : String) : Bool :=
  match appTopicName networkId topic with
  | .ok name => name == receivedTopic
  | .error _ => false

/-- `messages_tx.send` at one receiver. -/
def Watched.hear (networkId : UInt32) (receivedTopic : String) (messages : List AppMessage)
    (watched : Watched) : Watched where
  subscription := { watched.subscription with receiver := watched.subscription.receiver ++ messages }
  yielded := watched.yielded
  due := if isGossipTopic networkId watched.subscription.topic receivedTopic then watched.due ++ messages
    else watched.due

def Watched.recv (watched : Watched) : Watched where
  subscription := watched.subscription.recv.2
  yielded := watched.yielded ++ watched.subscription.recv.1.toList
  due := watched.due

/-- `subscribe_app_topic`, with the answer of gossipsub, and the subscription handed out. -/
def subscribeAppTopic (s : Listening PeerId) (topic : String) (answer : Option String) : Listening PeerId :=
  match appTopicName s.ctx.networkId topic, answer with
  | .ok name, none =>
    { s with
      appTopicHashes := if s.appTopicHashes.contains name then s.appTopicHashes else s.appTopicHashes ++ [name]
      watched := s.watched ++ [⟨⟨topic, []⟩, [], []⟩] }
  | _, _ => s

variable (blake3 : Blake3) (messages : SerdeJson AppMessage) (fragments : SerdeJson AppFragment)

/-- What the handler does with a gossip message on an application topic; a fault leaves no state behind. -/
def heard (s : Listening PeerId) (gossip : GossipMessage PeerId MessageId) (readings : Readings) :
    List AppMessage × AppContext PeerId :=
  if s.appTopicHashes.contains gossip.receivedTopic then
    match handleAppMessage blake3 messages fragments s.ctx gossip readings with
    | .ok (effects, ctx) => (delivered effects, ctx)
    | .error _ => ([], s.ctx)
  else ([], s.ctx)

def listenStep (s : Listening PeerId) : ListenEvent PeerId MessageId → Unit × Listening PeerId
  | .subscribe topic answer => ((), subscribeAppTopic s topic answer)
  | .gossip gossip readings =>
    ((), {
      ctx := (heard blake3 messages fragments s gossip readings).2
      appTopicHashes := s.appTopicHashes
      watched := s.watched.map (.hear s.ctx.networkId gossip.receivedTopic
        (heard blake3 messages fragments s gossip readings).1) })
  | .recv position => ((), { s with watched := s.watched.modify position .recv })
  | .drop position => ((), { s with watched := s.watched.eraseIdx position })

/-- Every message the step delivers on the gossip topic of an open subscription carries the text that
was given to `subscribe`. -/
def SameSpelling (s : Listening PeerId) : ListenEvent PeerId MessageId → Prop
  | .gossip gossip readings => ∀ watched ∈ s.watched,
    appTopicName s.ctx.networkId watched.subscription.topic = .ok gossip.receivedTopic →
      ∀ message ∈ (heard blake3 messages fragments s gossip readings).1,
        message.topic = watched.subscription.topic
  | _ => True

/-! ### What is delivered -/

theorem isGossipTopic_iff {networkId : UInt32} {topic receivedTopic : String} :
    isGossipTopic networkId topic receivedTopic = true ↔ appTopicName networkId topic = .ok receivedTopic := by
  unfold isGossipTopic
  cases appTopicName networkId topic with
  | error reason => simp
  | ok name => simp

theorem delivered_reject (gossip : GossipMessage PeerId MessageId) (author : Option PeerId) (bytes : UInt64)
    (reason : String) : delivered (rejectAppMessage gossip author bytes reason) = [] := by
  cases author <;> rfl

theorem authentication_topic {message : AppMessage} {author : PeerId} {receivedTopic : String}
    (authentic : validateAppMessageAuthentication message author receivedTopic = .ok ()) :
    appTopicName message.networkId message.topic = .ok receivedTopic := by
  unfold validateAppMessageAuthentication at authentic
  rw [bind_ok_iff] at authentic
  obtain ⟨claimed, _, authentic⟩ := authentic
  rw [bind_unit_ok_iff, bind_ok_iff] at authentic
  obtain ⟨_, expected, named, same⟩ := authentic
  rw [rejectIf_ok_iff, not_not] at same
  rw [named, same]

theorem complete_deliver_topic (ctx : AppContext PeerId) (gossip : GossipMessage PeerId MessageId)
    (author : PeerId) (bytes : UInt64) (message : AppMessage) (now : UInt64) :
    ∀ other ∈ delivered (processCompleteMessage ctx gossip author bytes message now).1,
      appTopicName ctx.networkId other.topic = .ok gossip.receivedTopic := by
  unfold processCompleteMessage
  split_ifs with mismatch
  · rw [delivered_reject]
    exact nofun
  · rw [not_or, not_not, Bool.not_eq_false] at mismatch
    obtain ⟨network, authentic⟩ := mismatch
    have topic : appTopicName ctx.networkId message.topic = .ok gossip.receivedTopic := by
      rw [← network]
      cases checked : validateAppMessageAuthentication message author gossip.receivedTopic with
      | error reason =>
        rw [checked] at authentic
        cases authentic
      | ok => exact authentication_topic checked
    rcases validateAppMessageSecurity author message now ctx.messageSecurity ctx.appReplayCache with
      ⟨decision, cache⟩
    cases decision with
    | ignoreDuplicate => exact nofun
    | reject =>
      show ∀ other ∈ delivered (rejectAppMessage gossip (some author) bytes _), _
      rw [delivered_reject]
      exact nofun
    | accept =>
      by_cases here : message.isForPeer ctx.localPeer = true
      · simp [delivered, here, topic]
      · simp [delivered, here]

variable {blake3 messages fragments}

theorem fragment_deliver_topic {ctx changed : AppContext PeerId} {gossip : GossipMessage PeerId MessageId}
    {author : PeerId} {bytes : UInt64} {readings : Readings} {effects : List (AppEffect PeerId MessageId)}
    (handled : handleFragment blake3 fragments ctx gossip author bytes readings = .ok (effects, changed)) :
    ∀ message ∈ delivered effects, appTopicName ctx.networkId message.topic = .ok gossip.receivedTopic := by
  have rejected : ∀ reason, effects = rejectAppMessage gossip (some author) bytes reason →
      ∀ message ∈ delivered effects, appTopicName ctx.networkId message.topic = .ok gossip.receivedTopic := by
    rintro reason rfl
    rw [delivered_reject]
    exact nofun
  unfold handleFragment at handled
  simp only at handled
  split at handled
  · exact rejected _ (Prod.mk.inj (Except.ok.inj handled)).1.symm
  · split at handled
    · exact rejected _ (Prod.mk.inj (Except.ok.inj handled)).1.symm
    · split_ifs at handled with mismatch
      · exact rejected _ (Prod.mk.inj (Except.ok.inj handled)).1.symm
      · obtain ⟨⟨result, after⟩, _, finished⟩ := bind_ok_iff.mp handled
        rcases result with reason | (_ | message)
        · exact rejected _ (Prod.mk.inj (Except.ok.inj finished)).1.symm
        · rw [← (Prod.mk.inj (Except.ok.inj finished)).1]
          exact nofun
        · rw [← (Prod.mk.inj (Except.ok.inj finished)).1]
          exact complete_deliver_topic { ctx with appFragmentReassembler := after } gossip author bytes message _

/-- **A delivered message belongs to the gossip topic it came on.** -/
theorem deliver_topic {ctx changed : AppContext PeerId} {gossip : GossipMessage PeerId MessageId}
    {readings : Readings} {effects : List (AppEffect PeerId MessageId)}
    (handled : handleAppMessage blake3 messages fragments ctx gossip readings = .ok (effects, changed)) :
    ∀ message ∈ delivered effects, appTopicName ctx.networkId message.topic = .ok gossip.receivedTopic := by
  unfold handleAppMessage at handled
  simp only at handled
  split at handled
  · rw [← (Prod.mk.inj (Except.ok.inj handled)).1, delivered_reject]
    exact nofun
  · split at handled
    · have same := congrArg Prod.fst (Except.ok.inj handled)
      change _ = effects at same
      rw [← same]
      exact complete_deliver_topic ctx gossip _ _ _ _
    · exact fragment_deliver_topic handled

theorem heard_topic {s : Listening PeerId} {gossip : GossipMessage PeerId MessageId} {readings : Readings} :
    ∀ message ∈ (heard blake3 messages fragments s gossip readings).1,
      appTopicName s.ctx.networkId message.topic = .ok gossip.receivedTopic := by
  unfold heard
  split_ifs with joined
  · cases handled : handleAppMessage blake3 messages fragments s.ctx gossip readings with
    | error fault => exact nofun
    | ok outcome => exact deliver_topic handled
  · exact nofun

/-! ### One step -/

theorem Watched.recv_served_iff (watched : Watched) : watched.recv.Served ↔ watched.Served := by
  unfold Watched.Served Watched.recv
  rw [List.append_assoc, watched.subscription.recv_pending.1]

/-- **Hearing messages of one gossip topic** keeps a subscription served exactly when, on its own gossip
topic, they carry its text. -/
theorem Watched.hear_served_iff {networkId : UInt32} {receivedTopic : String} {heard : List AppMessage}
    (onTopic : ∀ message ∈ heard, appTopicName networkId message.topic = .ok receivedTopic)
    {watched : Watched} (served : watched.Served) :
    (watched.hear networkId receivedTopic heard).Served ↔
      (appTopicName networkId watched.subscription.topic = .ok receivedTopic →
        ∀ message ∈ heard, message.topic = watched.subscription.topic) := by
  have pending : (watched.hear networkId receivedTopic heard).subscription.pending
      = watched.subscription.pending ++ heard.filter fun message => message.topic = watched.subscription.topic :=
    List.filter_append _ _
  unfold Watched.Served at served ⊢
  rw [pending, ← List.append_assoc]
  unfold Watched.hear
  dsimp only
  rw [served]
  by_cases own : appTopicName networkId watched.subscription.topic = .ok receivedTopic
  · rw [if_pos (isGossipTopic_iff.mpr own), List.append_right_inj, List.filter_eq_self]
    simp [own]
  · rw [if_neg (mt isGossipTopic_iff.mp own), List.append_right_eq_self, List.filter_eq_nil_iff]
    refine iff_of_true ?_ fun joined => absurd joined own
    intro message member same
    rw [← of_decide_eq_true same] at own
    exact own (onTopic message member)

theorem listenStep_served_iff {s : Listening PeerId} (served : ∀ watched ∈ s.watched, watched.Served)
    (event : ListenEvent PeerId MessageId) :
    (∀ watched ∈ (listenStep blake3 messages fragments s event).2.watched, watched.Served) ↔
      SameSpelling blake3 messages fragments s event := by
  cases event with
  | subscribe topic answer =>
    refine iff_of_true ?_ trivial
    show ∀ watched ∈ (subscribeAppTopic s topic answer).watched, watched.Served
    unfold subscribeAppTopic
    split
    · intro watched member
      rcases List.mem_append.mp member with old | new
      · exact served watched old
      · rw [List.mem_singleton.mp new]
        rfl
    · exact served
  | gossip gossip readings =>
    show (∀ watched ∈ s.watched.map _, Watched.Served watched) ↔ _
    rw [List.forall_mem_map]
    exact forall₂_congr fun watched member => Watched.hear_served_iff heard_topic (served watched member)
  | recv position =>
    refine iff_of_true ?_ trivial
    intro watched member
    obtain ⟨index, found⟩ := List.mem_iff_getElem?.mp member
    change (s.watched.modify position Watched.recv)[index]? = some watched at found
    rw [List.getElem?_modify] at found
    obtain ⟨before, there, rfl⟩ := Option.map_eq_some_iff.mp found
    have kept := served before (List.mem_of_getElem? there)
    split_ifs with here
    · exact before.recv_served_iff.mpr kept
    · exact kept
  | drop position =>
    refine iff_of_true (fun watched member => ?_) trivial
    exact served watched (List.mem_of_mem_eraseIdx member)

/-! ### Runs -/

/-- A node that no application has subscribed yet. -/
def Listening.start (ctx : AppContext PeerId) : Listening PeerId := ⟨ctx, [], []⟩

variable (blake3 messages fragments)

/-- **Every subscription yields what it is due** all along a run exactly when every message that is
delivered on the gossip topic of an open subscription carries the text given to `subscribe`. -/
theorem subscriptions_served_iff (ctx : AppContext PeerId) (events : List (ListenEvent PeerId MessageId)) :
    (∀ count ≤ events.length, ∀ watched ∈ (final (listenStep blake3 messages fragments) (.start ctx)
        (events.take count)).watched, watched.Served) ↔
      ∀ (count : ℕ) (event : ListenEvent PeerId MessageId), events[count]? = some event →
        SameSpelling blake3 messages fragments
          (final (listenStep blake3 messages fragments) (.start ctx) (events.take count)) event := by
  refine always_iff_each (listenStep blake3 messages fragments) (fun _ => True)
    (fun s => ∀ watched ∈ s.watched, watched.Served) (SameSpelling blake3 messages fragments) events
    (fun _ => trivial) nofun ?_
  intro current event _ _ served
  exact listenStep_served_iff served event

namespace PaddedTopic

def message : AppMessage where
  schemaVersion := 2
  networkId := 1
  topic := "chat"
  sourcePeerId := toText Seed.nnoo
  targetPeerId := none
  timestampNs := 1700000000000000000
  nonceHex := Hex.encode (List.replicate 32 1)
  payload := []

def codec : SerdeJson AppMessage := ⟨fun _ => .ok [], fun _ => .ok message⟩

def ctx : AppContext Seed where
  networkId := 1
  localPeer := .qcu2
  messageSecurity := .default
  appReplayCache := .new .default
  appFragmentReassembler := .empty

/-- A subscription to the padded text, then a message on its gossip topic. -/
def events : List (ListenEvent Seed ℕ) :=
  [.subscribe " chat " none,
    .gossip ⟨.qcu2, some .nnoo, 0, "p2p-net/app/v2/net-1/chat", []⟩ ⟨0, 0, 1700000000000000000⟩]

end PaddedTopic

/-- **A subscription to a padded text starves**: the message is delivered on its gossip topic, and `recv`
never returns it. -/
theorem padded_subscription_starves : ∃ watched ∈
    (final (listenStep Sample.blake3 PaddedTopic.codec Sample.codec) (.start PaddedTopic.ctx)
      PaddedTopic.events).watched,
    watched.subscription.topic = " chat " ∧ watched.due = [PaddedTopic.message] ∧
      watched.yielded ++ watched.subscription.pending = [] := by
  decide +kernel

end P2pNet.Node
