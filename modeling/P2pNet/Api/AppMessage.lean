/-
**Application envelopes** (`crates/api/mod.rs`).

`AppMessage` is the envelope an application sends and receives, `validateAppMessage` the check every
envelope passes before it is encoded and after it is decoded. A topic is valid when its trimmed text
is not empty, at most 128 bytes long and made of ASCII letters, digits, `-`, `_`, `.` and `/`
(`normalizeAppTopic`); the envelope keeps the topic as written.

`validateAppMessage_ok_iff` reads the check as five facts about the fields, which is all that later
proofs use of it.
-/

import P2pNet.Lib.Text
import P2pNet.Common.Basic

namespace P2pNet.Api

open Lib PeerIdentity

/-! ### The envelope -/

def appMessageSchemaVersion : UInt16 := 2
def appTopicPrefix : String := "p2p-net/app"
def maxAppTopicLen : ℕ := 128
def maxAppMessageBytes : ℕ := 1024 * 1024

structure AppMessage where
  schemaVersion : UInt16
  networkId : UInt32
  topic : String
  sourcePeerId : String
  targetPeerId : Option String
  timestampNs : UInt64
  nonceHex : String
  payload : List UInt8
  deriving DecidableEq, Repr

/-! ### Topics -/

/-- A character that may stand in a topic. -/
def isTopicChar (char : Char) : Bool :=
  Text.isAsciiAlphanumeric char || char == '-' || char == '_' || char == '.' || char == '/'

def normalizeAppTopic (written : String) : Except NetError String := do
  let topic := Text.trim written
  rejectIf topic.isEmpty (.appTopic topic "topic must not be empty")
  rejectIf (topic.utf8ByteSize > maxAppTopicLen)
    (.appTopic topic s!"topic must not exceed {maxAppTopicLen} bytes")
  rejectIf (¬ topic.toList.all isTopicChar)
    (.appTopic topic "topic may only contain ASCII letters, numbers, '-', '_', '.', or '/'")
  return topic

def appTopicName (networkId : UInt32) (topic : String) : Except NetError String := do
  let topic ← normalizeAppTopic topic
  return s!"{appTopicPrefix}/v{appMessageSchemaVersion}/net-{networkId}/{topic}"

/-! ### Validation -/

section Validation

variable (PeerId : Type) [PeerIdentity PeerId]

/-- `str::parse::<PeerId>` with the reason the callers attach to a failure. -/
def checkPeerId (topic label text : String) : Except NetError Unit :=
  match (parse text : Except String PeerId) with
  | .ok _ => .ok ()
  | .error reason => .error (.appMessage topic (label ++ ": " ++ reason))

def validateAppPayloadLen (len : ℕ) : Except NetError Unit :=
  rejectIf (len > maxAppMessageBytes)
    (.appMessage "<unknown>" s!"message must not exceed {maxAppMessageBytes} bytes")

/-- The check of an optional target. -/
def checkTargetPeerId (topic label : String) : Option String → Except NetError Unit
  | some target => checkPeerId PeerId topic label target
  | none => .ok ()

def validateAppMessage (message : AppMessage) : Except NetError Unit := do
  rejectIf (message.schemaVersion ≠ appMessageSchemaVersion) (.appMessage message.topic
    s!"unsupported schema version {message.schemaVersion}; expected {appMessageSchemaVersion}")
  let _ ← normalizeAppTopic message.topic
  checkPeerId PeerId message.topic "invalid source peer id" message.sourcePeerId
  checkTargetPeerId PeerId message.topic "invalid target peer id" message.targetPeerId
  validateAppPayloadLen message.payload.length

/-- A text that parses as a peer id. -/
def IsPeerId (text : String) : Prop := ∃ peer : PeerId, parse text = .ok peer

/-- A topic that `normalizeAppTopic` accepts. -/
def IsTopic (topic : String) : Prop := ∃ normal, normalizeAppTopic topic = .ok normal

theorem checkPeerId_ok_iff (topic label text : String) :
    checkPeerId PeerId topic label text = .ok () ↔ IsPeerId PeerId text := by
  unfold checkPeerId IsPeerId
  cases parsed : (parse text : Except String PeerId) with
  | ok peer => simp
  | error reason => simp

theorem checkTargetPeerId_ok_iff (topic label : String) (target : Option String) :
    checkTargetPeerId PeerId topic label target = .ok () ↔
      ∀ text, target = some text → IsPeerId PeerId text := by
  cases target with
  | none => simp [checkTargetPeerId]
  | some text => simp [checkTargetPeerId, checkPeerId_ok_iff]

/-- **What an accepted envelope satisfies.** -/
theorem validateAppMessage_ok_iff (message : AppMessage) :
    validateAppMessage PeerId message = .ok () ↔
      message.schemaVersion = appMessageSchemaVersion ∧ IsTopic message.topic ∧
        IsPeerId PeerId message.sourcePeerId ∧
        (∀ target, message.targetPeerId = some target → IsPeerId PeerId target) ∧
        message.payload.length ≤ maxAppMessageBytes := by
  unfold validateAppMessage validateAppPayloadLen
  rw [bind_unit_ok_iff, rejectIf_ok_iff, not_not, bind_ok_iff, IsTopic, ← exists_and_right]
  refine and_congr_right fun _ => exists_congr fun _ => and_congr_right fun _ => ?_
  rw [bind_unit_ok_iff, checkPeerId_ok_iff, bind_unit_ok_iff, checkTargetPeerId_ok_iff,
    rejectIf_ok_iff, not_lt]

/-! ### The whole-message codec -/

variable (messages : SerdeJson AppMessage)

def encodeAppMessage (message : AppMessage) : Except NetError (List UInt8) := do
  validateAppMessage PeerId message
  let encoded ← (messages.toVec message).mapError (.appMessage message.topic)
  rejectIf (encoded.length > 6 * maxAppMessageBytes)
    (.appMessage message.topic "encoded application envelope exceeds wire safety bound")
  return encoded

def decodeAppMessage (raw : List UInt8) : Except NetError AppMessage := do
  rejectIf (raw.length > 6 * maxAppMessageBytes)
    (.appMessage "<unknown>" "encoded application envelope exceeds wire safety bound")
  let message ← (messages.fromSlice raw).mapError (.appMessage "<unknown>")
  validateAppMessage PeerId message
  return message

end Validation

/-! ### Construction -/

section Construction

variable {PeerId : Type} [PeerIdentity PeerId] (blake3 : Blake3)

/-- The random bytes and the clock reading that go into a new message. -/
structure Draw where
  entropy : List UInt8
  timestampNs : UInt64

def AppMessage.new (networkId : UInt32) (topic : String) (source : PeerId) (target : Option PeerId)
    (payload : List UInt8) (draw : Draw) : Except NetError AppMessage := do
  let topic ← normalizeAppTopic topic
  validateAppPayloadLen payload.length
  return {
    schemaVersion := appMessageSchemaVersion
    networkId := networkId
    topic := topic
    sourcePeerId := toText source
    targetPeerId := target.map toText
    timestampNs := draw.timestampNs
    nonceHex := Hex.encode (blake3 draw.entropy).toList
    payload := payload }

def AppMessage.addressed (networkId : UInt32) (topic : String) (source target : PeerId)
    (payload : List UInt8) (draw : Draw) : Except NetError AppMessage :=
  AppMessage.new blake3 networkId topic source (some target) payload draw

def AppMessage.broadcast (networkId : UInt32) (topic : String) (source : PeerId)
    (payload : List UInt8) (draw : Draw) : Except NetError AppMessage :=
  AppMessage.new blake3 networkId topic source none payload draw

end Construction

/-! ### Delivery -/

section Delivery

variable {PeerId : Type} [PeerIdentity PeerId]

/-- Is the envelope addressed to the local peer, or to everyone? -/
def AppMessage.isForPeer (message : AppMessage) (localPeer : PeerId) : Bool :=
  match message.targetPeerId with
  | some target => target == toText localPeer
  | none => true

/-- A topic hash is the topic's text: `app_ident_topic` hashes with the identity. -/
def validateAppMessageAuthentication (message : AppMessage) (authenticatedSource : PeerId)
    (receivedTopic : String) : Except NetError Unit := do
  let claimedSource : PeerId ← (parse message.sourcePeerId).mapError fun reason =>
    .appMessage message.topic ("invalid source peer id: " ++ reason)
  rejectIf (claimedSource ≠ authenticatedSource)
    (.appMessage message.topic "source peer id does not match authenticated Gossipsub author")
  let expectedTopic ← appTopicName message.networkId message.topic
  rejectIf (expectedTopic ≠ receivedTopic)
    (.appMessage message.topic
      "application envelope does not match the authenticated Gossipsub topic")

end Delivery

end P2pNet.Api
