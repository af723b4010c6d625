/-
**Message ids of gossipsub.**

`build_behaviour` gives gossipsub a message id of its own: the hash of a context, the author with a tag for whether
there is one, the topic and the data, each of the variable parts after its length (`messageMaterial`). The parts can be
read off the material (`messageMaterial_inj`), so that two messages have one id exactly if they have one author, one
topic and one data (`messageId_eq_iff`). The sequence number is not part of it.
-/

import P2pNet.Common.Basic
import P2pNet.Lib.Framed

namespace P2pNet.Stack

open P2pNet.Lib

/-- `gossipsub::Message`. No part of it is longer than a `usize` can tell. -/
structure Message (PeerId : Type) [PeerIdentity PeerId] where
  source : Option PeerId
  data : List UInt8
  sequenceNumber : Option UInt64
  topic : String
  source_small : ∀ peer ∈ source, (PeerIdentity.toBytes peer).length < 2 ^ 64
  data_small : data.length < 2 ^ 64
  topic_small : (Text.bytes topic).length < 2 ^ 64

section Ids

variable {PeerId : Type} [PeerIdentity PeerId]

def messageIdContext : List UInt8 := Text.bytes "p2p-net/gossipsub-message-id/v2\x00"

def sourceMaterial : Option PeerId → List UInt8
  | some source => 1 :: sized (PeerIdentity.toBytes source)
  | none => [0]

/-- Everything the hasher is updated with. -/
def messageMaterial (msg : Message PeerId) : List UInt8 :=
  messageIdContext ++ (sourceMaterial msg.source ++ (sized (Text.bytes msg.topic) ++ sized msg.data))

/-- The `message_id_fn` of `build_behaviour`. -/
def messageId (blake3 : Blake3) (msg : Message PeerId) : List UInt8 := (blake3 (messageMaterial msg)).toList

theorem toBytes_injective (lawful : PeerIdentity.Lawful PeerId) :
    Function.Injective (PeerIdentity.toBytes : PeerId → List UInt8) := by
  intro first second same
  have read := lawful.fromBytes_toBytes first
  rw [same, lawful.fromBytes_toBytes] at read
  exact (Except.ok.inj read).symm

/-- The author ends where it ends, and the tag tells whether there is one. -/
theorem sourceMaterial_append_inj (lawful : PeerIdentity.Lawful PeerId) {first second : Option PeerId}
    (small : ∀ peer ∈ first, (PeerIdentity.toBytes peer).length < 2 ^ 64)
    (small' : ∀ peer ∈ second, (PeerIdentity.toBytes peer).length < 2 ^ 64) {rest other : List UInt8} :
    sourceMaterial first ++ rest = sourceMaterial second ++ other ↔ first = second ∧ rest = other := by
  cases first with
  | none =>
    cases second with
    | none => simp [sourceMaterial]
    | some author => simp [sourceMaterial]
  | some author =>
    cases second with
    | none => simp [sourceMaterial]
    | some another =>
      rw [sourceMaterial, sourceMaterial, List.cons_append, List.cons_append, List.cons.injEq, eq_self_iff_true,
        true_and, sized_append_inj (small author rfl) (small' another rfl), (toBytes_injective lawful).eq_iff,
        Option.some.injEq]

/-- **The material tells the message**, but for its sequence number. -/
theorem messageMaterial_inj (lawful : PeerIdentity.Lawful PeerId) (first second : Message PeerId) :
    messageMaterial first = messageMaterial second ↔
      first.source = second.source ∧ first.topic = second.topic ∧ first.data = second.data := by
  have last : sized first.data = sized second.data ↔ first.data = second.data := by
    have ends : sized first.data ++ [] = sized second.data ++ [] ↔ first.data = second.data ∧ [] = [] :=
      sized_append_inj first.data_small second.data_small
    simpa using ends
  unfold messageMaterial
  rw [List.append_cancel_left_eq, sourceMaterial_append_inj lawful first.source_small second.source_small,
    sized_append_inj first.topic_small second.topic_small, Text.bytes_injective.eq_iff, last]

/-- **Message ids identify messages.** -/
theorem messageId_eq_iff (lawful : PeerIdentity.Lawful PeerId) (blake3 : Blake3) (first second : Message PeerId)
    (separate : Set.InjOn blake3 {messageMaterial first, messageMaterial second}) :
    messageId blake3 first = messageId blake3 second ↔
      first.source = second.source ∧ first.topic = second.topic ∧ first.data = second.data := by
  rw [← messageMaterial_inj lawful]
  constructor
  · intro same
    exact separate (.inl rfl) (.inr rfl) (Subtype.ext same)
  · intro same
    rw [messageId, messageId, same]

end Ids

namespace CopiedBytes

/-- The same words on the same topic. -/
def message (author : Seed) : Message Seed where
  source := some author
  data := Text.bytes "hello"
  sequenceNumber := none
  topic := "chat"
  source_small := by
    rintro peer ⟨⟩
    cases author <;> decide
  data_small := by decide
  topic_small := by decide

/-- BLAKE3 at the materials of the two messages. -/
def blake3 : Blake3 := fun material =>
  if material = messageMaterial (message .nnoo) then
    ⟨[135, 104, 182, 202, 96, 18, 207, 81, 174, 36, 218, 212, 218, 22, 227, 229, 227, 106, 194, 234, 158, 247, 148, 208,
      173, 145, 181, 104, 55, 248, 248, 233], rfl⟩
  else
    ⟨[51, 48, 80, 19, 205, 190, 164, 231, 214, 216, 31, 41, 77, 198, 113, 222, 79, 74, 145, 67, 237, 225, 189, 28,
      35, 129, 40, 224, 224, 39, 50, 47], rfl⟩

/-- The words of another author have an id of their own. -/
theorem copied_apart : messageId blake3 (message .nnoo) ≠ messageId blake3 (message .qcu2) := by
  have separate : Set.InjOn blake3 {messageMaterial (message .nnoo), messageMaterial (message .qcu2)} := by
    rw [Set.injOn_pair]
    intro same
    revert same
    decide
  intro same
  have parts := (messageId_eq_iff Seed.lawful blake3 (message .nnoo) (message .qcu2) separate).mp same
  cases parts.1

end CopiedBytes

end P2pNet.Stack
