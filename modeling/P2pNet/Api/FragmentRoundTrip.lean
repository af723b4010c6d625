/-
**Fragmentation round trip**: a message that is cut into fragments is handed out whole.

A run pushes, in any order and with any repetitions, the fragments of one message, interleaved with
fragments that belong elsewhere. `Progress` is the invariant: as long as an index of the message has
not been pushed, the entry of the message holds exactly the chunks of the indices that have, and it is
not older than the first of them.
-/

import P2pNet.Api.ReassemblerRuns

set_option linter.unusedSectionVars false

namespace P2pNet.Api.AppFragmentReassembler

open Lib PeerIdentity

variable {PeerId : Type} [PeerIdentity PeerId]

/-! ### Which indices a run has supplied -/

section Message

variable (blake3 : Blake3) (message : AppMessage) (author : PeerId)

/-- The push brings the fragment of the message at an index. -/
def Supplies (event : PushEvent PeerId) (index : ℕ) : Prop :=
  index < fragmentCount message ∧ event.author = author ∧ event.fragment = fragmentAt blake3 message index

def Seen (past : List (PushEvent PeerId)) (index : ℕ) : Prop :=
  ∃ event ∈ past, Supplies blake3 message author event index

/-- Every index has been supplied. -/
def Covered (past : List (PushEvent PeerId)) : Prop :=
  ∀ index < fragmentCount message, Seen blake3 message author past index

def messageKey : ReassemblyKey PeerId := ⟨author, message.nonceHex, message.topic⟩

/-- An entry that holds exactly the supplied chunks of the message. -/
structure Gathered (past : List (PushEvent PeerId)) (entry : ReassemblyEntry) : Prop where
  opened : ∃ first, entry.fragment = fragmentAt blake3 message first
  present : ∀ index, Seen blake3 message author past index →
    entry.chunks[index]? = some (some (chunk appFragmentPayloadBytes message.payload index))
  missing : ∀ index < fragmentCount message, ¬ Seen blake3 message author past index →
    entry.chunks[index]? = some none

/-- The entry of the message after some of its fragments: not older than the first of them. -/
structure Collected (past : List (PushEvent PeerId)) (entry : ReassemblyEntry) : Prop
    extends Gathered blake3 message author past entry where
  fresh : ∃ event ∈ past, ∃ index, Supplies blake3 message author event index ∧ event.now ≤ entry.created

/-- **The invariant of a run that has not supplied every index.** -/
structure Progress (past : List (PushEvent PeerId)) (s : AppFragmentReassembler PeerId) : Prop where
  accounted : Accounted s
  absent : (∀ index, ¬ Seen blake3 message author past index) →
    s.entries.lookup (messageKey message author) = none
  collected : ∀ index, Seen blake3 message author past index → ∃ entry,
    s.entries.lookup (messageKey message author) = some entry ∧ Collected blake3 message author past entry

end Message

section Lemmas

variable {blake3 : Blake3} {message : AppMessage} {author : PeerId} {past : List (PushEvent PeerId)}

theorem seen_concat_iff (event : PushEvent PeerId) (index : ℕ) :
    Seen blake3 message author (past ++ [event]) index ↔
      Seen blake3 message author past index ∨ Supplies blake3 message author event index := by
  constructor
  · rintro ⟨other, member, supplies⟩
    rcases List.mem_append.mp member with old | new
    · exact .inl ⟨other, old, supplies⟩
    · rw [List.mem_singleton] at new
      subst new
      exact .inr supplies
  · rintro (⟨other, member, supplies⟩ | supplies)
    · exact ⟨other, List.mem_append_left _ member, supplies⟩
    · exact ⟨event, List.mem_append_right _ (List.mem_singleton_self event), supplies⟩

/-- A fragment of the message has one index. -/
theorem Supplies.index_unique {event : PushEvent PeerId} {first second : ℕ}
    (one : Supplies blake3 message author event first) (other : Supplies blake3 message author event second) :
    first = second := by
  have same := one.2.2.symm.trans other.2.2
  exact congrArg AppFragment.index same

theorem Supplies.key {event : PushEvent PeerId} {index : ℕ}
    (supplies : Supplies blake3 message author event index) :
    reassemblyKey event.author event.fragment = messageKey message author := by
  obtain ⟨_, sameAuthor, sameFragment⟩ := supplies
  rw [sameAuthor, sameFragment]
  rfl

/-- A push leaves the entries of other keys alone. -/
theorem PushCase.lookup_other {s t : AppFragmentReassembler PeerId} {peer : PeerId}
    {fragment : AppFragment} {created : ℕ} {result : PushResult}
    (step : PushCase blake3 s peer fragment created result t) {key : ReassemblyKey PeerId}
    (other : reassemblyKey peer fragment ≠ key) : t.entries.lookup key = s.entries.lookup key := by
  cases step with
  | foreign => rfl
  | ceiling => rfl
  | mismatch => rfl
  | duplicate => rfl
  | stored => exact AList.lookup_insert_ne (Ne.symm other)
  | completed => exact AList.lookup_erase_ne (Ne.symm other)

/-- The chunks of a complete entry, in order, are the payload. -/
theorem joined_eq_payload {chunks : List (Option (List UInt8))}
    (length : chunks.length = fragmentCount message)
    (present : ∀ index < fragmentCount message,
      chunks[index]? = some (some (chunk appFragmentPayloadBytes message.payload index))) :
    joined chunks = message.payload := by
  have whole : (chunks.map fun slot => slot.getD []) = Lib.chunks appFragmentPayloadBytes message.payload := by
    refine List.ext_getElem? fun index => ?_
    rw [List.getElem?_map, Lib.chunks, List.getElem?_map]
    by_cases within : index < fragmentCount message
    · have inside : index < divCeil message.payload.length appFragmentPayloadBytes := within
      rw [present index within, List.getElem?_range inside]
      rfl
    · rw [List.getElem?_eq_none (by omega), List.getElem?_eq_none]
      · rfl
      · rw [List.length_range]
        exact not_lt.mp within
  rw [joined, whole]
  exact chunks_flatten (by decide) message.payload

/-- **The payload of the message completes to the message.** -/
theorem finishMessage_fragmentAt (accepted : validateAppMessage PeerId message = .ok ()) (first : ℕ) :
    finishMessage PeerId blake3 (fragmentAt blake3 message first) message.payload = .ok (some message) := by
  unfold finishMessage
  have intact : ¬ (message.payload.length ≠ (fragmentAt blake3 message first).payloadLen ∨
      payloadHash blake3 message.payload ≠ (fragmentAt blake3 message first).payloadHashHex) := by
    rintro (different | different)
    · exact different rfl
    · exact different rfl
  rw [bind_unit_ok_iff, rejectIf_ok_iff]
  refine ⟨intact, ?_⟩
  show (do validateAppMessage PeerId message; return some message) = _
  rw [accepted]
  rfl

/-! ### The entry of the message -/

/-- Storing a missing chunk. -/
theorem Gathered.place {entry : ReassemblyEntry} (gathered : Gathered blake3 message author past entry)
    {event : PushEvent PeerId} {index : ℕ} (supplies : Supplies blake3 message author event index)
    (hole : entry.chunks[event.fragment.index]? = some none) :
    Gathered blake3 message author (past ++ [event]) (placedEntry entry event.fragment) := by
  have own : event.fragment.index = index := congrArg AppFragment.index supplies.2.2
  have payload : event.fragment.payload = chunk appFragmentPayloadBytes message.payload index :=
    congrArg AppFragment.payload supplies.2.2
  obtain ⟨within, _⟩ := List.getElem?_eq_some_iff.mp hole
  refine ⟨gathered.opened, fun other seen => ?_, fun other inside unseen => ?_⟩
  · show (entry.chunks.set event.fragment.index (some event.fragment.payload))[other]? = _
    by_cases same : event.fragment.index = other
    · rw [← same, List.getElem?_set_self within, payload, own]
    · rw [List.getElem?_set_ne same]
      rcases (seen_concat_iff event other).mp seen with old | new
      · exact gathered.present other old
      · exact absurd (own.trans (supplies.index_unique new)) same
  · show (entry.chunks.set event.fragment.index (some event.fragment.payload))[other]? = _
    rw [seen_concat_iff, not_or] at unseen
    have different : event.fragment.index ≠ other := by
      rintro rfl
      rw [own] at unseen
      exact unseen.2 supplies
    rw [List.getElem?_set_ne different]
    exact gathered.missing other inside unseen.1

/-- An entry is full exactly when every index has been supplied. -/
theorem Gathered.full_iff {entry : ReassemblyEntry} (gathered : Gathered blake3 message author past entry)
    (length : entry.chunks.length = fragmentCount message) :
    entry.chunks.any Option.isNone = false ↔ Covered blake3 message author past := by
  constructor
  · intro full index within
    by_contra unseen
    have member := List.mem_of_getElem? (gathered.missing index within unseen)
    rw [List.any_eq_false] at full
    exact full none member rfl
  · intro covered
    rw [List.any_eq_false]
    intro slot member
    obtain ⟨index, within, located⟩ := List.getElem_of_mem member
    have present := gathered.present index (covered index (length ▸ within))
    rw [List.getElem?_eq_getElem within, located] at present
    cases present
    exact Bool.false_ne_true

/-- The entry of the message, whether it exists yet or not. -/
theorem Progress.target {s : AppFragmentReassembler PeerId} (progress : Progress blake3 message author past s)
    {event : PushEvent PeerId} {index : ℕ} (supplies : Supplies blake3 message author event index)
    (timely : event.now ≤ event.created) :
    Gathered blake3 message author past (targetEntry s event.author event.fragment event.created) ∧
      ∃ earlier ∈ past ++ [event], ∃ other, Supplies blake3 message author earlier other ∧
        earlier.now ≤ (targetEntry s event.author event.fragment event.created).created := by
  unfold targetEntry
  rw [supplies.key]
  by_cases any : ∃ other, Seen blake3 message author past other
  · obtain ⟨other, seen⟩ := any
    obtain ⟨entry, found, collected⟩ := progress.collected other seen
    obtain ⟨earlier, member, position, brings, older⟩ := collected.fresh
    rw [found]
    exact ⟨collected.toGathered, earlier, List.mem_append_left _ member, position, brings, older⟩
  · push Not at any
    rw [progress.absent any]
    refine ⟨⟨⟨index, supplies.2.2⟩, fun other seen => absurd seen (any other), fun other within _ => ?_⟩,
      event, List.mem_append_right _ (List.mem_singleton_self event), index, supplies, timely⟩
    have total : event.fragment.total = fragmentCount message := by
      rw [supplies.2.2]
      rfl
    show (List.replicate event.fragment.total none)[other]? = some none
    rw [total]
    exact List.getElem?_replicate_of_lt within

/-- A push that supplies nothing new, or a change of other entries only. -/
theorem Progress.extend {s t : AppFragmentReassembler PeerId} (progress : Progress blake3 message author past s)
    {event : PushEvent PeerId} (same : ∀ index, Seen blake3 message author (past ++ [event]) index ↔
      Seen blake3 message author past index) (accounted : Accounted t)
    (lookup : t.entries.lookup (messageKey message author) = s.entries.lookup (messageKey message author)) :
    Progress blake3 message author (past ++ [event]) t := by
  refine ⟨accounted, fun none => ?_, fun index seen => ?_⟩
  · rw [lookup]
    exact progress.absent fun index seen => none index ((same index).mpr seen)
  · obtain ⟨entry, found, collected⟩ := progress.collected index ((same index).mp seen)
    obtain ⟨earlier, member, supplied⟩ := collected.fresh
    refine ⟨entry, lookup.trans found, ⟨collected.opened, fun other seen => ?_, fun other within unseen => ?_⟩,
      earlier, List.mem_append_left _ member, supplied⟩
    · exact collected.present other ((same other).mp seen)
    · exact collected.missing other within fun seen => unseen ((same other).mpr seen)

/-- The entry of the message survives an expiry less than thirty seconds after its first fragment. -/
theorem Progress.live {s live : AppFragmentReassembler PeerId} {now : ℕ}
    (progress : Progress blake3 message author past s) (accounted : Accounted live)
    (lookups : OnlyLive s now live)
    (young : ∀ earlier ∈ past, ∀ index, Supplies blake3 message author earlier index →
      now < earlier.now + fragmentExpiry) : Progress blake3 message author past live := by
  refine ⟨accounted, fun none => ?_, fun index seen => ?_⟩
  · rw [lookups, progress.absent none]
    rfl
  · obtain ⟨entry, found, collected⟩ := progress.collected index seen
    obtain ⟨earlier, member, position, brings, older⟩ := collected.fresh
    have early := young earlier member position brings
    have positive : 0 < fragmentExpiry := by decide
    have alive : isExpired now entry = false := by
      unfold isExpired
      rw [decide_eq_false_iff_not]
      omega
    refine ⟨entry, ?_, collected⟩
    rw [lookups, found, Option.filter_some, alive]
    rfl

/-! ### One push -/

theorem Gathered.sameMessage {entry : ReassemblyEntry} (gathered : Gathered blake3 message author past entry)
    {event : PushEvent PeerId} {index : ℕ} (supplies : Supplies blake3 message author event index) :
    sameMessage entry.fragment event.fragment = true := by
  obtain ⟨first, opened⟩ := gathered.opened
  rw [opened, supplies.2.2]
  exact sameMessage_fragmentAt blake3 message first index

theorem Gathered.slots {entry : ReassemblyEntry} (gathered : Gathered blake3 message author past entry)
    (sized : Sized PeerId entry) : entry.chunks.length = fragmentCount message := by
  obtain ⟨first, opened⟩ := gathered.opened
  rw [sized.slots, opened]
  rfl

/-- A fragment whose index was seen before adds nothing. -/
theorem Supplies.seen_again {event : PushEvent PeerId} {index : ℕ}
    (supplies : Supplies blake3 message author event index) (seen : Seen blake3 message author past index)
    (other : ℕ) : Seen blake3 message author (past ++ [event]) other ↔ Seen blake3 message author past other := by
  rw [seen_concat_iff]
  refine or_iff_left_of_imp fun again => ?_
  rw [← supplies.index_unique again]
  exact seen

/-- The push passes the memory-ceiling check, which is made after the expiry. -/
def PassesCeiling (s : AppFragmentReassembler PeerId) (event : PushEvent PeerId) : Prop :=
  ∀ live, expire saturatingSub s event.now = .ok live →
    exceedsCeiling live event.author event.fragment.payload.length = false

/-- **A push of a fragment of the message** that finds an index still missing: it returns the message
when it supplies the last one, and `Ok(None)` before. -/
theorem Progress.supply {s : AppFragmentReassembler PeerId} (progress : Progress blake3 message author past s)
    (accepted : validateAppMessage PeerId message = .ok ())
    (long : appFragmentPayloadBytes < message.payload.length) (source : message.sourcePeerId = toText author)
    {event : PushEvent PeerId} {index : ℕ} (supplies : Supplies blake3 message author event index)
    (timely : event.now ≤ event.created)
    (young : ∀ earlier ∈ past, ∀ other, Supplies blake3 message author earlier other →
      event.now < earlier.now + fragmentExpiry)
    (roomy : PassesCeiling s event)
    (unfinished : ¬ Covered blake3 message author past) :
    (Covered blake3 message author (past ++ [event]) →
        (pushStep blake3 s event).1 = .ok (.ok (some message))) ∧
      (¬ Covered blake3 message author (past ++ [event]) → (pushStep blake3 s event).1 = .ok (.ok none) ∧
        Progress blake3 message author (past ++ [event]) (pushStep blake3 s event).2) := by
  have fragment_eq := supplies.2.2
  have valid : event.fragment.Valid PeerId := by
    rw [fragment_eq]
    exact fragmentAt_valid PeerId blake3 accepted long supplies.1
  obtain ⟨live, result, expires, kept, lookups, output, step⟩ :=
    pushStep_case blake3 progress.accounted valid
  have before := progress.live kept lookups young
  obtain ⟨gathered, origin⟩ := before.target supplies timely
  have after := step.accounted valid kept
  rw [output]
  generalize (pushStep blake3 s event).2 = t at step after ⊢
  cases step with
  | foreign foreign =>
    rw [supplies.2.1, fragment_eq] at foreign
    exact absurd source foreign
  | ceiling _ full =>
    rw [roomy live expires] at full
    cases full
  | mismatch entry _ _ found different =>
    rw [targetEntry, found, Option.getD_some] at gathered
    rw [gathered.sameMessage supplies] at different
    cases different
  | duplicate entry held _ _ found _ present =>
    rw [targetEntry, found, Option.getD_some] at gathered
    have own : event.fragment.index = index := congrArg AppFragment.index fragment_eq
    have seen : Seen blake3 message author past index := by
      by_contra unseen
      rw [own, gathered.missing index supplies.1 unseen] at present
      cases present
    have same := supplies.seen_again seen
    constructor
    · intro covered
      exact absurd (fun other within => (same other).mp (covered other within)) unfinished
    · exact fun _ => ⟨rfl, before.extend same kept rfl⟩
  | stored _ _ _ hole rest =>
    have filled := gathered.place supplies hole
    have length : (placedEntry (targetEntry live event.author event.fragment event.created)
        event.fragment).chunks.length = fragmentCount message := by
      refine (List.length_set ..).trans (gathered.slots ?_)
      exact kept.targetEntry_sized event.author valid event.created
    constructor
    · intro covered
      rw [(filled.full_iff length).mpr covered] at rest
      cases rest
    · refine fun _ => ⟨rfl, after, fun none => ?_, fun other _ => ?_⟩
      · exact absurd ((seen_concat_iff event index).mpr (.inr supplies)) (none index)
      · refine ⟨_, ?_, filled, origin⟩
        rw [← supplies.key]
        exact AList.lookup_insert _
  | completed entry _ _ found same hole full =>
    rw [targetEntry, found, Option.getD_some] at gathered
    have filled := gathered.place supplies hole
    have length : (placedEntry entry event.fragment).chunks.length = fragmentCount message := by
      refine (List.length_set ..).trans (gathered.slots ?_)
      exact (kept.entries _ entry found).toSized
    have covered := (filled.full_iff length).mp full
    refine ⟨fun _ => ?_, fun lacking => absurd covered lacking⟩
    obtain ⟨first, opened⟩ := gathered.opened
    rw [joined_eq_payload length fun other within => filled.present other (covered other within), opened,
      finishMessage_fragmentAt accepted first]

/-- **A push that belongs elsewhere** leaves the message's entry alone. -/
theorem Progress.pass {s : AppFragmentReassembler PeerId} (progress : Progress blake3 message author past s)
    {event : PushEvent PeerId} (valid : event.fragment.Valid PeerId)
    (other : reassemblyKey event.author event.fragment ≠ messageKey message author)
    (young : ∀ earlier ∈ past, ∀ index, Supplies blake3 message author earlier index →
      event.now < earlier.now + fragmentExpiry) :
    Progress blake3 message author (past ++ [event]) (pushStep blake3 s event).2 := by
  obtain ⟨live, result, _, kept, lookups, _, step⟩ := pushStep_case blake3 progress.accounted valid
  refine (progress.live kept lookups young).extend (fun index => ?_) (step.accounted valid kept)
    (step.lookup_other other)
  rw [seen_concat_iff]
  exact or_iff_left fun supplies => other supplies.key

end Lemmas

/-! ### A whole run -/

/-- **A run that delivers a message**: its pushes are fragments of the message or belong to another
key, every index is supplied, the clock does not go back, less than thirty seconds pass between the
fragments of the message, and no push is stopped by the memory ceiling. -/
structure Delivery (blake3 : Blake3) (fragments : SerdeJson AppFragment) (message : AppMessage)
    (author : PeerId) (events : List (PushEvent PeerId)) : Prop where
  each : ∀ event ∈ events, (∃ index, Supplies blake3 message author event index) ∨
    (Accepted PeerId fragments event.fragment ∧
      reassemblyKey event.author event.fragment ≠ messageKey message author)
  covered : Covered blake3 message author events
  timely : ∀ event ∈ events, event.now ≤ event.created
  clock : events.Pairwise fun earlier later => earlier.created ≤ later.now
  window : ∀ first ∈ events, ∀ last ∈ events, (∃ index, Supplies blake3 message author first index) →
    (∃ index, Supplies blake3 message author last index) → last.now < first.now + fragmentExpiry
  roomy : ∀ (position : ℕ) (event : PushEvent PeerId), events[position]? = some event →
    PassesCeiling (final (pushStep blake3) empty (events.take position)) event

section Run

variable {blake3 : Blake3} {fragments : SerdeJson AppFragment} {message : AppMessage} {author : PeerId}
  {events : List (PushEvent PeerId)}

theorem progress_empty : Progress blake3 message author [] empty where
  accounted := accounted_empty
  absent _ := rfl
  collected index seen := by
    obtain ⟨event, member, _⟩ := seen
    cases member

theorem Covered.mono {past : List (PushEvent PeerId)} (covered : Covered blake3 message author past)
    (event : PushEvent PeerId) : Covered blake3 message author (past ++ [event]) := by
  intro index within
  exact (seen_concat_iff event index).mpr (.inl (covered index within))

/-- While an index is missing, the push that supplies it is still to come, so that the entry of the
message is not old yet. -/
theorem Delivery.young (delivery : Delivery blake3 fragments message author events) {position : ℕ}
    {event : PushEvent PeerId} (here : events[position]? = some event)
    (unfinished : ¬ Covered blake3 message author (events.take (position + 1))) :
    ∀ earlier ∈ events.take position, ∀ index, Supplies blake3 message author earlier index →
      event.now < earlier.now + fragmentExpiry := by
  intro earlier member index supplies
  unfold Covered at unfinished
  push Not at unfinished
  obtain ⟨wanted, within, unseen⟩ := unfinished
  obtain ⟨last, inside, brings⟩ := delivery.covered wanted within
  obtain ⟨later, located⟩ := List.mem_iff_getElem?.mp inside
  have after : position < later := by
    by_contra early
    refine unseen ⟨last, List.mem_of_getElem? (i := later) ?_, brings⟩
    rw [List.getElem?_take_of_lt (by omega)]
    exact located
  obtain ⟨hereWithin, hereEq⟩ := List.getElem?_eq_some_iff.mp here
  obtain ⟨lastWithin, lastEq⟩ := List.getElem?_eq_some_iff.mp located
  have ordered := List.pairwise_iff_getElem.mp delivery.clock position later hereWithin lastWithin after
  rw [hereEq, lastEq] at ordered
  have started := delivery.timely event (List.mem_of_getElem? here)
  have close := delivery.window earlier (List.mem_of_mem_take member) last inside ⟨index, supplies⟩
    ⟨wanted, brings⟩
  omega

theorem take_succ_eq {position : ℕ} {event : PushEvent PeerId} (here : events[position]? = some event) :
    events.take (position + 1) = events.take position ++ [event] := by
  rw [List.take_add_one, here, Option.toList_some]

/-- **The invariant holds until every index has been supplied.** -/
theorem Delivery.progress (delivery : Delivery blake3 fragments message author events)
    (accepted : validateAppMessage PeerId message = .ok ())
    (long : appFragmentPayloadBytes < message.payload.length) (source : message.sourcePeerId = toText author)
    (count : ℕ) (unfinished : ¬ Covered blake3 message author (events.take count)) :
    Progress blake3 message author (events.take count) (final (pushStep blake3) empty (events.take count)) := by
  induction count with
  | zero => exact progress_empty
  | succ count ih =>
    cases here : events[count]? with
    | none =>
      have whole := List.getElem?_eq_none_iff.mp here
      rw [List.take_of_length_le (by omega)] at unfinished
      exact absurd delivery.covered unfinished
    | some event =>
      have young := delivery.young here unfinished
      rw [take_succ_eq here] at unfinished ⊢
      have earlier : ¬ Covered blake3 message author (events.take count) :=
        fun covered => unfinished (covered.mono event)
      have progress := ih earlier
      rw [final_concat]
      rcases delivery.each event (List.mem_of_getElem? here) with ⟨index, supplies⟩ | ⟨decoded, other⟩
      · exact ((progress.supply accepted long source supplies
          (delivery.timely event (List.mem_of_getElem? here)) young (delivery.roomy count event here)
          earlier).2 unfinished).2
      · exact progress.pass decoded.valid other young

/-- What the push of a fragment of the message answers while an index is missing before it. -/
theorem Delivery.answer (delivery : Delivery blake3 fragments message author events)
    (accepted : validateAppMessage PeerId message = .ok ())
    (long : appFragmentPayloadBytes < message.payload.length) (source : message.sourcePeerId = toText author)
    {position : ℕ} {event : PushEvent PeerId} (here : events[position]? = some event) {index : ℕ}
    (supplies : Supplies blake3 message author event index)
    (unfinished : ¬ Covered blake3 message author (events.take position)) :
    (Covered blake3 message author (events.take (position + 1)) →
        (outputs (pushStep blake3) empty events)[position]? = some (.ok (.ok (some message)))) ∧
      (¬ Covered blake3 message author (events.take (position + 1)) →
        (outputs (pushStep blake3) empty events)[position]? = some (.ok (.ok none))) := by
  have progress := delivery.progress accepted long source position unfinished
  have member := List.mem_of_getElem? here
  rw [outputs_getElem?, here, Option.map_some]
  have young : ∀ earlier ∈ events.take position, ∀ other, Supplies blake3 message author earlier other →
      event.now < earlier.now + fragmentExpiry := fun earlier inside other brings =>
    delivery.window earlier (List.mem_of_mem_take inside) event member ⟨other, brings⟩ ⟨index, supplies⟩
  rw [take_succ_eq here]
  obtain ⟨last, before⟩ := progress.supply accepted long source supplies (delivery.timely event member)
    young (delivery.roomy position event here) unfinished
  exact ⟨fun covered => congrArg some (last covered), fun lacking => congrArg some (before lacking).1⟩

end Run

/-- **The round trip.** -/
theorem fragment_round_trip (blake3 : Blake3) (messages : SerdeJson AppMessage)
    (fragments : SerdeJson AppFragment) {message : AppMessage} {author : PeerId} {wires : List (List UInt8)}
    (accepted : validateAppMessage PeerId message = .ok ())
    (long : appFragmentPayloadBytes < message.payload.length)
    (source : message.sourcePeerId = toText author)
    (sent : fragmentMessage PeerId blake3 messages fragments message = .ok wires)
    (inverts : ∀ index < fragmentCount message, fragments.RoundTrips (fragmentAt blake3 message index))
    {events : List (PushEvent PeerId)} (delivery : Delivery blake3 fragments message author events) :
    (wires.length = fragmentCount message ∧ ∀ index < fragmentCount message, ∃ wire,
        wires[index]? = some wire ∧
          decodeFragment PeerId fragments wire = .ok (fragmentAt blake3 message index)) ∧
      ∃ position event index, events[position]? = some event ∧
        Supplies blake3 message author event index ∧
        ¬ Seen blake3 message author (events.take position) index ∧
        Covered blake3 message author (events.take (position + 1)) ∧
        (outputs (pushStep blake3) empty events)[position]? = some (.ok (.ok (some message))) ∧
        ∀ earlier < position, ∀ other, events[earlier]? = some other →
          (∃ index, Supplies blake3 message author other index) →
          (outputs (pushStep blake3) empty events)[earlier]? = some (.ok (.ok none)) := by
  refine ⟨fragmentMessage_wire PeerId blake3 messages fragments long sent inverts, ?_⟩
  have several : 2 ≤ fragmentCount message := two_le_divCeil long
  have start : ¬ Covered blake3 message author (events.take 0) := by
    intro covered
    obtain ⟨event, member, _⟩ := covered 0 (by omega)
    cases member
  -- the first prefix of the run that supplies every index
  classical
  have reaches : ∃ count, Covered blake3 message author (events.take count) :=
    ⟨events.length, by rw [List.take_length]; exact delivery.covered⟩
  obtain ⟨position, least⟩ := Nat.exists_eq_succ_of_ne_zero fun zero : Nat.find reaches = 0 =>
    start (zero ▸ Nat.find_spec reaches)
  have covered := Nat.find_spec reaches
  rw [least] at covered
  have unfinished : ∀ count ≤ position, ¬ Covered blake3 message author (events.take count) :=
    fun count below => Nat.find_min reaches (by omega)
  obtain ⟨index, within, unseen⟩ : ∃ index < fragmentCount message,
      ¬ Seen blake3 message author (events.take position) index := by
    have lacking := unfinished position le_rfl
    unfold Covered at lacking
    push Not at lacking
    exact lacking
  cases here : events[position]? with
  | none =>
    have short := List.getElem?_eq_none_iff.mp here
    refine absurd ?_ (unfinished position le_rfl)
    rw [List.take_of_length_le (by omega)] at covered ⊢
    exact covered
  | some event =>
    have seen := covered index within
    rw [take_succ_eq here, seen_concat_iff] at seen
    have supplies := seen.resolve_left unseen
    refine ⟨position, event, index, here, supplies, unseen, covered, ?_, ?_⟩
    · exact (delivery.answer accepted long source here supplies (unfinished position le_rfl)).1 covered
    · rintro earlier before other located ⟨brought, brings⟩
      exact (delivery.answer accepted long source located brings (unfinished earlier before.le)).2
        (unfinished (earlier + 1) before)

/-- The first fragments of two messages, then the second one of the first. -/
def interleaved : List (PushEvent Seed) :=
  [floodEvent 0, floodEvent 1, ⟨.nnoo, Sample.fragment 0 1, 0, 0⟩]

theorem interleaved_delivery :
    Delivery Sample.blake3 Sample.codec (Sample.message 0) Seed.nnoo interleaved where
  each := by
    have pair := Sample.fragmentCount_eq 0
    intro event member
    simp only [interleaved, List.mem_cons, List.not_mem_nil, or_false] at member
    rcases member with rfl | rfl | rfl
    · exact .inl ⟨0, by omega, rfl, rfl⟩
    · refine .inr ⟨flood_accepted 2 _ (List.mem_map_of_mem (List.mem_range.mpr one_lt_two)), ?_⟩
      intro same
      have tags : 1 = 0 := floodKey_injective (by norm_num) (by norm_num) same
      cases tags
    · exact .inl ⟨1, by omega, rfl, rfl⟩
  covered := by
    have pair := Sample.fragmentCount_eq 0
    intro index within
    rw [pair] at within
    interval_cases index
    · exact ⟨floodEvent 0, List.mem_cons_self, by omega, rfl, rfl⟩
    · exact ⟨_, List.mem_of_getElem? (i := 2) rfl, by omega, rfl, rfl⟩
  timely event member := by
    simp only [interleaved, List.mem_cons, List.not_mem_nil, or_false] at member
    rcases member with rfl | rfl | rfl <;> exact le_rfl
  clock := by
    simp [interleaved, floodEvent]
  window first firstIn last lastIn _ _ := by
    have instant : ∀ event ∈ interleaved, event.now = 0 := by
      simp [interleaved, floodEvent]
    rw [instant first firstIn, instant last lastIn]
    decide
  roomy position event here live expires := by
    obtain ⟨within, located⟩ := List.getElem?_eq_some_iff.mp here
    change position < 3 at within
    have length : ∀ index, (Sample.fragment 0 index).payload.length ≤ 16384 :=
      fun _ => List.length_take_le _ _
    interval_cases position
    · subst located
      exact flooded_empty.room (by norm_num) (Sample.length_payload _).le expires
    · subst located
      have one : Flooded 1 (final (pushStep Sample.blake3) empty (flood 1)) := flooded_final (by norm_num)
      exact one.room (by norm_num) (Sample.length_payload _).le expires
    · subst located
      have two : Flooded 2 (final (pushStep Sample.blake3) empty (flood 2)) := flooded_final (by norm_num)
      exact two.room (by norm_num) (length 1) expires

theorem fragment_round_trip_interleaved : ∃ position : ℕ,
    (outputs (pushStep Sample.blake3) empty interleaved)[position]?
      = some (.ok (.ok (some (Sample.message 0)))) := by
  have long : appFragmentPayloadBytes < (Sample.message 0).payload.length := by
    rw [Sample.payload_length]
    decide
  have inverts : ∀ index < fragmentCount (Sample.message 0),
      Sample.codec.RoundTrips (fragmentAt Sample.blake3 (Sample.message 0) index) := by
    intro index within
    rw [Sample.fragmentCount_eq] at within
    exact Sample.codec_roundTrips 0 within
  have source : (Sample.message 0).sourcePeerId = toText Seed.nnoo := rfl
  obtain ⟨_, position, _, _, _, _, _, _, handed, _⟩ := fragment_round_trip Sample.blake3 Sample.messages
    Sample.codec (Sample.message_accepted 0) long source (Sample.fragmentMessage_eq 0) inverts
    interleaved_delivery
  exact ⟨position, handed⟩

end P2pNet.Api.AppFragmentReassembler
