/-
**A bounded memory of accepted keys**, first in first out, with a lifetime.

`entries` maps a key to the instant it was accepted, `order` lists the keys from the oldest to the
newest. Offering a key first drops the expired keys at the front (`prune`), answers `false` for a key
that is still there, and otherwise appends it and drops keys from the front while there are more than
`capacity` (`evict`).
-/

import P2pNet.Lib.Table
import P2pNet.Lib.Run
import P2pNet.Lib.Checked

set_option linter.unusedSectionVars false

namespace P2pNet.Lib

structure ReplayCache (K : Type) where
  capacity : ℕ
  ttl : UInt64
  entries : Table K UInt64
  order : List K

namespace ReplayCache

variable {K : Type} [DecidableEq K]

/-! ### Operations -/

/-- The loop that pops the front of the order while it is expired, or not an entry any more. -/
def pruneLoop (ttl now : UInt64) : List K → Table K UInt64 → List K × Table K UInt64
  | [], entries => ([], entries)
  | front :: rest, entries =>
    match entries.lookup front with
    | none => pruneLoop ttl now rest entries
    | some inserted =>
      if U64.saturatingSub now inserted ≤ ttl then (front :: rest, entries)
      else pruneLoop ttl now rest (entries.erase front)

def prune (cache : ReplayCache K) (now : UInt64) : ReplayCache K :=
  let (order, entries) := pruneLoop cache.ttl now cache.order cache.entries
  { cache with order, entries }

/-- The loop that pops the front of the order while there are too many entries. -/
def evictLoop (capacity : ℕ) : List K → Table K UInt64 → List K × Table K UInt64
  | [], entries => ([], entries)
  | oldest :: rest, entries =>
    if entries.keys.length > capacity then evictLoop capacity rest (entries.erase oldest)
    else (oldest :: rest, entries)

def evict (cache : ReplayCache K) : ReplayCache K :=
  let (order, entries) := evictLoop cache.capacity cache.order cache.entries
  { cache with order, entries }

/-- Is the key new? If so it is remembered. -/
def checkAndInsert (cache : ReplayCache K) (key : K) (now : UInt64) : Bool × ReplayCache K :=
  let cache := prune cache now
  if (cache.entries.lookup key).isSome then (false, cache)
  else (true, evict { cache with
    entries := cache.entries.insert key now
    order := cache.order ++ [key] })

/-! ### The order lists the entries -/

def Coherent (cache : ReplayCache K) : Prop := cache.entries.keys.Perm cache.order

theorem lookup_isSome_iff {entries : Table K UInt64} {order : List K} (same : entries.keys.Perm order)
    (key : K) : (entries.lookup key).isSome = true ↔ key ∈ order := by
  rw [AList.lookup_isSome, ← same.mem_iff]
  exact AList.mem_keys

theorem keys_erase_perm {entries : Table K UInt64} {front : K} {rest : List K}
    (same : entries.keys.Perm (front :: rest)) : (entries.erase front).keys.Perm rest := by
  rw [AList.keys_erase]
  have erased := same.erase front
  rwa [List.erase_cons_head] at erased

/-- **What pruning removes**: expired keys from the front. -/
theorem pruneLoop_spec (ttl now : UInt64) (order : List K) {entries : Table K UInt64}
    (same : entries.keys.Perm order) :
    (pruneLoop ttl now order entries).2.keys.Perm (pruneLoop ttl now order entries).1 ∧
      ∃ dropped, order = dropped ++ (pruneLoop ttl now order entries).1 ∧
        (∀ key ∈ dropped, ∃ inserted, entries.lookup key = some inserted ∧
          ttl < U64.saturatingSub now inserted) ∧
        ∀ key ∈ (pruneLoop ttl now order entries).1,
          (pruneLoop ttl now order entries).2.lookup key = entries.lookup key := by
  induction order generalizing entries with
  | nil =>
    refine ⟨same, [], rfl, ?_, fun _ _ => rfl⟩
    rintro key ⟨⟩
  | cons front rest ih =>
    obtain ⟨inserted, found⟩ := Option.isSome_iff_exists.mp
      ((lookup_isSome_iff same front).mpr List.mem_cons_self)
    rw [pruneLoop, found]
    simp only
    by_cases young : U64.saturatingSub now inserted ≤ ttl
    · rw [if_pos young]
      refine ⟨same, [], rfl, ?_, fun _ _ => rfl⟩
      rintro key ⟨⟩
    · rw [if_neg young]
      obtain ⟨kept, dropped, split, expired, lookups⟩ := ih (keys_erase_perm same)
      have unique : front ∉ rest := (List.nodup_cons.mp (same.nodup_iff.mp entries.keys_nodup)).1
      have apart : ∀ key ∈ rest, (entries.erase front).lookup key = entries.lookup key := by
        intro key member
        refine AList.lookup_erase_ne ?_
        rintro rfl
        exact unique member
      refine ⟨kept, front :: dropped, ?_, ?_, ?_⟩
      · rw [List.cons_append, ← split]
      · intro key member
        rcases List.mem_cons.mp member with rfl | later
        · exact ⟨inserted, found, UInt64.not_le.mp young⟩
        · obtain ⟨stamp, located, old⟩ := expired key later
          rw [apart key (split ▸ List.mem_append_left _ later)] at located
          exact ⟨stamp, located, old⟩
      · intro key member
        rw [lookups key member, apart key (split ▸ List.mem_append_right _ member)]

/-- **What eviction keeps**: the last keys, at most as many as the capacity. -/
theorem evictLoop_spec (capacity : ℕ) (order : List K) {entries : Table K UInt64}
    (same : entries.keys.Perm order) :
    (evictLoop capacity order entries).1 = order.drop (order.length - capacity) ∧
      (evictLoop capacity order entries).2.keys.Perm (evictLoop capacity order entries).1 ∧
      ∀ key ∈ (evictLoop capacity order entries).1,
        (evictLoop capacity order entries).2.lookup key = entries.lookup key := by
  induction order generalizing entries with
  | nil => exact ⟨List.drop_nil.symm, same, fun _ _ => rfl⟩
  | cons oldest rest ih =>
    have count := same.length_eq
    rw [List.length_cons] at count
    rw [evictLoop, count]
    by_cases full : rest.length + 1 > capacity
    · rw [if_pos full]
      obtain ⟨cut, kept, lookups⟩ := ih (keys_erase_perm same)
      have unique : oldest ∉ rest := (List.nodup_cons.mp (same.nodup_iff.mp entries.keys_nodup)).1
      refine ⟨?_, kept, fun key member => ?_⟩
      · rw [cut, List.length_cons, Nat.sub_add_comm (Nat.le_of_lt_succ full), List.drop_succ_cons]
      · rw [lookups key member]
        refine AList.lookup_erase_ne ?_
        rintro rfl
        rw [cut] at member
        exact unique (List.mem_of_mem_drop member)
    · rw [if_neg full]
      refine ⟨?_, same, fun _ _ => rfl⟩
      rw [List.length_cons, Nat.sub_eq_zero_of_le (not_lt.mp full), List.drop_zero]

/-! ### What an offer can do -/

/-- **Everything an offer can do.** The expired front of the order goes; the key is found in the rest,
or it is appended and the order is cut to its last `capacity` keys. -/
inductive Offer (cache : ReplayCache K) (key : K) (now : UInt64) : Bool → ReplayCache K → Prop
  | replayed (dropped : List K) (next : ReplayCache K) : cache.order = dropped ++ next.order →
      (∀ old ∈ dropped, ∃ inserted, cache.entries.lookup old = some inserted ∧
        cache.ttl < U64.saturatingSub now inserted) →
      (∀ other ∈ next.order, next.entries.lookup other = cache.entries.lookup other) →
      key ∈ next.order → Offer cache key now false next
  | accepted (dropped live : List K) (next : ReplayCache K) : cache.order = dropped ++ live →
      (∀ old ∈ dropped, ∃ inserted, cache.entries.lookup old = some inserted ∧
        cache.ttl < U64.saturatingSub now inserted) →
      key ∉ live → next.order = (live ++ [key]).drop (live.length + 1 - cache.capacity) →
      (∀ other ∈ next.order, next.entries.lookup other
        = if other = key then some now else cache.entries.lookup other) →
      Offer cache key now true next

/-- The state keeps its parameters and its coherence. -/
structure Kept (cache next : ReplayCache K) : Prop where
  coherent : Coherent next
  capacity_eq : next.capacity = cache.capacity
  ttl_eq : next.ttl = cache.ttl

theorem checkAndInsert_offer {cache : ReplayCache K} (coherent : Coherent cache) (key : K) (now : UInt64) :
    Offer cache key now (checkAndInsert cache key now).1 (checkAndInsert cache key now).2 ∧
      Kept cache (checkAndInsert cache key now).2 := by
  obtain ⟨kept, dropped, split, expired, lookups⟩ := pruneLoop_spec cache.ttl now cache.order coherent
  have pruned : prune cache now = { cache with
      order := (pruneLoop cache.ttl now cache.order cache.entries).1
      entries := (pruneLoop cache.ttl now cache.order cache.entries).2 } := rfl
  unfold checkAndInsert
  rw [pruned]
  generalize (pruneLoop cache.ttl now cache.order cache.entries).1 = live at *
  generalize (pruneLoop cache.ttl now cache.order cache.entries).2 = entries at *
  simp only
  by_cases present : (entries.lookup key).isSome
  · rw [if_pos present]
    exact ⟨.replayed dropped _ split expired lookups ((lookup_isSome_iff kept key).mp present),
      kept, rfl, rfl⟩
  · rw [if_neg present]
    have fresh : key ∉ live := fun member => present ((lookup_isSome_iff kept key).mpr member)
    have appended : (entries.insert key now).keys.Perm (live ++ [key]) := by
      have absent : key ∉ entries.keys := fun member => fresh (kept.mem_iff.mp member)
      rw [AList.keys_insert, List.erase_of_not_mem absent]
      exact (kept.cons key).trans (List.perm_append_singleton key live).symm
    obtain ⟨cut, after, found⟩ := evictLoop_spec cache.capacity (live ++ [key]) appended
    rw [List.length_append, List.length_singleton] at cut
    refine ⟨.accepted dropped live _ split expired fresh cut fun other member => ?_, after, rfl, rfl⟩
    refine (found other member).trans ?_
    rw [Table.lookup_insert_eq]
    by_cases same : other = key
    · rw [if_pos same, if_pos same]
    · rw [if_neg same, if_neg same]
      refine lookups other ?_
      have inside : other ∈ (live ++ [key]).drop (live.length + 1 - cache.capacity) := cut ▸ member
      rcases List.mem_append.mp (List.mem_of_mem_drop inside) with old | new
      · exact old
      · exact absurd (List.mem_singleton.mp new) same

/-! ### Watching one key -/

/-- **What has become of a key accepted at an instant**: it is still there with only later keys behind
it, or as many other keys as fit have been seen since, or it is too late for it to return. -/
inductive Watch (seen : K → Prop) (late : Prop) (key : K) (stamp : UInt64) (cache : ReplayCache K) : Prop
  | held (before after : List K) : cache.order = before ++ key :: after →
      cache.entries.lookup key = some stamp → (∀ other ∈ after, seen other) →
      Watch seen late key stamp cache
  | displaced (others : Finset K) : cache.capacity ≤ others.card →
      (∀ other ∈ others, other ≠ key ∧ seen other) → Watch seen late key stamp cache
  | expired : late → Watch seen late key stamp cache

theorem Watch.mono {seen seen' : K → Prop} {late late' : Prop} {key : K} {stamp : UInt64}
    {cache : ReplayCache K} (watch : Watch seen late key stamp cache)
    (grows : ∀ past, seen past → seen' past) (stays : late → late') : Watch seen' late' key stamp cache := by
  cases watch with
  | held before after order found behind =>
    exact .held before after order found fun other member => grows other (behind other member)
  | displaced others many apart =>
    refine .displaced others many fun other member => ?_
    exact ⟨(apart other member).1, grows other (apart other member).2⟩
  | expired gone => exact .expired (stays gone)

/-- The front that goes either stops before the key or takes it with it. -/
theorem split_front {dropped live before after : List K} {key : K}
    (same : dropped ++ live = before ++ key :: after) :
    (∃ middle, live = middle ++ key :: after) ∨ key ∈ dropped := by
  rcases List.append_eq_append_iff.mp same with ⟨middle, _, rest⟩ | ⟨middle, front, rest⟩
  · exact .inl ⟨middle, rest⟩
  · cases middle with
    | nil => exact .inl ⟨[], rest.symm⟩
    | cons head tail =>
      right
      rw [List.cons_append, List.cons.injEq] at rest
      rw [front, rest.1]
      exact List.mem_append_right _ List.mem_cons_self

/-- What stands behind a key, with a new key at the end: no repetition, and the key is not among it. -/
theorem nodup_behind {middle after : List K} {key other : K} (distinct : (middle ++ key :: after).Nodup)
    (fresh : other ∉ middle ++ key :: after) : (after ++ [other]).Nodup ∧ key ∉ after ++ [other] := by
  obtain ⟨apart, tail⟩ := List.nodup_cons.mp (List.nodup_append.mp distinct).2.1
  have absent : other ∉ key :: after := fun inside => fresh (List.mem_append_right _ inside)
  rw [List.mem_cons, not_or] at absent
  constructor
  · rw [← List.concat_eq_append]
    exact tail.concat absent.2
  · rw [List.mem_append, List.mem_singleton, not_or]
    exact ⟨apart, Ne.symm absent.1⟩

theorem Watch.offer {seen seen' : K → Prop} {late late' : Prop} {key other : K} {stamp now : UInt64}
    {cache next : ReplayCache K} {answer : Bool} (watch : Watch seen late key stamp cache)
    (coherent : Coherent cache) (step : Offer cache other now answer next) (kept : Kept cache next)
    (grows : ∀ past, seen past → seen' past) (joins : answer = true → seen' other)
    (stays : late → late') (passes : cache.ttl < U64.saturatingSub now stamp → late') :
    Watch seen' late' key stamp next := by
  cases watch with
  | displaced others many apart =>
    refine .displaced others (kept.capacity_eq ▸ many) fun past member => ?_
    exact ⟨(apart past member).1, grows past (apart past member).2⟩
  | expired gone => exact .expired (stays gone)
  | held before after order found behind =>
    have distinct : cache.order.Nodup := coherent.nodup_iff.mp cache.entries.keys_nodup
    have dropped_late : ∀ dropped : List K, (∀ old ∈ dropped, ∃ inserted,
        cache.entries.lookup old = some inserted ∧ cache.ttl < U64.saturatingSub now inserted) →
        key ∈ dropped → late' := by
      intro dropped gone member
      obtain ⟨inserted, located, old⟩ := gone key member
      rw [found] at located
      cases located
      exact passes old
    cases step with
    | replayed dropped _ split gone lookups member =>
      rcases split_front (split.symm.trans order) with ⟨middle, rest⟩ | taken
      · refine .held middle after rest ?_ fun past inside => grows past (behind past inside)
        rw [lookups key (rest ▸ List.mem_append_right _ List.mem_cons_self), found]
      · exact .expired (dropped_late dropped gone taken)
    | accepted dropped live _ split gone fresh cut lookups =>
      rcases split_front (split.symm.trans order) with ⟨middle, rest⟩ | taken
      swap
      · exact .expired (dropped_late dropped gone taken)
      have liveDistinct : live.Nodup := (List.nodup_append.mp (split ▸ distinct)).2.1
      have different : key ≠ other := by
        rintro rfl
        exact fresh (rest ▸ List.mem_append_right _ List.mem_cons_self)
      have newer : ∀ past ∈ after ++ [other], seen' past := by
        intro past inside
        rcases List.mem_append.mp inside with old | new
        · exact grows past (behind past old)
        · rw [List.mem_singleton.mp new]
          exact joins rfl
      rw [rest, List.append_assoc, List.cons_append, List.length_append, List.length_cons] at cut
      rcases le_or_gt (middle.length + (after.length + 1) + 1 - cache.capacity) middle.length with
        fits | full
      · -- the cut stops before the key
        rw [List.drop_append_of_le_length fits] at cut
        refine .held _ (after ++ [other]) cut ?_ newer
        rw [lookups key (cut ▸ List.mem_append_right _ List.mem_cons_self), if_neg different, found]
      · -- the cut takes the key: what is left behind it fills the cache
        rw [rest] at liveDistinct fresh
        obtain ⟨behindDistinct, apart⟩ := nodup_behind liveDistinct fresh
        refine .displaced (after ++ [other]).toFinset ?_ fun past inside => ?_
        · rw [List.toFinset_card_of_nodup behindDistinct, List.length_append, List.length_singleton,
            kept.capacity_eq]
          omega
        · rw [List.mem_toFinset] at inside
          exact ⟨fun same => apart (same ▸ inside), newer past inside⟩

/-! ### Runs -/

/-- One access: the key that is offered, if any, and the time. -/
structure Access (K : Type) where
  key : Option K
  now : UInt64

def access (cache : ReplayCache K) (request : Access K) : Bool × ReplayCache K :=
  match request.key with
  | some key => checkAndInsert cache key request.now
  | none => (false, cache)

/-- The access at a position offers a key and is answered that it is new. -/
def AcceptedAt (start : ReplayCache K) (requests : List (Access K)) (position : ℕ) (key : K) : Prop :=
  ∃ now, requests[position]? = some ⟨some key, now⟩ ∧ (outputs access start requests)[position]? = some true

theorem access_kept {cache : ReplayCache K} (coherent : Coherent cache) (request : Access K) :
    Kept cache (access cache request).2 := by
  unfold access
  cases request.key with
  | none => exact ⟨coherent, rfl, rfl⟩
  | some key => exact (checkAndInsert_offer coherent key request.now).2

theorem final_kept {start : ReplayCache K} (coherent : Coherent start) (requests : List (Access K)) :
    Kept start (final access start requests) := by
  refine final_induct access (fun _ current => Kept start current) requests ⟨coherent, rfl, rfl⟩ ?_
  intro consumed request rest current _ kept
  obtain ⟨after, capacity, ttl⟩ := access_kept kept.coherent request
  exact ⟨after, capacity.trans kept.capacity_eq, ttl.trans kept.ttl_eq⟩

/-! ### The loops end -/

/-- A loop leaves its body after a number of rounds. -/
inductive Ends {σ : Type} (body : σ → Option σ) : σ → ℕ → σ → Prop
  | stop {state : σ} : body state = none → Ends body state 0 state
  | round {state next last : σ} {rounds : ℕ} : body state = some next → Ends body next rounds last →
      Ends body state (rounds + 1) last

/-- The body of the loop of `prune`; `none` is its `break`. -/
def pruneRound (ttl now : UInt64) : List K × Table K UInt64 → Option (List K × Table K UInt64)
  | ([], _) => none
  | (front :: rest, entries) =>
    match entries.lookup front with
    | none => some (rest, entries)
    | some inserted =>
      if U64.saturatingSub now inserted ≤ ttl then none else some (rest, entries.erase front)

/-- The body of the loop of `check_and_insert`. -/
def evictRound (capacity : ℕ) : List K × Table K UInt64 → Option (List K × Table K UInt64)
  | ([], _) => none
  | (oldest :: rest, entries) =>
    if entries.keys.length > capacity then some (rest, entries.erase oldest) else none

theorem pruneLoop_ends (ttl now : UInt64) (order : List K) (entries : Table K UInt64) :
    ∃ rounds ≤ order.length, Ends (pruneRound ttl now) (order, entries) rounds (pruneLoop ttl now order entries) := by
  induction order generalizing entries with
  | nil => exact ⟨0, le_rfl, .stop rfl⟩
  | cons front rest ih =>
    cases found : entries.lookup front with
    | none =>
      obtain ⟨rounds, few, ends⟩ := ih entries
      have body : pruneRound ttl now (front :: rest, entries) = some (rest, entries) := by simp [pruneRound, found]
      refine ⟨rounds + 1, Nat.succ_le_succ few, .round body ?_⟩
      simpa [pruneLoop, found] using ends
    | some inserted =>
      by_cases young : U64.saturatingSub now inserted ≤ ttl
      · refine ⟨0, Nat.zero_le _, ?_⟩
        have kept : pruneLoop ttl now (front :: rest) entries = (front :: rest, entries) := by
          simp [pruneLoop, found, young]
        rw [kept]
        exact .stop (by simp [pruneRound, found, young])
      · obtain ⟨rounds, few, ends⟩ := ih (entries.erase front)
        have body : pruneRound ttl now (front :: rest, entries) = some (rest, entries.erase front) := by
          simp [pruneRound, found, young]
        refine ⟨rounds + 1, Nat.succ_le_succ few, .round body ?_⟩
        simpa [pruneLoop, found, young] using ends

theorem evictLoop_ends (capacity : ℕ) (order : List K) (entries : Table K UInt64) :
    ∃ rounds ≤ order.length,
      Ends (evictRound capacity) (order, entries) rounds (evictLoop capacity order entries) := by
  induction order generalizing entries with
  | nil => exact ⟨0, le_rfl, .stop rfl⟩
  | cons oldest rest ih =>
    by_cases full : entries.keys.length > capacity
    · obtain ⟨rounds, few, ends⟩ := ih (entries.erase oldest)
      refine ⟨rounds + 1, Nat.succ_le_succ few, .round (if_pos full) ?_⟩
      rw [evictLoop, if_pos full]
      exact ends
    · refine ⟨0, Nat.zero_le _, ?_⟩
      rw [evictLoop, if_neg full]
      exact .stop (if_neg full)

/-! ### What the order lists -/

/-- A call of `check_and_insert`; without a key it only prunes. -/
def insertCall (cache : ReplayCache K) (request : Access K) : Bool × ReplayCache K :=
  match request.key with
  | some key => checkAndInsert cache key request.now
  | none => (false, prune cache request.now)

/-- The keys that a run accepts, in the order of the calls. -/
def acceptedKeys (cache : ReplayCache K) : List (Access K) → List K
  | [] => []
  | request :: rest => (if (insertCall cache request).1 then request.key.toList else []) ++
      acceptedKeys (insertCall cache request).2 rest

/-- The order lists each key once, as many as fit: the last ones that were accepted. -/
structure Represents (cache : ReplayCache K) (accepted : List K) : Prop where
  nodup : cache.order.Nodup
  mem_order : ∀ key, key ∈ cache.order ↔ key ∈ cache.entries
  bounded : cache.order.length ≤ cache.capacity
  recent : cache.order <:+ accepted

theorem represents_of_coherent {cache : ReplayCache K} (coherent : Coherent cache)
    (bounded : cache.order.length ≤ cache.capacity) {accepted : List K} (recent : cache.order <:+ accepted) :
    Represents cache accepted :=
  ⟨coherent.nodup_iff.mp cache.entries.keys_nodup, fun _ => coherent.symm.mem_iff.trans AList.mem_keys.symm,
    bounded, recent⟩

/-- What is left of the order after an offer, with the key if it was accepted. -/
theorem Offer.lists {cache next : ReplayCache K} {key : K} {now : UInt64} {answer : Bool}
    (offer : Offer cache key now answer next) (bounded : cache.order.length ≤ cache.capacity) {accepted : List K}
    (recent : cache.order <:+ accepted) :
    next.order.length ≤ cache.capacity ∧ next.order <:+ accepted ++ if answer then [key] else [] := by
  cases offer with
  | replayed dropped _ split _ _ _ =>
    have part : next.order <:+ cache.order := ⟨dropped, split.symm⟩
    refine ⟨part.length_le.trans bounded, ?_⟩
    simpa using part.trans recent
  | accepted dropped live _ split _ _ cut _ =>
    obtain ⟨front, whole⟩ := List.IsSuffix.trans ⟨dropped, split.symm⟩ recent
    constructor
    · simp only [cut, List.length_drop, List.length_append, List.length_singleton]
      omega
    · rw [cut, if_pos rfl]
      refine (List.drop_suffix _ _).trans ⟨front, ?_⟩
      rw [← List.append_assoc, whole]

/-- **One call** keeps what the order lists. -/
theorem insertCall_lists {cache : ReplayCache K} (coherent : Coherent cache)
    (bounded : cache.order.length ≤ cache.capacity) {accepted : List K} (recent : cache.order <:+ accepted)
    (request : Access K) : Kept cache (insertCall cache request).2 ∧
      (insertCall cache request).2.order.length ≤ cache.capacity ∧ (insertCall cache request).2.order <:+
        accepted ++ if (insertCall cache request).1 then request.key.toList else [] := by
  unfold insertCall
  cases request.key with
  | none =>
    obtain ⟨kept, dropped, split, _, _⟩ := pruneLoop_spec cache.ttl request.now cache.order coherent
    have part : (prune cache request.now).order <:+ cache.order := ⟨dropped, split.symm⟩
    refine ⟨⟨kept, rfl, rfl⟩, part.length_le.trans bounded, ?_⟩
    simpa using part.trans recent
  | some key =>
    obtain ⟨offer, kept⟩ := checkAndInsert_offer coherent key request.now
    exact ⟨kept, offer.lists bounded recent⟩

/-- **The representation after every run.** -/
theorem represents_final {cache : ReplayCache K} (coherent : Coherent cache)
    (bounded : cache.order.length ≤ cache.capacity) {accepted : List K} (recent : cache.order <:+ accepted)
    (requests : List (Access K)) : (final insertCall cache requests).capacity = cache.capacity ∧
      Represents (final insertCall cache requests) (accepted ++ acceptedKeys cache requests) := by
  induction requests generalizing cache accepted with
  | nil =>
    refine ⟨rfl, represents_of_coherent coherent bounded ?_⟩
    rw [acceptedKeys, List.append_nil]
    exact recent
  | cons request rest ih =>
    obtain ⟨kept, few, listed⟩ := insertCall_lists coherent bounded recent request
    obtain ⟨capacity, represents⟩ := ih kept.coherent (by rw [kept.capacity_eq]; exact few) listed
    rw [final_cons, acceptedKeys, ← List.append_assoc]
    exact ⟨capacity.trans kept.capacity_eq, represents⟩

section Between

variable {start : ReplayCache K} {requests : List (Access K)} {first : ℕ} {key : K} {stamp : UInt64}

/-- Other keys accepted since a position. -/
def SeenSince (start : ReplayCache K) (requests : List (Access K)) (first position : ℕ) (other : K) : Prop :=
  ∃ between, first < between ∧ between < position ∧ AcceptedAt start requests between other

/-- An earlier access came more than a lifetime after an instant. -/
def LateBefore (start : ReplayCache K) (requests : List (Access K)) (position : ℕ) (stamp : UInt64) : Prop :=
  ∃ earlier < position, ∃ request, requests[earlier]? = some request ∧
    start.ttl < U64.saturatingSub request.now stamp

theorem take_succ_final {position : ℕ} {request : Access K} (here : requests[position]? = some request) :
    final access start (requests.take (position + 1))
      = (access (final access start (requests.take position)) request).2 := by
  rw [List.take_add_one, here, Option.toList_some, final_concat]

/-- Right after its acceptance a key is the newest one. -/
theorem watch_first (coherent : Coherent start) (room : 0 < start.capacity)
    (here : requests[first]? = some ⟨some key, stamp⟩)
    (answer : (outputs access start requests)[first]? = some true) :
    Watch (SeenSince start requests first (first + 1)) (LateBefore start requests (first + 1) stamp) key stamp
      (final access start (requests.take (first + 1))) := by
  have kept := final_kept coherent (requests.take first)
  rw [outputs_getElem?, here, Option.map_some, Option.some.injEq] at answer
  rw [take_succ_final here]
  obtain ⟨step, _⟩ := checkAndInsert_offer kept.coherent key stamp
  change Offer _ key stamp (access _ ⟨some key, stamp⟩).1 (access _ ⟨some key, stamp⟩).2 at step
  rw [answer] at step
  generalize (access (final access start (requests.take first)) ⟨some key, stamp⟩).2 = next at step ⊢
  cases step with
  | accepted dropped live _ _ _ _ cut lookups =>
    rw [List.drop_append_of_le_length (by rw [kept.capacity_eq]; omega)] at cut
    refine .held _ [] cut ?_ (fun other member => by cases member)
    rw [lookups key (cut ▸ List.mem_append_right _ (List.mem_singleton_self key)), if_pos rfl]

/-- **The watch goes on** through every later access. -/
theorem watch_later (coherent : Coherent start) (room : 0 < start.capacity)
    (here : requests[first]? = some ⟨some key, stamp⟩)
    (answer : (outputs access start requests)[first]? = some true) (count : ℕ) :
    Watch (SeenSince start requests first (first + 1 + count))
      (LateBefore start requests (first + 1 + count) stamp) key stamp
      (final access start (requests.take (first + 1 + count))) := by
  induction count with
  | zero => exact watch_first coherent room here answer
  | succ count ih =>
    have kept := final_kept coherent (requests.take (first + 1 + count))
    have grows : ∀ past, SeenSince start requests first (first + 1 + count) past →
        SeenSince start requests first (first + 1 + (count + 1)) past := by
      rintro past ⟨between, after, before, accepted⟩
      exact ⟨between, after, by omega, accepted⟩
    have stays : LateBefore start requests (first + 1 + count) stamp →
        LateBefore start requests (first + 1 + (count + 1)) stamp := by
      rintro ⟨earlier, before, request, located, old⟩
      exact ⟨earlier, by omega, request, located, old⟩
    cases next : requests[first + 1 + count]? with
    | none =>
      have short := List.getElem?_eq_none_iff.mp next
      have same : requests.take (first + 1 + (count + 1)) = requests.take (first + 1 + count) := by
        rw [List.take_of_length_le short, List.take_of_length_le (by omega)]
      rw [same]
      exact ih.mono grows stays
    | some request =>
      rw [show first + 1 + (count + 1) = first + 1 + count + 1 from rfl, take_succ_final next]
      obtain ⟨offered, now⟩ := request
      cases offered with
      | none => exact ih.mono grows stays
      | some other =>
        obtain ⟨step, after⟩ := checkAndInsert_offer kept.coherent other now
        refine ih.offer kept.coherent step after grows (fun accepted => ?_) stays fun old => ?_
        · refine ⟨first + 1 + count, by omega, by omega, now, next, ?_⟩
          rw [outputs_getElem?, next, Option.map_some]
          exact congrArg some accepted
        · rw [kept.ttl_eq] at old
          exact ⟨first + 1 + count, by omega, _, next, old⟩

end Between

/-- **Between two acceptances of a key the cache has filled with others.** The clock does not go back,
and the key is not offered again later than its lifetime. -/
theorem capacity_between {start : ReplayCache K} (coherent : Coherent start) {requests : List (Access K)}
    (clock : requests.Pairwise fun earlier later => earlier.now ≤ later.now) {first second : ℕ}
    (order : first < second) {key : K}
    (timely : ∀ early late, requests[first]? = some ⟨some key, early⟩ →
      requests[second]? = some ⟨some key, late⟩ → U64.saturatingSub late early ≤ start.ttl)
    (firstAccepted : AcceptedAt start requests first key)
    (secondAccepted : AcceptedAt start requests second key) :
    ∃ others : Finset K, start.capacity ≤ others.card ∧
      ∀ other ∈ others, other ≠ key ∧ SeenSince start requests first second other := by
  rcases Nat.eq_zero_or_pos start.capacity with none | room
  · exact ⟨∅, none.le, fun other member => absurd member (Finset.notMem_empty other)⟩
  obtain ⟨early, firstHere, firstAnswer⟩ := firstAccepted
  obtain ⟨late, secondHere, secondAnswer⟩ := secondAccepted
  have within := timely early late firstHere secondHere
  obtain ⟨count, rfl⟩ : ∃ count, second = first + 1 + count := ⟨second - (first + 1), by omega⟩
  have kept := final_kept coherent (requests.take (first + 1 + count))
  have secondStep := secondAnswer
  rw [outputs_getElem?, secondHere, Option.map_some, Option.some.injEq] at secondStep
  cases watch_later coherent room firstHere firstAnswer count with
  | displaced others many apart => exact ⟨others, kept.capacity_eq ▸ many, apart⟩
  | expired gone =>
    obtain ⟨earlier, before, request, located, old⟩ := gone
    obtain ⟨inside, here⟩ := List.getElem?_eq_some_iff.mp located
    obtain ⟨lastInside, lastHere⟩ := List.getElem?_eq_some_iff.mp secondHere
    have ordered := List.pairwise_iff_getElem.mp clock earlier (first + 1 + count) inside lastInside before
    rw [here, lastHere] at ordered
    simp only [UInt64.le_iff_toNat_le, UInt64.lt_iff_toNat_lt, U64.toNat_saturatingSub] at ordered old within
    omega
  | held before after split found _ =>
    -- the key is still there, and not old enough to be pruned
    obtain ⟨step, _⟩ := checkAndInsert_offer kept.coherent key late
    change Offer _ key late (access _ ⟨some key, late⟩).1 (access _ ⟨some key, late⟩).2 at step
    rw [secondStep] at step
    generalize (access (final access start (requests.take (first + 1 + count))) ⟨some key, late⟩).2 = next
      at step
    cases step with
    | accepted dropped live _ parts gone fresh _ _ =>
      rcases split_front (parts.symm.trans split) with ⟨middle, rest⟩ | taken
      · exact absurd (rest ▸ List.mem_append_right _ List.mem_cons_self) fresh
      · obtain ⟨inserted, located, old⟩ := gone key taken
        rw [found] at located
        cases located
        rw [kept.ttl_eq] at old
        exact absurd within (UInt64.not_le.mpr old)

end ReplayCache

end P2pNet.Lib
