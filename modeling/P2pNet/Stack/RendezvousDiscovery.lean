/-
**Runs of rendezvous discoveries** (`refresh_rendezvous` and `on_rendezvous_client_event`).

Beside the state of the node stand the discover requests that are outstanding and the cookies that were returned, each
with the request it answers. A `Discovered` event carries no namespace, so that the node has to know which request it
answers. It does: while a peer has a request outstanding nothing else is sent to it, and since every refresh starts
with the same namespace, that is the only one ever sent.
-/

import P2pNet.Stack.RendezvousRefresh

set_option linter.unusedSectionVars false

namespace P2pNet.Stack

open Lib PeerIdentity Connectivity

variable {PeerId Addr Cookie : Type} [PeerIdentity PeerId] [Multiaddr PeerId Addr]

/-! ### Tracked runs -/

/-- The state, the discover requests without an answer yet, and the cookies of the answers. -/
structure Tracked (PeerId Cookie : Type) where
  state : RendezvousState PeerId Cookie
  outstanding : List (RendezvousPeerNamespace PeerId)
  returned : List (RendezvousPeerNamespace PeerId × Cookie)

def Tracked.start : Tracked PeerId Cookie := ⟨.default, [], []⟩

/-- A refresh, or an event of the client. `request` is the discover request that the event answers. -/
inductive TrackedInput (PeerId Addr Cookie : Type)
  | refresh (answers : RegisterAnswers PeerId Addr Cookie)
  | event (walks : Walks PeerId) (event : RendezvousClientEvent PeerId Addr Cookie)
      (request : Option (RendezvousPeerNamespace PeerId))

inductive TrackedOutput (PeerId Addr Cookie : Type)
  | requests (requests : List (RendezvousRequest PeerId Addr Cookie))
  | report (report : RendezvousReport PeerId)
  deriving DecidableEq

def TrackedInput.isRefresh : TrackedInput PeerId Addr Cookie → Bool
  | .refresh _ => true
  | .event .. => false

def trackedStep (setup : RendezvousSetup Addr) (tracked : Tracked PeerId Cookie) :
    TrackedInput PeerId Addr Cookie → TrackedOutput PeerId Addr Cookie × Tracked PeerId Cookie
  | .refresh answers =>
    let refreshed := refreshRendezvous setup answers tracked.state
    (.requests refreshed.requests,
      { tracked with
        state := refreshed.state
        outstanding := tracked.outstanding ++ (discovers refreshed.requests).map (·.1) })
  | .event walks event request =>
    let handled := onRendezvousClientEvent walks tracked.state event
    (.report handled.report,
      { state := handled.state
        outstanding := request.elim tracked.outstanding tracked.outstanding.erase
        returned := match event, request with
          | .discovered _ _ cookie, some key => tracked.returned ++ [(key, cookie)]
          | _, _ => tracked.returned })

/-- An event answers a discover request: it comes from the peer, and a failure names the namespace or none. -/
def RendezvousClientEvent.Answers (key : RendezvousPeerNamespace PeerId) :
    RendezvousClientEvent PeerId Addr Cookie → Prop
  | .discovered node _ _ => node = key.peer
  | .discoverFailed node name _ => node = key.peer ∧ ∀ given, name = some given → given.1 = key.name
  | _ => False

def RendezvousClientEvent.isDiscover : RendezvousClientEvent PeerId Addr Cookie → Bool
  | .discovered .. => true
  | .discoverFailed .. => true
  | _ => false

/-- Each answer is for a request that is outstanding, and the set in flight is walked as a whole. -/
def Admissible (tracked : Tracked PeerId Cookie) : TrackedInput PeerId Addr Cookie → Prop
  | .refresh _ => True
  | .event walks event (some key) =>
    key ∈ tracked.outstanding ∧ event.Answers key ∧
      ∀ other, other ∈ walks.inflight ↔ other ∈ tracked.state.discoverInflightNamespaces
  | .event _ event none => event.isDiscover = false

/-! ### What is in flight -/

/-- **The invariant**; `first` is the namespace a refresh starts with. -/
structure Consistent (first : Option String) (part : DiscoverPart PeerId Cookie)
    (outstanding : List (RendezvousPeerNamespace PeerId)) (returned : List (RendezvousPeerNamespace PeerId × Cookie)) :
    Prop where
  peers : (outstanding.map (·.peer)).Nodup
  inflight : ∀ peer, peer ∈ part.inflight ↔ peer ∈ outstanding.map (·.peer)
  keys : ∀ key, key ∈ part.inflightNamespaces ↔ key ∈ outstanding
  names : ∀ key ∈ outstanding, first = some key.name
  cookies : ∀ peer cookie, part.cookies.lookup peer = some cookie →
    ∃ name, first = some name ∧ (⟨peer, name⟩, cookie) ∈ returned
  cookiesByNamespace : ∀ key cookie, part.cookiesByNamespace.lookup key = some cookie → (key, cookie) ∈ returned

namespace Consistent

variable {first : Option String} {part : DiscoverPart PeerId Cookie}
  {outstanding : List (RendezvousPeerNamespace PeerId)} {returned : List (RendezvousPeerNamespace PeerId × Cookie)}

theorem start : Consistent first (discoverPart (.default : RendezvousState PeerId Cookie)) [] [] where
  peers := List.nodup_nil
  inflight peer := by simp [discoverPart, RendezvousState.default]
  keys key := by simp [discoverPart, RendezvousState.default]
  names key member := by cases member
  cookies peer cookie found := by simp [discoverPart, RendezvousState.default] at found
  cookiesByNamespace key cookie found := by simp [discoverPart, RendezvousState.default] at found

/-- A request of a peer is the only one. -/
theorem unique (consistent : Consistent first part outstanding returned) {key other : RendezvousPeerNamespace PeerId}
    (member : key ∈ outstanding) (member' : other ∈ outstanding) (same : other.peer = key.peer) : other = key :=
  List.inj_on_of_nodup_map consistent.peers member' member same

/-- A cookie for the first namespace was returned for it. -/
theorem cookie_returned (consistent : Consistent first part outstanding returned)
    {key : RendezvousPeerNamespace PeerId} (name : first = some key.name) {cookie : Cookie}
    (found : part.cookie key = some cookie) : (key, cookie) ∈ returned := by
  unfold DiscoverPart.cookie at found
  rcases Option.or_eq_some_iff.mp found with named | ⟨_, fallback⟩
  · exact consistent.cookiesByNamespace key cookie named
  · obtain ⟨other, same, member⟩ := consistent.cookies key.peer cookie fallback
    rw [name] at same
    obtain rfl := Option.some.inj same
    exact member

/-! ### A refresh -/

/-- A peer is asked for the first namespace if nothing is outstanding for it, and for nothing otherwise. -/
theorem atPeer {names : List String} (consistent : Consistent names.head? part outstanding returned)
    (peer : PeerId) : Consistent names.head? (part.discoverPeer names peer).2
        (outstanding ++ (part.discoverPeer names peer).1.map (·.1)) returned ∧
      ∀ sent ∈ (part.discoverPeer names peer).1, names.head? = some sent.1.name ∧
        ∀ cookie, sent.2 = some cookie → (sent.1, cookie) ∈ returned := by
  by_cases busy : peer ∈ part.inflight
  · rw [part.discoverPeer_busy busy, List.map_nil, List.append_nil]
    exact ⟨consistent, fun sent member => absurd member List.not_mem_nil⟩
  cases names with
  | nil =>
    rw [part.discoverPeer_nil, List.map_nil, List.append_nil]
    exact ⟨consistent, fun sent member => absurd member List.not_mem_nil⟩
  | cons name rest =>
    have absent : ⟨peer, name⟩ ∉ part.inflightNamespaces := by
      intro present
      refine busy ((consistent.inflight peer).mpr (List.mem_map.mpr ⟨⟨peer, name⟩, ?_, rfl⟩))
      exact (consistent.keys _).mp present
    rw [part.discoverPeer_send busy absent]
    constructor
    · exact {
        peers := by
          have new : peer ∉ outstanding.map (·.peer) := fun known => busy ((consistent.inflight peer).mpr known)
          rw [List.map_append]
          exact consistent.peers.append (List.nodup_singleton _) (List.disjoint_singleton.mpr new)
        inflight := by
          intro other
          rw [DiscoverPart.send, Finset.mem_insert, consistent.inflight, List.map_append, List.mem_append, or_comm]
          simp
        keys := by
          intro key
          rw [DiscoverPart.send, Finset.mem_insert, consistent.keys, List.mem_append, or_comm]
          simp
        names := by
          intro key member
          rcases List.mem_append.mp member with old | new
          · exact consistent.names key old
          · rw [List.map_singleton, List.mem_singleton] at new
            rw [new]
            rfl
        cookies := consistent.cookies
        cookiesByNamespace := consistent.cookiesByNamespace }
    · intro sent member
      rw [List.mem_singleton.mp member]
      exact ⟨rfl, fun cookie found => consistent.cookie_returned rfl found⟩

theorem atAddr {setup : RendezvousSetup Addr} (consistent : Consistent setup.usable.head? part outstanding returned)
    (addr : Addr) : Consistent setup.usable.head? (discoverAddr setup part addr).2
        (outstanding ++ (discoverAddr setup part addr).1.map (·.1)) returned ∧
      ∀ sent ∈ (discoverAddr setup part addr).1, setup.usable.head? = some sent.1.name ∧
        ∀ cookie, sent.2 = some cookie → (sent.1, cookie) ∈ returned := by
  have still : Consistent setup.usable.head? part (outstanding ++ ([] : List (Sent PeerId Cookie)).map (·.1)) returned ∧
      ∀ sent ∈ ([] : List (Sent PeerId Cookie)), setup.usable.head? = some sent.1.name ∧
        ∀ cookie, sent.2 = some cookie → (sent.1, cookie) ∈ returned := by
    rw [List.map_nil, List.append_nil]
    exact ⟨consistent, fun sent member => absurd member List.not_mem_nil⟩
  unfold discoverAddr
  cases extractP2pPeerId addr with
  | none => exact still
  | some peer =>
    cases setup.discovering with
    | false => exact still
    | true => exact consistent.atPeer peer

/-- **A refresh** keeps the invariant, and sends only cookies that were returned for the namespace. -/
theorem refresh {setup : RendezvousSetup Addr} (consistent : Consistent setup.usable.head? part outstanding returned)
    (addrs : List Addr) : Consistent setup.usable.head? (final (discoverAddr setup) part addrs)
        (outstanding ++ (outputs (discoverAddr setup) part addrs).flatten.map (·.1)) returned ∧
      ∀ sent ∈ (outputs (discoverAddr setup) part addrs).flatten, setup.usable.head? = some sent.1.name ∧
        ∀ cookie, sent.2 = some cookie → (sent.1, cookie) ∈ returned := by
  induction addrs generalizing part outstanding with
  | nil =>
    rw [outputs, List.flatten_nil, List.map_nil, List.append_nil]
    exact ⟨consistent, fun sent member => absurd member List.not_mem_nil⟩
  | cons addr rest ih =>
    obtain ⟨here, sent⟩ := consistent.atAddr addr
    obtain ⟨later, others⟩ := ih here
    rw [final_cons, outputs, List.flatten_cons, List.map_append, ← List.append_assoc]
    refine ⟨later, fun item member => ?_⟩
    rcases List.mem_append.mp member with first | second
    · exact sent item first
    · exact others item second

/-! ### Answers -/

/-- The walk over the set in flight finds the request of the peer. -/
theorem find_request (consistent : Consistent first part outstanding returned)
    {key : RendezvousPeerNamespace PeerId} (member : key ∈ outstanding)
    {walk : List (RendezvousPeerNamespace PeerId)} (walked : ∀ other, other ∈ walk ↔ other ∈ part.inflightNamespaces) :
    (walk.find? fun candidate => candidate.peer = key.peer) = some key := by
  have present : key ∈ walk := (walked key).mpr ((consistent.keys key).mpr member)
  cases found : walk.find? fun candidate => candidate.peer = key.peer with
  | none => exact absurd (decide_eq_true rfl) (List.find?_eq_none.mp found key present)
  | some other =>
    have same : other.peer = key.peer := by simpa using List.find?_some found
    have listed := (consistent.keys other).mp ((walked other).mp (List.mem_of_find?_eq_some found))
    rw [consistent.unique member listed same]

/-- **An answered request** is in neither set any more. -/
theorem answered (consistent : Consistent first part outstanding returned) {key : RendezvousPeerNamespace PeerId}
    (member : key ∈ outstanding) {part' : DiscoverPart PeerId Cookie}
    {returned' : List (RendezvousPeerNamespace PeerId × Cookie)}
    (inflight : part'.inflight = part.inflight.erase key.peer)
    (keys : ∀ other, other ∈ part'.inflightNamespaces ↔ other ≠ key ∧ other ∈ part.inflightNamespaces)
    (cookies : ∀ peer cookie, part'.cookies.lookup peer = some cookie →
      ∃ name, first = some name ∧ (⟨peer, name⟩, cookie) ∈ returned')
    (cookiesByNamespace : ∀ other cookie, part'.cookiesByNamespace.lookup other = some cookie →
      (other, cookie) ∈ returned') : Consistent first part' (outstanding.erase key) returned' := by
  have distinct : outstanding.Nodup := consistent.peers.of_map
  have remains : ∀ other, other ∈ outstanding.erase key ↔ other ≠ key ∧ other ∈ outstanding :=
    fun other => distinct.mem_erase_iff
  exact {
    peers := consistent.peers.sublist (List.erase_sublist.map _)
    inflight := by
      intro peer
      rw [inflight, Finset.mem_erase, consistent.inflight, List.mem_map, List.mem_map]
      constructor
      · rintro ⟨different, other, listed, rfl⟩
        exact ⟨other, (remains other).mpr ⟨fun same => different (congrArg _ same), listed⟩, rfl⟩
      · rintro ⟨other, listed, rfl⟩
        obtain ⟨different, listed⟩ := (remains other).mp listed
        exact ⟨fun same => different (consistent.unique member listed same), other, listed, rfl⟩
    keys := fun other => by rw [keys, consistent.keys, remains]
    names := fun other listed => consistent.names other ((remains other).mp listed).2
    cookies
    cookiesByNamespace }

/-- **A discovered answer** completes its own request. -/
theorem completed (consistent : Consistent first part outstanding returned) {key : RendezvousPeerNamespace PeerId}
    (member : key ∈ outstanding) (cookie : Cookie) :
    Consistent first ⟨part.inflight.erase key.peer, part.inflightNamespaces.erase key,
      part.cookies.insert key.peer cookie, part.cookiesByNamespace.insert key cookie⟩ (outstanding.erase key)
      (returned ++ [(key, cookie)]) := by
  refine consistent.answered member rfl (fun other => Finset.mem_erase) ?_ ?_
  · intro peer given found
    rw [Table.lookup_insert_eq] at found
    split_ifs at found with same
    · obtain rfl := Option.some.inj found
      subst same
      exact ⟨key.name, consistent.names key member, List.mem_append_right _ (List.mem_singleton.mpr rfl)⟩
    · obtain ⟨name, named, old⟩ := consistent.cookies peer given found
      exact ⟨name, named, List.mem_append_left _ old⟩
  · intro other given found
    rw [Table.lookup_insert_eq] at found
    split_ifs at found with same
    · obtain rfl := Option.some.inj found
      subst same
      exact List.mem_append_right _ (List.mem_singleton.mpr rfl)
    · exact List.mem_append_left _ (consistent.cookiesByNamespace other given found)

/-- **A failed answer** ends its own request, whether it names the namespace or not. -/
theorem failed (consistent : Consistent first part outstanding returned) {key : RendezvousPeerNamespace PeerId}
    (member : key ∈ outstanding) {keys : Finset (RendezvousPeerNamespace PeerId)}
    (removed : keys = part.inflightNamespaces.erase key ∨
      keys = part.inflightNamespaces.filter fun candidate => candidate.peer ≠ key.peer) :
    Consistent first { part with inflight := part.inflight.erase key.peer, inflightNamespaces := keys }
      (outstanding.erase key) returned := by
  refine consistent.answered member rfl (fun other => ?_) consistent.cookies consistent.cookiesByNamespace
  rcases removed with rfl | rfl
  · exact Finset.mem_erase
  · rw [Finset.mem_filter, and_comm]
    refine and_congr_left fun present => not_congr ⟨fun same => ?_, congrArg _⟩
    exact consistent.unique member ((consistent.keys other).mp present) same

end Consistent

/-! ### Events -/

section Events

variable (walks : Walks PeerId) (state : RendezvousState PeerId Cookie)

theorem event_other {event : RendezvousClientEvent PeerId Addr Cookie} (other : event.isDiscover = false) :
    discoverPart (onRendezvousClientEvent walks state event).state = discoverPart state := by
  cases event with
  | registered => rfl
  | registerFailed => rfl
  | discovered => cases other
  | discoverFailed => cases other
  | expired => rfl

theorem event_discovered {key : RendezvousPeerNamespace PeerId}
    (found : (walks.inflight.find? fun candidate => candidate.peer = key.peer) = some key)
    (registrations : List (FoundRegistration PeerId Addr)) (cookie : Cookie) :
    discoverPart (onRendezvousClientEvent walks state (.discovered key.peer registrations cookie)).state =
        ⟨state.discoverInflight.erase key.peer, state.discoverInflightNamespaces.erase key,
          state.cookies.insert key.peer cookie, state.cookiesByNamespace.insert key cookie⟩ ∧
      ∃ learned, (onRendezvousClientEvent walks state (.discovered key.peer registrations cookie)).report =
        .discovered registrations.length key.peer (some key.name) learned := by
  have completed : state.completeDiscoverForPeer walks.inflight key.peer cookie =
      (some key.name, { state with
        discoverInflight := state.discoverInflight.erase key.peer
        cookies := state.cookies.insert key.peer cookie
        discoverInflightNamespaces := state.discoverInflightNamespaces.erase key
        cookiesByNamespace := state.cookiesByNamespace.insert key cookie }) := by
    unfold RendezvousState.completeDiscoverForPeer
    simp only [found]
  unfold onRendezvousClientEvent
  simp only [completed]
  obtain ⟨known, recorded⟩ := RendezvousState.foldl_recordDiscoveredPeer_eq { state with
    discoverInflight := state.discoverInflight.erase key.peer
    cookies := state.cookies.insert key.peer cookie
    discoverInflightNamespaces := state.discoverInflightNamespaces.erase key
    cookiesByNamespace := state.cookiesByNamespace.insert key cookie } walks.first (registrations.map (·.peer))
  rw [recorded]
  exact ⟨rfl, _, rfl⟩

theorem event_failed (Addr : Type) [Multiaddr PeerId Addr] {key : RendezvousPeerNamespace PeerId} {name : Option Namespace}
    (named : ∀ given, name = some given → given.1 = key.name) (error : String) :
    ∃ keys, discoverPart (onRendezvousClientEvent walks state
        (.discoverFailed key.peer name error : RendezvousClientEvent PeerId Addr Cookie)).state =
        { discoverPart state with
          inflight := state.discoverInflight.erase key.peer
          inflightNamespaces := keys } ∧
      (keys = state.discoverInflightNamespaces.erase key ∨
        keys = state.discoverInflightNamespaces.filter fun candidate => candidate.peer ≠ key.peer) := by
  cases name with
  | none => exact ⟨_, rfl, .inr rfl⟩
  | some given =>
    refine ⟨state.discoverInflightNamespaces.erase ⟨key.peer, given.1⟩, rfl, .inl ?_⟩
    rw [named given rfl]

end Events

/-! ### Runs -/

section Runs

variable {setup : RendezvousSetup Addr}

/-- The invariant of a tracked run. -/
def Tracked.Sound (setup : RendezvousSetup Addr) (tracked : Tracked PeerId Cookie) : Prop :=
  Consistent setup.usable.head? (discoverPart tracked.state) tracked.outstanding tracked.returned

theorem sound_refresh {tracked : Tracked PeerId Cookie} (sound : tracked.Sound setup)
    (answers : RegisterAnswers PeerId Addr Cookie) :
    ((trackedStep setup tracked (.refresh answers)).2).Sound setup ∧
      ∀ sent ∈ discovers (refreshRendezvous setup answers tracked.state).requests,
        setup.usable.head? = some sent.1.name ∧ ∀ cookie, sent.2 = some cookie → (sent.1, cookie) ∈ tracked.returned := by
  obtain ⟨part, sent⟩ := refreshRendezvous_discover answers tracked.state
  have both := sound.refresh setup.rendezvousAddrs
  rw [← part, ← sent] at both
  exact both

/-- A discovered answer: the state stays sound, and the namespace that is completed is that of the request. -/
theorem sound_discovered {tracked : Tracked PeerId Cookie} (sound : tracked.Sound setup) {walks : Walks PeerId}
    {key : RendezvousPeerNamespace PeerId} (member : key ∈ tracked.outstanding)
    (walked : ∀ other, other ∈ walks.inflight ↔ other ∈ tracked.state.discoverInflightNamespaces)
    (registrations : List (FoundRegistration PeerId Addr)) (cookie : Cookie) :
    ((trackedStep setup tracked (.event walks (.discovered key.peer registrations cookie) (some key))).2).Sound setup ∧
      ∃ learned, (trackedStep setup tracked (.event walks (.discovered key.peer registrations cookie) (some key))).1 =
        .report (.discovered registrations.length key.peer (some key.name) learned) := by
  obtain ⟨part, learned, report⟩ := event_discovered walks tracked.state (sound.find_request member walked)
    registrations cookie
  constructor
  · unfold Tracked.Sound
    show Consistent _ (discoverPart (onRendezvousClientEvent walks tracked.state _).state) _ _
    rw [part]
    exact sound.completed member cookie
  · exact ⟨learned, congrArg TrackedOutput.report report⟩

/-- **Every admissible step** keeps the invariant. -/
theorem sound_step {tracked : Tracked PeerId Cookie} {input : TrackedInput PeerId Addr Cookie}
    (admissible : Admissible tracked input) (sound : tracked.Sound setup) :
    ((trackedStep setup tracked input).2).Sound setup := by
  cases input with
  | refresh answers => exact (sound_refresh sound answers).1
  | event walks event request =>
    cases request with
    | none =>
      unfold Tracked.Sound trackedStep
      simp only
      rw [event_other walks tracked.state admissible]
      cases event with
      | discovered => cases admissible
      | _ => exact sound
    | some key =>
      obtain ⟨member, answer, walked⟩ := admissible
      cases event with
      | discovered node registrations cookie =>
        obtain rfl : node = key.peer := answer
        exact (sound_discovered sound member walked registrations cookie).1
      | discoverFailed node name error =>
        obtain ⟨rfl, named⟩ := answer
        obtain ⟨keys, part, removed⟩ := event_failed walks tracked.state Addr named error
        show Consistent _ (discoverPart (onRendezvousClientEvent walks tracked.state _).state) _ _
        rw [part]
        exact sound.failed member removed
      | registered => exact answer.elim
      | registerFailed => exact answer.elim
      | expired => exact answer.elim

theorem sound_start : (Tracked.start : Tracked PeerId Cookie).Sound setup := Consistent.start

/-- **Every state of a run** is sound. -/
theorem sound_run {inputs : List (TrackedInput PeerId Addr Cookie)}
    (admissible : Each (trackedStep setup) Admissible Tracked.start inputs) (count : ℕ) :
    (final (trackedStep setup) Tracked.start (inputs.take count)).Sound setup :=
  Each.invariant _ admissible sound_start (fun _ _ met sound => sound_step met sound) count

/-- A cookie that counts as returned came with an earlier answer to a request for its namespace. -/
theorem returned_origin {inputs : List (TrackedInput PeerId Addr Cookie)}
    (admissible : Each (trackedStep setup) Admissible Tracked.start inputs) {key : RendezvousPeerNamespace PeerId}
    {cookie : Cookie} (member : (key, cookie) ∈ (final (trackedStep setup) Tracked.start inputs).returned) :
    ∃ walks registrations, .event walks (.discovered key.peer registrations cookie) (some key) ∈ inputs := by
  induction inputs using List.reverseRecOn with
  | nil => cases member
  | append_singleton inputs input ih =>
    obtain ⟨earlier, last⟩ := (each_concat _).mp admissible
    rw [final_concat] at member
    have old : (key, cookie) ∈ (final (trackedStep setup) Tracked.start inputs).returned →
        ∃ walks registrations, .event walks (.discovered key.peer registrations cookie) (some key) ∈ inputs ++ [input] := by
      intro known
      obtain ⟨walks, registrations, listed⟩ := ih earlier known
      exact ⟨walks, registrations, List.mem_append_left _ listed⟩
    cases input with
    | refresh answers => exact old member
    | event walks event request =>
      cases request with
      | none =>
        cases event with
        | discovered => cases last
        | _ => exact old member
      | some request =>
        cases event with
        | discovered node registrations given =>
          obtain ⟨_, answer, _⟩ := last
          obtain rfl : node = request.peer := answer
          rcases List.mem_append.mp member with known | new
          · exact old known
          · cases List.mem_singleton.mp new
            exact ⟨walks, registrations, List.mem_append_right _ List.mem_cons_self⟩
        | _ => exact old member

/-- **Cookies are not mixed up**: along every run, no peer has two discover requests outstanding, a discovered answer
completes the namespace of its request, and a cookie sent for a namespace came with an earlier answer of that peer to a
request for that namespace. -/
theorem cookies_not_mixed (setup : RendezvousSetup Addr) (inputs : List (TrackedInput PeerId Addr Cookie))
    (admissible : Each (trackedStep setup) Admissible Tracked.start inputs) :
    (∀ count, ((final (trackedStep setup) Tracked.start (inputs.take count)).outstanding.map (·.peer)).Nodup) ∧
    (∀ (count : ℕ) walks node registrations cookie key,
      inputs[count]? = some (TrackedInput.event walks (.discovered node registrations cookie) (some key)) →
      ∃ learned, (outputs (trackedStep setup) Tracked.start inputs)[count]? =
        some (TrackedOutput.report (.discovered registrations.length node (some key.name) learned))) ∧
    (∀ (count : ℕ) requests peer name cookie limit,
      (outputs (trackedStep setup) Tracked.start inputs)[count]? = some (TrackedOutput.requests requests) →
      RendezvousRequest.discover peer name (some cookie) limit ∈ requests →
      ∃ walks registrations, TrackedInput.event walks (.discovered peer registrations cookie) (some ⟨peer, name⟩) ∈
        inputs.take count) := by
  refine ⟨fun count => (sound_run admissible count).peers, ?_, ?_⟩
  · intro count walks node registrations cookie key here
    obtain ⟨member, answer, walked⟩ := admissible count _ here
    obtain rfl : node = key.peer := answer
    obtain ⟨learned, report⟩ := (sound_discovered (sound_run admissible count) member walked registrations cookie).2
    rw [outputs_getElem?, here, Option.map_some, report]
    exact ⟨learned, rfl⟩
  · intro count requests peer name cookie limit here listed
    rw [outputs_getElem?] at here
    obtain ⟨input, found, output⟩ := Option.map_eq_some_iff.mp here
    cases input with
    | event walks event request => cases output
    | refresh answers =>
      cases output
      have sent : ((⟨peer, name⟩, some cookie) : Sent PeerId Cookie) ∈ discovers
          (refreshRendezvous setup answers (final (trackedStep setup) Tracked.start (inputs.take count)).state).requests :=
        List.mem_filterMap.mpr ⟨_, listed, rfl⟩
      have returned := ((sound_refresh (sound_run admissible count) answers).2 _ sent).2 cookie rfl
      exact returned_origin (Each.take _ admissible count) returned

/-! ### Which namespaces get their turn -/

/-- A run sends a discover request for a namespace to a peer. -/
def Asks (setup : RendezvousSetup Addr) (start : Tracked PeerId Cookie)
    (inputs : List (TrackedInput PeerId Addr Cookie)) (peer : PeerId) (name : String) : Prop :=
  ∃ requests cookie limit, TrackedOutput.requests requests ∈ outputs (trackedStep setup) start inputs ∧
    RendezvousRequest.discover peer name cookie limit ∈ requests

/-- Every discover request is for the first usable namespace. -/
theorem Asks.first {start : Tracked PeerId Cookie} {inputs : List (TrackedInput PeerId Addr Cookie)}
    (sound : start.Sound setup) (admissible : Each (trackedStep setup) Admissible start inputs) {peer : PeerId}
    {name : String} (asks : Asks setup start inputs peer name) : setup.usable.head? = some name := by
  obtain ⟨requests, cookie, limit, member, listed⟩ := asks
  obtain ⟨count, here⟩ := List.mem_iff_getElem?.mp member
  rw [outputs_getElem?] at here
  obtain ⟨input, found, output⟩ := Option.map_eq_some_iff.mp here
  have there := Each.invariant _ admissible sound (fun _ _ met sound => sound_step met sound) count
  cases input with
  | event walks event request => cases output
  | refresh answers =>
    cases output
    have sent : ((⟨peer, name⟩, cookie) : Sent PeerId Cookie) ∈ discovers
        (refreshRendezvous setup answers (final (trackedStep setup) start (inputs.take count)).state).requests :=
      List.mem_filterMap.mpr ⟨_, listed, rfl⟩
    exact ((sound_refresh there answers).2 _ sent).1

/-- A walk over the addresses leaves no peer without a request. -/
theorem Consistent.covers {part : DiscoverPart PeerId Cookie} {outstanding : List (RendezvousPeerNamespace PeerId)}
    {returned : List (RendezvousPeerNamespace PeerId × Cookie)}
    (consistent : Consistent setup.usable.head? part outstanding returned) (discovering : setup.discovering = true)
    {name : String} (first : setup.usable.head? = some name) {addrs : List Addr} {addr : Addr} (listed : addr ∈ addrs)
    {peer : PeerId} (names : extractP2pPeerId addr = some peer) :
    peer ∈ (outstanding ++ (outputs (discoverAddr setup) part addrs).flatten.map (·.1)).map (·.peer) := by
  induction addrs generalizing part outstanding with
  | nil => cases listed
  | cons other rest ih =>
    have walk : outstanding ++ (outputs (discoverAddr setup) part (other :: rest)).flatten.map (·.1) =
        (outstanding ++ (discoverAddr setup part other).1.map (·.1)) ++
          (outputs (discoverAddr setup) (discoverAddr setup part other).2 rest).flatten.map (·.1) := by
      rw [outputs, List.flatten_cons, List.map_append, List.append_assoc]
    rw [walk]
    rcases List.mem_cons.mp listed with rfl | later
    · rw [List.map_append]
      refine List.mem_append_left _ ?_
      have walked := consistent.atAddr addr
      refine (walked.1.inflight peer).mp ?_
      unfold discoverAddr
      simp only [names, discovering, if_true]
      by_cases busy : peer ∈ part.inflight
      · rw [part.discoverPeer_busy busy]
        exact busy
      · obtain ⟨others, split⟩ : ∃ others, setup.usable = name :: others := by
          cases usable : setup.usable with
          | nil =>
            rw [usable] at first
            cases first
          | cons head others =>
            rw [usable] at first
            obtain rfl := Option.some.inj first
            exact ⟨others, rfl⟩
        have absent : ⟨peer, name⟩ ∉ part.inflightNamespaces := by
          intro present
          refine busy ((consistent.inflight peer).mpr (List.mem_map.mpr ⟨⟨peer, name⟩, ?_, rfl⟩))
          exact (consistent.keys _).mp present
        rw [split, part.discoverPeer_send busy absent]
        exact Finset.mem_insert_self _ _
    · exact ih (consistent.atAddr other).1 later

/-- A refresh with nothing outstanding asks every configured peer for the first namespace. -/
theorem refresh_asks {tracked : Tracked PeerId Cookie} (sound : tracked.Sound setup) (quiet : tracked.outstanding = [])
    (discovering : setup.discovering = true) {name : String} (first : setup.usable.head? = some name) {addr : Addr}
    (listed : addr ∈ setup.rendezvousAddrs) {peer : PeerId} (names : extractP2pPeerId addr = some peer)
    (answers : RegisterAnswers PeerId Addr Cookie) : ∃ cookie limit,
      RendezvousRequest.discover peer name cookie limit ∈ (refreshRendezvous setup answers tracked.state).requests := by
  have covered := Consistent.covers sound discovering first listed names
  rw [quiet, List.nil_append, ← (refreshRendezvous_discover answers tracked.state).2, List.map_map] at covered
  obtain ⟨sent, member, same⟩ := List.mem_map.mp covered
  have named := ((sound_refresh sound answers).2 sent member).1
  obtain ⟨request, inside, shape⟩ := List.mem_filterMap.mp member
  cases request with
  | addAddress => cases shape
  | dial => cases shape
  | register => cases shape
  | discover asked given cookie limit =>
    cases shape
    obtain rfl : given = name := Option.some.inj (named.symm.trans first)
    obtain rfl : asked = peer := same
    exact ⟨cookie, limit, inside⟩

theorem usable_eq_of_derived {names : List String}
    (derived : setup.discovery.rendezvousNamespaces setup.blake3 setup.networkId = .ok names) :
    setup.usable = names.filter (·.utf8ByteSize ≤ 255) := by
  unfold RendezvousSetup.usable
  rw [derived]
  exact usableNamespaces_fst names

/-- **Every namespace gets its turn** in as many rounds as there are namespaces exactly when no peer is configured or
there is a single namespace that is short enough. In every round the requests of the round before are answered. -/
theorem all_namespaces_discovered_iff (discovering : setup.discovering = true) {names : List String}
    (derived : setup.discovery.rendezvousNamespaces setup.blake3 setup.networkId = .ok names)
    {past rounds : List (TrackedInput PeerId Addr Cookie)}
    (reached : Each (trackedStep setup) Admissible Tracked.start past)
    (admissible : Each (trackedStep setup) Admissible (final (trackedStep setup) Tracked.start past) rounds)
    (quiet : Each (trackedStep setup) (fun tracked input => input.isRefresh = true → tracked.outstanding = [])
      (final (trackedStep setup) Tracked.start past) rounds)
    (counted : rounds.countP TrackedInput.isRefresh = names.length) :
    (∀ name ∈ names, ∀ addr ∈ setup.rendezvousAddrs, ∀ peer, extractP2pPeerId addr = some peer →
        Asks setup (final (trackedStep setup) Tracked.start past) rounds peer name) ↔
      (∀ addr ∈ setup.rendezvousAddrs, extractP2pPeerId addr = none) ∨
        ∃ name, names = [name] ∧ name.utf8ByteSize ≤ 255 := by
  have sound : (final (trackedStep setup) Tracked.start past).Sound setup := by
    have whole := sound_run reached past.length
    rwa [List.take_length] at whole
  have usable := usable_eq_of_derived derived
  constructor
  · intro all
    by_cases configured : ∃ addr ∈ setup.rendezvousAddrs, ∃ peer, extractP2pPeerId addr = some peer
    · obtain ⟨addr, listed, peer, named⟩ := configured
      -- every namespace is the first usable one, so that there is only one
      have same : ∀ name ∈ names, setup.usable.head? = some name := fun name member =>
        (all name member addr listed peer named).first sound admissible
      right
      cases names with
      | nil => exact absurd rfl (DiscoveryConfig.rendezvousNamespaces_ne_nil setup.blake3 derived)
      | cons name rest =>
        have first := same name List.mem_cons_self
        have distinct := DiscoveryConfig.rendezvousNamespaces_nodup setup.blake3 derived
        cases rest with
        | nil =>
          have member := List.mem_of_mem_head? first
          rw [usable] at member
          exact ⟨name, rfl, of_decide_eq_true (List.mem_filter.mp member).2⟩
        | cons second others =>
          have again := same second (List.mem_cons_of_mem _ List.mem_cons_self)
          obtain rfl := Option.some.inj (first.symm.trans again)
          exact absurd List.mem_cons_self (List.nodup_cons.mp distinct).1
    · left
      intro addr listed
      cases extracted : extractP2pPeerId addr with
      | none => rfl
      | some peer => exact absurd ⟨addr, listed, peer, extracted⟩ configured
  · rintro (unconfigured | ⟨name, rfl, short⟩) wanted member addr listed peer named
    · rw [unconfigured addr listed] at named
      cases named
    · obtain rfl := List.mem_singleton.mp member
      have first : setup.usable.head? = some wanted := by
        rw [usable]
        simp [short]
      -- there is a refresh among the rounds, and nothing is outstanding before it
      have one : 0 < rounds.countP TrackedInput.isRefresh := by
        rw [counted]
        exact Nat.one_pos
      obtain ⟨input, among, isRefresh⟩ := List.countP_pos_iff.mp one
      obtain ⟨count, here⟩ := List.mem_iff_getElem?.mp among
      cases input with
      | event => cases isRefresh
      | refresh answers =>
        have there := Each.invariant _ admissible sound (fun _ _ met sound => sound_step met sound) count
        obtain ⟨cookie, limit, sent⟩ := refresh_asks there (quiet count _ here rfl) discovering first listed named answers
        refine ⟨_, cookie, limit, List.mem_iff_getElem?.mpr ⟨count, ?_⟩, sent⟩
        rw [outputs_getElem?, here]
        rfl

end Runs

/-! ### Two namespaces at one rendezvous point -/

namespace TwoNamespaces

/-- Readable names have no hash in them. -/
def blake3 : Blake3 := fun _ => List.Vector.replicate 32 0

def point : Endpoint := ⟨(203, 0, 113, 1), 4001, false, .nnoo⟩

def setup (tags : List String) : RendezvousSetup Endpoint where
  blake3
  networkId := 7
  discovery := .plain ⟨"app", tags, .readableUnsafe, true⟩ "p2p-net"
  register := true
  discover := true
  discoverLimit := 64
  clientBuilt := true
  rendezvousAddrs := [point]

def names : List String := ["p2p-net/7/app/a", "p2p-net/7/app/b"]

def answers : RegisterAnswers Seed Endpoint ℕ := fun _ _ _ => .ok ()

/-- The request for the first namespace. -/
def request : RendezvousPeerNamespace Seed := ⟨.nnoo, "p2p-net/7/app/a"⟩

/-- Two refreshes, with the answer to the first one between them. -/
def rounds : List (TrackedInput Seed Endpoint ℕ) :=
  [.refresh answers, .event ⟨[request], fun _ => none⟩ (.discovered .nnoo [] 1) (some request), .refresh answers]

theorem derived : (setup ["a", "b"]).discovery.rendezvousNamespaces blake3 7 = .ok names := by decide

/-- What is outstanding after the first refresh and after its answer. -/
theorem outstanding : (final (trackedStep (setup ["a", "b"])) .start (rounds.take 1)).outstanding = [request] ∧
    (final (trackedStep (setup ["a", "b"])) .start (rounds.take 1)).state.discoverInflightNamespaces = {request} ∧
    (final (trackedStep (setup ["a", "b"])) .start (rounds.take 2)).outstanding = [] := by
  decide

theorem admissible : Each (trackedStep (setup ["a", "b"])) Admissible .start rounds := by
  refine (each_cons _).mpr ⟨trivial, (each_cons _).mpr ⟨⟨?_, rfl, ?_⟩, (each_cons _).mpr ⟨trivial, each_nil _ _ _⟩⟩⟩
  · exact outstanding.1 ▸ List.mem_singleton.mpr rfl
  · intro other
    have inflight := outstanding.2.1
    exact List.mem_singleton.trans (inflight ▸ Finset.mem_singleton).symm

theorem quiet : Each (trackedStep (setup ["a", "b"]))
    (fun tracked input => input.isRefresh = true → tracked.outstanding = []) .start rounds := by
  refine (each_cons _).mpr ⟨fun _ => rfl, (each_cons _).mpr ⟨fun isRefresh => ?_, (each_cons _).mpr ⟨fun _ => ?_,
    each_nil _ _ _⟩⟩⟩
  · cases isRefresh
  · exact outstanding.2.2

/-- **The second namespace is never discovered**: both refreshes ask for the first one. -/
theorem second_never_discovered : Each (trackedStep (setup ["a", "b"])) Admissible .start rounds ∧
    Each (trackedStep (setup ["a", "b"])) (fun tracked input => input.isRefresh = true → tracked.outstanding = []) .start
      rounds ∧
    rounds.countP TrackedInput.isRefresh = names.length ∧
    ¬ Asks (setup ["a", "b"]) .start rounds .nnoo "p2p-net/7/app/b" := by
  refine ⟨admissible, quiet, by decide, fun asks => ?_⟩
  have first := asks.first sound_start admissible
  rw [usable_eq_of_derived derived] at first
  exact absurd first (by decide)

/-- A single namespace is discovered in one round. -/
theorem one_discovered : Asks (setup ["a"]) .start [.refresh answers] .nnoo "p2p-net/7/app/a" := by
  have alone : (setup ["a"]).discovery.rendezvousNamespaces blake3 7 = .ok ["p2p-net/7/app/a"] := by decide
  have step : ∀ condition : Tracked Seed ℕ → TrackedInput Seed Endpoint ℕ → Prop,
      condition .start (.refresh answers) → Each (trackedStep (setup ["a"])) condition .start [.refresh answers] :=
    fun condition holds => (each_cons _).mpr ⟨holds, each_nil _ _ _⟩
  have fresh : Each (trackedStep (setup ["a"])) Admissible (Tracked.start : Tracked Seed ℕ) [] := each_nil _ _ _
  exact (all_namespaces_discovered_iff rfl alone fresh (step _ trivial) (step _ fun _ => rfl) rfl).mpr
    (.inr ⟨_, rfl, by decide⟩) _ (List.mem_singleton.mpr rfl) point (List.mem_singleton.mpr rfl) .nnoo rfl

/-- What the second refresh asks of the swarm. -/
def secondRequests : List (RendezvousRequest Seed Endpoint ℕ) :=
  [.addAddress .nnoo point, .dial point, .discover .nnoo "p2p-net/7/app/a" (some 1) (some 64)]

/-- The cookie of the second request came with the answer to the first. -/
theorem cookie_of_first : ∃ walks registrations,
    TrackedInput.event walks (.discovered .nnoo registrations 1) (some request) ∈ rounds.take 2 :=
  (cookies_not_mixed (setup ["a", "b"]) rounds admissible).2.2 2 secondRequests .nnoo "p2p-net/7/app/a" 1 (some 64)
    (by decide) (by decide)

end TwoNamespaces

end P2pNet.Stack
