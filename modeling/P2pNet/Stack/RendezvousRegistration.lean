/-
**Runs of rendezvous registrations** (`refresh_rendezvous` and `on_rendezvous_client_event`).

A rendezvous point grants a registration for a time. The node remembers that it is registered and not until when, and
a refresh registers only where the node is neither registered nor registering. Beside the state stands, for every peer
and namespace, the last `Registered` answer with its time.
-/

import P2pNet.Stack.RendezvousDiscovery

set_option linter.unusedSectionVars false

namespace P2pNet.Stack

open Lib PeerIdentity Connectivity

variable {PeerId Addr Cookie : Type} [PeerIdentity PeerId] [Multiaddr PeerId Addr]

/-! ### What a refresh does to registrations -/

def RendezvousRequest.asRegister : RendezvousRequest PeerId Addr Cookie → Option (RendezvousPeerNamespace PeerId)
  | .register peer name _ => some ⟨peer, name⟩
  | _ => none

/-- The registrations that were tried. -/
def registers (requests : List (RendezvousRequest PeerId Addr Cookie)) : List (RendezvousPeerNamespace PeerId) :=
  requests.filterMap RendezvousRequest.asRegister

/-- From one point of a refresh to a later one: what is registered stays, and only names that are usable and not
registered are tried. -/
structure Registering (names : List String) (before after : Refresh PeerId Addr Cookie) : Prop where
  registered : after.state.registeredNamespaces = before.state.registeredNamespaces
  grows : ∀ key ∈ before.state.registerInflightNamespaces, key ∈ after.state.registerInflightNamespaces
  kept : ∀ key ∈ registers before.requests, key ∈ registers after.requests
  inflight : ∀ key ∈ after.state.registerInflightNamespaces, key ∈ before.state.registerInflightNamespaces ∨
    key.name ∈ names ∧ key ∉ before.state.registeredNamespaces
  tried : ∀ key ∈ registers after.requests, key ∈ registers before.requests ∨
    key.name ∈ names ∧ key ∉ before.state.registeredNamespaces

/-- The key is registered, in flight or tried. -/
def Handles (refresh : Refresh PeerId Addr Cookie) (key : RendezvousPeerNamespace PeerId) : Prop :=
  key ∈ refresh.state.registeredNamespaces ∨ key ∈ refresh.state.registerInflightNamespaces ∨
    key ∈ registers refresh.requests

namespace Registering

variable {names : List String} {first second third : Refresh PeerId Addr Cookie}

theorem refl (refresh : Refresh PeerId Addr Cookie) : Registering names refresh refresh :=
  ⟨rfl, fun _ member => member, fun _ member => member, fun _ member => .inl member, fun _ member => .inl member⟩

theorem trans (before : Registering names first second) (after : Registering names second third) :
    Registering names first third where
  registered := after.registered.trans before.registered
  grows key member := after.grows key (before.grows key member)
  kept key member := after.kept key (before.kept key member)
  inflight key member := by
    rcases after.inflight key member with earlier | new
    · exact before.inflight key earlier
    · exact .inr (before.registered ▸ new)
  tried key member := by
    rcases after.tried key member with earlier | new
    · exact before.tried key earlier
    · exact .inr (before.registered ▸ new)

theorem handles (registering : Registering names first second) {key : RendezvousPeerNamespace PeerId}
    (handled : Handles first key) : Handles second key := by
  rcases handled with registered | inflight | tried
  · exact .inl (registering.registered ▸ registered)
  · exact .inr (.inl (registering.grows key inflight))
  · exact .inr (.inr (registering.kept key tried))

/-- A list of steps, each of which keeps to the rule. -/
theorem foldl {α : Type} {step : Refresh PeerId Addr Cookie → α → Refresh PeerId Addr Cookie} {inputs : List α}
    (each : ∀ refresh, ∀ input ∈ inputs, Registering names refresh (step refresh input))
    (refresh : Refresh PeerId Addr Cookie) : Registering names refresh (inputs.foldl step refresh) := by
  induction inputs generalizing refresh with
  | nil => exact refl refresh
  | cons input rest ih =>
    refine (each refresh input List.mem_cons_self).trans (ih (fun current other member => ?_) _)
    exact each current other (List.mem_cons_of_mem _ member)

/-- Where the rest of the steps keep to the rule, what one of them handles stays handled. -/
theorem handles_foldl (names : List String) {α : Type} {step : Refresh PeerId Addr Cookie → α → Refresh PeerId Addr Cookie} {inputs : List α}
    (each : ∀ refresh, ∀ input ∈ inputs, Registering names refresh (step refresh input)) {input : α}
    (member : input ∈ inputs) {key : RendezvousPeerNamespace PeerId}
    (handled : ∀ refresh, Handles (step refresh input) key) (refresh : Refresh PeerId Addr Cookie) :
    Handles (inputs.foldl step refresh) key := by
  obtain ⟨before, after, rfl⟩ := List.append_of_mem member
  rw [List.foldl_append, List.foldl_cons]
  refine (foldl (fun current other listed => each current other ?_) _).handles (handled _)
  exact List.mem_append_right _ (List.mem_cons_of_mem _ listed)

end Registering

section Refreshes

variable (setup : RendezvousSetup Addr) (answers : RegisterAnswers PeerId Addr Cookie) {names : List String}

/-- A discovery does not touch registrations. -/
theorem discoverNamespace_registering (names : List String) (peer : PeerId) (refresh : Refresh PeerId Addr Cookie)
    (name : String) : Registering names refresh (discoverNamespace setup peer refresh name) := by
  unfold discoverNamespace
  split_ifs
  · have same : registers (refresh.requests ++ [.discover peer name
        (RendezvousState.discoverCookie
          { refresh.state with discoverAttempts := saturatingAdd refresh.state.discoverAttempts 1 } peer name)
        setup.limit]) = registers refresh.requests := by
      simp [registers, RendezvousRequest.asRegister]
    exact ⟨rfl, fun _ member => member, fun _ member => same ▸ member, fun _ member => .inl member,
      fun _ member => .inl (same ▸ member)⟩
  · exact .refl refresh

theorem registerNamespace_registering (peer : PeerId) (refresh : Refresh PeerId Addr Cookie) {name : String}
    (usable : name ∈ names) : Registering names refresh (registerNamespace setup answers peer refresh name) ∧
      (setup.register = true → Handles (registerNamespace setup answers peer refresh name) ⟨peer, name⟩) := by
  have requested : ∀ key, key ∈ registers (refresh.requests ++
      [.register peer name setup.discovery.rendezvous.registerTtlSecs]) ↔
        key ∈ registers refresh.requests ∨ key = ⟨peer, name⟩ := by
    intro key
    simp [registers, RendezvousRequest.asRegister]
  unfold registerNamespace
  split_ifs with needed
  · simp only [Bool.and_eq_true, Bool.not_eq_true', RendezvousState.isRegistered, decide_eq_false_iff_not] at needed
    have new : name ∈ names ∧ ⟨peer, name⟩ ∉ refresh.state.registeredNamespaces := ⟨usable, needed.1.2⟩
    have tried : ∀ key, key ∈ registers (refresh.requests ++
        [.register peer name setup.discovery.rendezvous.registerTtlSecs]) → key ∈ registers refresh.requests ∨
          key.name ∈ names ∧ key ∉ refresh.state.registeredNamespaces := by
      intro key member
      rcases (requested key).mp member with earlier | rfl
      · exact .inl earlier
      · exact .inr new
    cases answers refresh.requests peer name with
    | ok =>
      refine ⟨⟨rfl, fun _ member => Finset.mem_insert_of_mem member, fun key member => (requested key).mpr (.inl member),
        fun key member => ?_, tried⟩, fun _ => .inr (.inr ((requested _).mpr (.inr rfl)))⟩
      rcases Finset.mem_insert.mp member with rfl | earlier
      · exact .inr new
      · exact .inl earlier
    | error =>
      exact ⟨⟨rfl, fun _ member => member, fun key member => (requested key).mpr (.inl member),
        fun _ member => .inl member, tried⟩, fun _ => .inr (.inr ((requested _).mpr (.inr rfl)))⟩
  · refine ⟨.refl refresh, fun wanted => ?_⟩
    by_contra unhandled
    refine needed ?_
    simp only [Handles, not_or] at unhandled
    simp [wanted, RendezvousState.isRegistered, RendezvousState.isRegisterInflight, unhandled.1, unhandled.2.1]

theorem refreshNamespace_registering (peer : PeerId) (refresh : Refresh PeerId Addr Cookie) {name : String}
    (usable : name ∈ names) : Registering names refresh (refreshNamespace setup answers peer refresh name) ∧
      (setup.register = true → Handles (refreshNamespace setup answers peer refresh name) ⟨peer, name⟩) := by
  obtain ⟨first, handled⟩ := registerNamespace_registering setup answers peer refresh usable
  have second := discoverNamespace_registering setup names peer (registerNamespace setup answers peer refresh name) name
  exact ⟨first.trans second, fun wanted => second.handles (handled wanted)⟩

theorem refreshAddr_registering (names : List String) (refresh : Refresh PeerId Addr Cookie) (addr : Addr) :
    Registering names refresh (refreshAddr setup answers names refresh addr) := by
  unfold refreshAddr
  cases extractP2pPeerId addr with
  | none =>
    exact ⟨rfl, fun _ member => member, fun _ member => member, fun _ member => .inl member, fun _ member => .inl member⟩
  | some peer =>
    have same : registers (refresh.requests ++ [.addAddress peer addr, .dial addr]) = registers refresh.requests := by
      simp [registers, RendezvousRequest.asRegister]
    have dialed : ∀ plan, Registering names refresh
        ⟨refresh.state, plan, refresh.requests ++ [.addAddress peer addr, .dial addr]⟩ := by
      intro plan
      exact ⟨rfl, fun _ member => member, fun _ member => same ▸ member, fun _ member => .inl member,
        fun _ member => .inl (same ▸ member)⟩
    cases setup.clientBuilt with
    | false => exact dialed _
    | true =>
      exact (dialed refresh.plan).trans (Registering.foldl (fun current name usable =>
        (refreshNamespace_registering setup answers peer current usable).1) _)

/-- **An address** whose peer is known handles every name. -/
theorem refreshAddr_handles (built : setup.clientBuilt = true) (wanted : setup.register = true) {name : String}
    (usable : name ∈ names) {addr : Addr} {peer : PeerId} (known : extractP2pPeerId addr = some peer)
    (refresh : Refresh PeerId Addr Cookie) : Handles (refreshAddr setup answers names refresh addr) ⟨peer, name⟩ := by
  unfold refreshAddr
  simp only [known, built, if_true]
  refine Registering.handles_foldl names (fun current other member => ?_) usable (fun current => ?_) _
  · exact (refreshNamespace_registering setup answers peer current member).1
  · exact (refreshNamespace_registering setup answers peer current usable).2 wanted

/-- Are registrations enabled? -/
def RendezvousSetup.registering (setup : RendezvousSetup Addr) : Bool :=
  setup.discovery.rendezvous.clientEnabled && setup.clientBuilt && setup.register

/-- **A refresh, registrations only**: it keeps to the rule, and handles every usable name of every configured
peer. -/
theorem refreshRendezvous_registering (state : RendezvousState PeerId Cookie) :
    Registering setup.usable ⟨state, .default, []⟩ (refreshRendezvous setup answers state) ∧
      (setup.registering = true → ∀ name ∈ setup.usable, ∀ addr ∈ setup.rendezvousAddrs, ∀ peer,
        extractP2pPeerId addr = some peer → Handles (refreshRendezvous setup answers state) ⟨peer, name⟩) := by
  have still : ∀ plan, Registering setup.usable (⟨state, .default, []⟩ : Refresh PeerId Addr Cookie)
      ⟨state, plan, []⟩ := fun plan =>
    ⟨rfl, fun _ member => member, fun _ member => member, fun _ member => .inl member, fun _ member => .inl member⟩
  unfold refreshRendezvous
  by_cases early : (!setup.discovery.rendezvous.clientEnabled || setup.rendezvousAddrs.isEmpty) = true
  · rw [if_pos early]
    refine ⟨still _, fun registering name _ addr listed => ?_⟩
    rcases Bool.or_eq_true _ _ ▸ early with off | none
    · unfold RendezvousSetup.registering at registering
      simp only [Bool.not_eq_true'] at off
      rw [off] at registering
      cases registering
    · rw [List.isEmpty_iff.mp none] at listed
      cases listed
  · rw [if_neg early]
    unfold RendezvousSetup.usable
    cases derived : setup.discovery.rendezvousNamespaces setup.blake3 setup.networkId with
    | error reason =>
      have moved := still (RendezvousActionPlan.default.push reason.toText)
      unfold RendezvousSetup.usable at moved
      rw [derived] at moved
      exact ⟨moved, fun _ name member => by cases member⟩
    | ok names =>
      have moved : ∀ plan, Registering (usableNamespaces names).1 (⟨state, .default, []⟩ : Refresh PeerId Addr Cookie)
          ⟨state, plan, []⟩ := by
        intro plan
        have moved := still plan
        unfold RendezvousSetup.usable at moved
        rwa [derived] at moved
      by_cases none : (usableNamespaces names).1.isEmpty = true
      · simp only [none, if_true]
        refine ⟨moved _, fun _ name member => ?_⟩
        rw [List.isEmpty_iff.mp none] at member
        cases member
      · simp only [none]
        refine ⟨(moved _).trans (Registering.foldl (fun current addr _ =>
          refreshAddr_registering setup answers _ current addr) _), ?_⟩
        intro registering name usable addr listed peer known
        simp only [RendezvousSetup.registering, Bool.and_eq_true] at registering
        refine Registering.handles_foldl (usableNamespaces names).1 (fun current other _ => ?_) listed (fun current => ?_) _
        · exact refreshAddr_registering setup answers _ current other
        · exact refreshAddr_handles setup answers registering.1.2 registering.2 usable known current

end Refreshes

/-! ### Timed runs -/

/-- A `Registered` answer: when it was received and for how long. -/
structure Grant where
  time : ℕ
  ttl : ℕ
  deriving DecidableEq

/-- It was received less than its ttl ago. -/
def Grant.Lasts (grant : Grant) (now : ℕ) : Prop := now < grant.time + grant.ttl

instance (grant : Grant) (now : ℕ) : Decidable (grant.Lasts now) := inferInstanceAs (Decidable (_ < _))

/-- The state, and the last `Registered` answer of every peer and namespace. -/
structure Timed (PeerId Cookie : Type) where
  state : RendezvousState PeerId Cookie
  granted : Table (RendezvousPeerNamespace PeerId) Grant

def Timed.start : Timed PeerId Cookie := ⟨.default, ∅⟩

inductive TimedInput (PeerId Addr Cookie : Type)
  | refresh (now : ℕ) (answers : RegisterAnswers PeerId Addr Cookie)
  | event (now : ℕ) (walks : Walks PeerId) (event : RendezvousClientEvent PeerId Addr Cookie)

/-- The answers received so far, with one more event. -/
def grantedAfter (granted : Table (RendezvousPeerNamespace PeerId) Grant) (now : ℕ) :
    RendezvousClientEvent PeerId Addr Cookie → Table (RendezvousPeerNamespace PeerId) Grant
  | .registered node ttl name => granted.insert ⟨node, name.1⟩ ⟨now, ttl⟩
  | _ => granted

/-- One input; a refresh puts out the registrations that it tried. -/
def timedStep (setup : RendezvousSetup Addr) (timed : Timed PeerId Cookie) :
    TimedInput PeerId Addr Cookie → List (RendezvousPeerNamespace PeerId) × Timed PeerId Cookie
  | .refresh _ answers =>
    let refreshed := refreshRendezvous setup answers timed.state
    (registers refreshed.requests, { timed with state := refreshed.state })
  | .event now walks event =>
    ([], ⟨(onRendezvousClientEvent walks timed.state event).state, grantedAfter timed.granted now event⟩)

/-! ### What is registered -/

/-- **The invariant.** -/
structure Granted (timed : Timed PeerId Cookie) : Prop where
  registered : ∀ key, key ∈ timed.state.registeredNamespaces ↔ ∃ grant, timed.granted.lookup key = some grant
  apart : ∀ key ∈ timed.state.registerInflightNamespaces, key ∉ timed.state.registeredNamespaces
  short : ∀ key ∈ timed.state.registeredNamespaces ∪ timed.state.registerInflightNamespaces,
    key.name.utf8ByteSize ≤ 255

theorem usable_short (setup : RendezvousSetup Addr) : ∀ name ∈ setup.usable, name.utf8ByteSize ≤ 255 := by
  unfold RendezvousSetup.usable
  cases setup.discovery.rendezvousNamespaces setup.blake3 setup.networkId with
  | error reason => exact fun name member => nomatch member
  | ok names =>
    intro name member
    have kept : name ∈ names.filter (·.utf8ByteSize ≤ 255) := usableNamespaces_fst names ▸ member
    simpa using List.of_mem_filter kept

namespace Granted

variable {timed : Timed PeerId Cookie}

theorem start : Granted (Timed.start : Timed PeerId Cookie) where
  registered key := by simp [Timed.start, RendezvousState.default]
  apart key member := by simp [Timed.start, RendezvousState.default] at member
  short key member := by simp [Timed.start, RendezvousState.default] at member

/-- Registrations that are left alone. -/
theorem unchanged (granted : Granted timed) {state : RendezvousState PeerId Cookie}
    (registered : state.registeredNamespaces = timed.state.registeredNamespaces)
    (inflight : state.registerInflightNamespaces = timed.state.registerInflightNamespaces) :
    Granted { timed with state } where
  registered key := by
    rw [registered]
    exact granted.registered key
  apart key member := by
    rw [registered]
    exact granted.apart key (inflight ▸ member)
  short key member := by
    rw [registered, inflight] at member
    exact granted.short key member

theorem refreshed (granted : Granted timed) (setup : RendezvousSetup Addr)
    (answers : RegisterAnswers PeerId Addr Cookie) :
    Granted { timed with state := (refreshRendezvous setup answers timed.state).state } := by
  obtain ⟨registering, _⟩ := refreshRendezvous_registering setup answers timed.state
  refine ⟨fun key => ?_, fun key member => ?_, fun key member => ?_⟩
  · rw [registering.registered]
    exact granted.registered key
  · rw [registering.registered]
    rcases registering.inflight key member with earlier | ⟨_, new⟩
    · exact granted.apart key earlier
    · exact new
  · rcases Finset.mem_union.mp member with known | inflight
    · exact granted.short key (Finset.mem_union_left _ (registering.registered ▸ known))
    · rcases registering.inflight key inflight with earlier | ⟨usable, _⟩
      · exact granted.short key (Finset.mem_union_right _ earlier)
      · exact usable_short setup _ usable

theorem markRegistered (granted : Granted timed) (node : PeerId) (name : Namespace) (grant : Grant) :
    Granted ⟨timed.state.markRegistered node name.1, timed.granted.insert ⟨node, name.1⟩ grant⟩ := by
  refine ⟨fun key => ?_, fun key member => ?_, fun key member => ?_⟩
  · rw [RendezvousState.markRegistered, Finset.mem_insert, Table.lookup_insert_eq, granted.registered key]
    by_cases same : key = ⟨node, name.1⟩
    · simp [same]
    · simp [same]
  · obtain ⟨other, inflight⟩ := Finset.mem_erase.mp member
    exact Finset.mem_insert.not.mpr (not_or.mpr ⟨other, granted.apart key inflight⟩)
  · rcases Finset.mem_union.mp member with known | inflight
    · rcases Finset.mem_insert.mp known with rfl | earlier
      · exact name.2
      · exact granted.short key (Finset.mem_union_left _ earlier)
    · exact granted.short key (Finset.mem_union_right _ (Finset.mem_of_mem_erase inflight))

theorem markRegisterFailed (granted : Granted timed) (node : PeerId) (name : String) :
    Granted { timed with state := timed.state.markRegisterFailed node name } where
  registered := granted.registered
  apart key member := granted.apart key (Finset.mem_of_mem_erase member)
  short key member := granted.short key
    (Finset.union_subset_union_right (Finset.erase_subset _ _) member)

/-- **An event** of the client. -/
theorem handled (granted : Granted timed) (now : ℕ) (walks : Walks PeerId)
    (event : RendezvousClientEvent PeerId Addr Cookie) :
    Granted ⟨(onRendezvousClientEvent walks timed.state event).state, grantedAfter timed.granted now event⟩ := by
  cases event with
  | registered node ttl name => exact granted.markRegistered node name ⟨now, ttl⟩
  | registerFailed node name error => exact (granted.markRegisterFailed node name.1).unchanged rfl rfl
  | discovered node registrations cookie =>
    unfold onRendezvousClientEvent
    obtain ⟨known, recorded⟩ := RendezvousState.foldl_recordDiscoveredPeer_eq
      (timed.state.completeDiscoverForPeer walks.inflight node cookie).2 walks.first (registrations.map (·.peer))
    simp only [recorded]
    refine granted.unchanged ?_ ?_
    · unfold RendezvousState.completeDiscoverForPeer
      cases walks.inflight.find? fun candidate => candidate.peer = node with
      | none => rfl
      | some key => rfl
    · unfold RendezvousState.completeDiscoverForPeer
      cases walks.inflight.find? fun candidate => candidate.peer = node with
      | none => rfl
      | some key => rfl
  | discoverFailed node name error =>
    cases name with
    | none => exact granted.unchanged rfl rfl
    | some name => exact granted.unchanged rfl rfl
  | expired peer => exact granted.unchanged rfl rfl

theorem step (granted : Granted timed) (setup : RendezvousSetup Addr) (input : TimedInput PeerId Addr Cookie) :
    Granted (timedStep setup timed input).2 := by
  cases input with
  | refresh now answers => exact granted.refreshed setup answers
  | event now walks event => exact granted.handled now walks event

end Granted

/-! ### Keeping registrations alive -/

/-- A refresh leaves every namespace of every configured point registered, in flight or tried. -/
def KeepsAlive (setup : RendezvousSetup Addr) (names : List String) (timed : Timed PeerId Cookie) :
    TimedInput PeerId Addr Cookie → Prop
  | .refresh now answers =>
    let (tried, after) := timedStep setup timed (.refresh now answers)
    ∀ addr ∈ setup.rendezvousAddrs, ∀ peer, extractP2pPeerId addr = some peer → ∀ name ∈ names,
      (∃ grant, after.granted.lookup ⟨peer, name⟩ = some grant ∧ grant.Lasts now) ∨
        ⟨peer, name⟩ ∈ after.state.registerInflightNamespaces ∨ ⟨peer, name⟩ ∈ tried
  | .event .. => True

/-- Before the refresh no registration of a configured point has run out, and all names are short enough to be
registered. -/
def StillGranted (setup : RendezvousSetup Addr) (names : List String) (timed : Timed PeerId Cookie) :
    TimedInput PeerId Addr Cookie → Prop
  | .refresh now _ =>
    ∀ addr ∈ setup.rendezvousAddrs, ∀ peer : PeerId, extractP2pPeerId addr = some peer → ∀ name ∈ names,
      name.utf8ByteSize ≤ 255 ∧ ∀ grant, timed.granted.lookup ⟨peer, name⟩ = some grant → grant.Lasts now
  | .event .. => True

section Alive

variable {setup : RendezvousSetup Addr} {names : List String} {timed : Timed PeerId Cookie}

theorem mem_usable_iff (derived : setup.discovery.rendezvousNamespaces setup.blake3 setup.networkId = .ok names)
    (name : String) : name ∈ setup.usable ↔ name ∈ names ∧ name.utf8ByteSize ≤ 255 := by
  rw [usable_eq_of_derived derived, List.mem_filter, decide_eq_true_iff]

/-- One key: the registration is alive exactly when it had not run out before. A registered key is never tried
again, whether its time is over or not. -/
theorem alive_key_iff (registering : setup.registering = true)
    (derived : setup.discovery.rendezvousNamespaces setup.blake3 setup.networkId = .ok names)
    (granted : Granted timed) (now : ℕ) (answers : RegisterAnswers PeerId Addr Cookie) {addr : Addr}
    (listed : addr ∈ setup.rendezvousAddrs) {peer : PeerId} (known : extractP2pPeerId addr = some peer) {name : String}
    (member : name ∈ names) :
    ((∃ grant, timed.granted.lookup ⟨peer, name⟩ = some grant ∧ grant.Lasts now) ∨
        ⟨peer, name⟩ ∈ (refreshRendezvous setup answers timed.state).state.registerInflightNamespaces ∨
        ⟨peer, name⟩ ∈ registers (refreshRendezvous setup answers timed.state).requests) ↔
      name.utf8ByteSize ≤ 255 ∧ ∀ grant, timed.granted.lookup ⟨peer, name⟩ = some grant → grant.Lasts now := by
  obtain ⟨rule, covers⟩ := refreshRendezvous_registering setup answers timed.state
  -- what is in flight or tried has a short name and no grant
  have asked : ⟨peer, name⟩ ∈ (refreshRendezvous setup answers timed.state).state.registerInflightNamespaces ∨
      ⟨peer, name⟩ ∈ registers (refreshRendezvous setup answers timed.state).requests →
        name.utf8ByteSize ≤ 255 ∧ ⟨peer, name⟩ ∉ timed.state.registeredNamespaces := by
    rintro (inflight | tried)
    · rcases rule.inflight _ inflight with earlier | ⟨usable, new⟩
      · exact ⟨granted.short _ (Finset.mem_union_right _ earlier), granted.apart _ earlier⟩
      · exact ⟨usable_short setup name usable, new⟩
    · rcases rule.tried _ tried with none | ⟨usable, new⟩
      · cases none
      · exact ⟨usable_short setup name usable, new⟩
  constructor
  · rintro (⟨grant, found, lasts⟩ | requested)
    · have registered := (granted.registered _).mpr ⟨grant, found⟩
      refine ⟨granted.short _ (Finset.mem_union_left _ registered), fun other same => ?_⟩
      rw [found] at same
      exact Option.some.inj same ▸ lasts
    · obtain ⟨short, new⟩ := asked requested
      exact ⟨short, fun grant found => absurd ((granted.registered _).mpr ⟨grant, found⟩) new⟩
  · rintro ⟨short, lasts⟩
    have usable := (mem_usable_iff derived name).mpr ⟨member, short⟩
    rcases covers registering name usable addr listed peer known with registered | requested
    · rw [rule.registered] at registered
      obtain ⟨grant, found⟩ := (granted.registered _).mp registered
      exact .inl ⟨grant, found, lasts grant found⟩
    · exact .inr requested

/-- **One input** keeps registrations alive exactly when none has run out before it. -/
theorem alive_iff (registering : setup.registering = true)
    (derived : setup.discovery.rendezvousNamespaces setup.blake3 setup.networkId = .ok names)
    (granted : Granted timed) (input : TimedInput PeerId Addr Cookie) :
    KeepsAlive setup names timed input ↔ StillGranted setup names timed input := by
  cases input with
  | event now walks event => exact Iff.rfl
  | refresh now answers =>
    refine forall_congr' fun addr => forall_congr' fun listed => forall_congr' fun peer => forall_congr' fun known =>
      forall_congr' fun name => forall_congr' fun member => ?_
    exact alive_key_iff registering derived granted now answers listed known member

/-- **Registrations over a whole run.** -/
theorem registrations_alive_iff (registering : setup.registering = true)
    (derived : setup.discovery.rendezvousNamespaces setup.blake3 setup.networkId = .ok names)
    (inputs : List (TimedInput PeerId Addr Cookie)) :
    Each (timedStep setup) (KeepsAlive setup names) .start inputs ↔
      Each (timedStep setup) (StillGranted setup names) .start inputs := by
  have granted : ∀ count, Granted (final (timedStep setup) (Timed.start : Timed PeerId Cookie) (inputs.take count)) := by
    intro count
    refine final_induct (timedStep setup) (fun _ => Granted) _ .start ?_
    exact fun consumed input rest current _ granted => granted.step setup input
  refine forall_congr' fun count => forall_congr' fun input => forall_congr' fun _ => ?_
  exact alive_iff registering derived (granted count) input

end Alive

/-! ### A registration that runs out -/

namespace ExpiredRegistration

open TwoNamespaces (point setup answers)

def name : Namespace := ⟨"p2p-net/7/app/a", by decide⟩

/-- A refresh registers, the point grants two hours, and the next refresh comes when they are over. -/
def inputs (later : ℕ) : List (TimedInput Seed Endpoint ℕ) :=
  [.refresh 0 answers, .event 1 ⟨[], fun _ => none⟩ (.registered .nnoo 7200 name), .refresh later answers]

theorem derived : (setup ["a"]).discovery.rendezvousNamespaces TwoNamespaces.blake3 7 = .ok [name.1] := by
  decide

/-- **The registration is not renewed**: it has run out, is not in flight and is not tried. -/
theorem not_renewed : (setup ["a"]).registering = true ∧
    ¬ Each (timedStep (setup ["a"])) (KeepsAlive (setup ["a"]) [name.1]) .start (inputs 7201) := by
  refine ⟨rfl, fun each => ?_⟩
  have last := each 2 _ rfl point (List.mem_singleton.mpr rfl) .nnoo rfl name.1 (List.mem_singleton.mpr rfl)
  revert last
  decide

/-- A second earlier it is still granted. -/
theorem granted_in_time :
    Each (timedStep (setup ["a"])) (KeepsAlive (setup ["a"]) [name.1]) .start (inputs 7200) := by
  refine (registrations_alive_iff rfl derived (inputs 7200)).mpr ?_
  have held : ∀ timed : Timed Seed ℕ, ∀ now,
      (∀ grant, timed.granted.lookup ⟨.nnoo, name.1⟩ = some grant → grant.Lasts now) →
      StillGranted (setup ["a"]) [name.1] timed (.refresh now answers) := by
    intro timed now lasts addr listed peer known other member
    obtain rfl := List.mem_singleton.mp listed
    obtain rfl := List.mem_singleton.mp member
    obtain rfl : Seed.nnoo = peer := Option.some.inj known
    exact ⟨name.2, lasts⟩
  refine (each_cons _).mpr ⟨held _ 0 (by decide), (each_cons _).mpr ⟨trivial, (each_cons _).mpr
    ⟨held _ 7200 (by decide), each_nil _ _ _⟩⟩⟩

end ExpiredRegistration

end P2pNet.Stack
