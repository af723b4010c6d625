/-
**Refreshing rendezvous points** (`refresh_rendezvous` and `on_rendezvous_client_event` of
`crates/stack/discovery.rs`).

A refresh walks the configured addresses, and for each of them the namespaces: it registers where the node is neither
registered nor registering, and discovers where no discovery is in flight. What the swarm is asked to do is a list of
requests; the answer of `register` may depend on everything asked before.
-/

import P2pNet.Lib.Run
import P2pNet.Connectivity.Rendezvous
import P2pNet.Connectivity.DiscoveryConfig
import P2pNet.Connectivity.ConnectionStrategy

set_option linter.unusedSectionVars false

namespace P2pNet.Stack

open Lib PeerIdentity Connectivity

/-! ### Setup, requests and plans -/

/-- The configuration of the rendezvous client. `clientBuilt` says whether the behaviour is part of the swarm. -/
structure RendezvousSetup (Addr : Type) where
  blake3 : Blake3
  networkId : UInt32
  discovery : DiscoveryConfig
  register : Bool
  discover : Bool
  discoverLimit : ℕ
  clientBuilt : Bool
  rendezvousAddrs : List Addr

namespace RendezvousSetup

variable {Addr : Type} (setup : RendezvousSetup Addr)

/-- `RendezvousConfig::discover_limit`. -/
def limit : Option ℕ := if setup.discoverLimit > 0 then some setup.discoverLimit else none

end RendezvousSetup

/-- What a refresh asks of the swarm. -/
inductive RendezvousRequest (PeerId Addr Cookie : Type)
  | addAddress (peer : PeerId) (addr : Addr)
  | dial (addr : Addr)
  | register (peer : PeerId) (name : String) (ttlSecs : ℕ)
  | discover (peer : PeerId) (name : String) (cookie : Option Cookie) (limit : Option ℕ)
  deriving DecidableEq

structure RendezvousActionPlan where
  registerAttempts : ℕ
  discoverAttempts : ℕ
  errors : List String

def RendezvousActionPlan.default : RendezvousActionPlan := ⟨0, 0, []⟩

def RendezvousActionPlan.push (plan : RendezvousActionPlan) (error : String) : RendezvousActionPlan :=
  { plan with errors := plan.errors ++ [error] }

/-- A refresh on its way. -/
structure Refresh (PeerId Addr Cookie : Type) where
  state : RendezvousState PeerId Cookie
  plan : RendezvousActionPlan
  requests : List (RendezvousRequest PeerId Addr Cookie)

/-- What `client.register` answers after the requests made so far. -/
abbrev RegisterAnswers (PeerId Addr Cookie : Type) :=
  List (RendezvousRequest PeerId Addr Cookie) → PeerId → String → Except String Unit

section Functions

variable {PeerId Addr Cookie : Type} [PeerIdentity PeerId] [Multiaddr PeerId Addr]

variable (setup : RendezvousSetup Addr) (answers : RegisterAnswers PeerId Addr Cookie)

/-- A name goes to the usable ones, or an error to the others. -/
def sortNamespace (sorted : List String × List String) (name : String) : List String × List String :=
  match rendezvousNamespace name with
  | .ok _ => (sorted.1 ++ [name], sorted.2)
  | .error err => (sorted.1, sorted.2 ++ [s!"rendezvous namespace `{name}` is invalid: {err}"])

/-- The names that `rendezvous::Namespace::new` accepts, and an error for each of the others. -/
def usableNamespaces (names : List String) : List String × List String := names.foldl sortNamespace ([], [])

def registerNamespace (peer : PeerId) (refresh : Refresh PeerId Addr Cookie) (name : String) :
    Refresh PeerId Addr Cookie :=
  if setup.register && !refresh.state.isRegistered peer name && !refresh.state.isRegisterInflight peer name then
    let counted := { refresh.state with registerAttempts := saturatingAdd refresh.state.registerAttempts 1 }
    let requests := refresh.requests ++ [.register peer name setup.discovery.rendezvous.registerTtlSecs]
    match answers refresh.requests peer name with
    | .ok () =>
      { state := counted.markRegisterInflight peer name
        plan := { refresh.plan with registerAttempts := saturatingAdd refresh.plan.registerAttempts 1 }
        requests }
    | .error err =>
      { state := { counted with registerFailures := saturatingAdd counted.registerFailures 1 }
        plan := refresh.plan.push
          s!"rendezvous register request failed peer={toText peer} namespace={name}: {err}"
        requests }
  else refresh

def discoverNamespace (peer : PeerId) (refresh : Refresh PeerId Addr Cookie) (name : String) :
    Refresh PeerId Addr Cookie :=
  if setup.discover && peer ∉ refresh.state.discoverInflight &&
      ⟨peer, name⟩ ∉ refresh.state.discoverInflightNamespaces then
    let counted := { refresh.state with discoverAttempts := saturatingAdd refresh.state.discoverAttempts 1 }
    { state := counted.markDiscoverInflight peer name
      plan := { refresh.plan with discoverAttempts := saturatingAdd refresh.plan.discoverAttempts 1 }
      requests := refresh.requests ++ [.discover peer name (counted.discoverCookie peer name) setup.limit] }
  else refresh

def refreshNamespace (peer : PeerId) (refresh : Refresh PeerId Addr Cookie) (name : String) :
    Refresh PeerId Addr Cookie :=
  discoverNamespace setup peer (registerNamespace setup answers peer refresh name) name

def refreshAddr (names : List String) (refresh : Refresh PeerId Addr Cookie) (addr : Addr) :
    Refresh PeerId Addr Cookie :=
  match extractP2pPeerId addr with
  | none =>
    { refresh with plan := refresh.plan.push s!"rendezvous address lacks /p2p/<PeerId>: {Multiaddr.toText addr}" }
  | some peer =>
    let dialed := { refresh with requests := refresh.requests ++ [.addAddress peer addr, .dial addr] }
    if setup.clientBuilt then names.foldl (refreshNamespace setup answers peer) dialed
    else { dialed with plan := dialed.plan.push "rendezvous client behaviour is disabled" }

def refreshRendezvous (state : RendezvousState PeerId Cookie) : Refresh PeerId Addr Cookie :=
  if !setup.discovery.rendezvous.clientEnabled || setup.rendezvousAddrs.isEmpty then ⟨state, .default, []⟩
  else match setup.discovery.rendezvousNamespaces setup.blake3 setup.networkId with
    | .error err => ⟨state, RendezvousActionPlan.default.push err.toText, []⟩
    | .ok names =>
      let (usable, errors) := usableNamespaces names
      let plan := { RendezvousActionPlan.default with errors }
      if usable.isEmpty then ⟨state, plan, []⟩
      else setup.rendezvousAddrs.foldl (refreshAddr setup answers usable) ⟨state, plan, []⟩

end Functions

/-! ### Events of the client -/

/-- `rendezvous::Namespace`. -/
def Namespace : Type := { name : String // name.utf8ByteSize ≤ 255 }

/-- A registration; `addrs` are its addresses as `peer_record_addrs` returns them. -/
structure FoundRegistration (PeerId Addr : Type) where
  peer : PeerId
  addrs : List Addr

inductive RendezvousClientEvent (PeerId Addr Cookie : Type)
  | registered (node : PeerId) (ttl : ℕ) (name : Namespace)
  | registerFailed (node : PeerId) (name : Namespace) (error : String)
  | discovered (node : PeerId) (registrations : List (FoundRegistration PeerId Addr)) (cookie : Cookie)
  | discoverFailed (node : PeerId) (name : Option Namespace) (error : String)
  | expired (peer : PeerId)

/-- What the line that is logged says. -/
inductive RendezvousReport (PeerId : Type)
  | registered (node : PeerId) (name : String) (ttl : ℕ)
  | registerFailed (node : PeerId) (name error : String)
  | discovered (registrations : ℕ) (node : PeerId) (completed : Option String) (learned : ℕ)
  | discoverFailed (node : PeerId) (name : Option String) (error : String)
  | expired (peer : PeerId)
  deriving DecidableEq

/-- How the hash sets are walked while an event is handled. -/
structure Walks (PeerId : Type) where
  inflight : List (RendezvousPeerNamespace PeerId)
  first : Finset PeerId → Option PeerId

/-- An event handled: the state, the addresses that are told to the swarm and to the peer cache, and the report. -/
structure Handled (PeerId Addr Cookie : Type) where
  state : RendezvousState PeerId Cookie
  learned : List (PeerId × Addr)
  report : RendezvousReport PeerId

variable {PeerId Addr Cookie : Type} [PeerIdentity PeerId] [Multiaddr PeerId Addr]

def onRendezvousClientEvent (walks : Walks PeerId) (state : RendezvousState PeerId Cookie) :
    RendezvousClientEvent PeerId Addr Cookie → Handled PeerId Addr Cookie
  | .registered node ttl name => ⟨state.markRegistered node name.1, [], .registered node name.1 ttl⟩
  | .registerFailed node name error =>
    let failed := state.markRegisterFailed node name.1
    ⟨{ failed with registerFailures := saturatingAdd failed.registerFailures 1 }, [],
      .registerFailed node name.1 error⟩
  | .discovered node registrations cookie =>
    let (completed, state) := state.completeDiscoverForPeer walks.inflight node cookie
    let learned := registrations.flatMap fun found => found.addrs.map fun addr => (found.peer, addr)
    ⟨(registrations.map (·.peer)).foldl (fun state peer => state.recordDiscoveredPeer walks.first peer) state, learned,
      .discovered registrations.length node completed learned.length⟩
  | .discoverFailed node name error =>
    let failed := state.failDiscover node (name.map (·.1))
    ⟨{ failed with discoverFailures := saturatingAdd failed.discoverFailures 1 }, [],
      .discoverFailed node (name.map (·.1)) error⟩
  | .expired peer => ⟨{ state with discoveredPeers := state.discoveredPeers.erase peer }, [], .expired peer⟩

/-! ### Which names are used -/

section Names

theorem sortNamespace_short {name : String} (short : name.utf8ByteSize ≤ 255) (sorted : List String × List String) :
    sortNamespace sorted name = (sorted.1 ++ [name], sorted.2) := by
  rw [sortNamespace, rendezvousNamespace, if_neg (Nat.not_lt.mpr short)]

theorem sortNamespace_long {name : String} (long : ¬ name.utf8ByteSize ≤ 255) (sorted : List String × List String) :
    (sortNamespace sorted name).1 = sorted.1 := by
  rw [sortNamespace, rendezvousNamespace, if_pos (Nat.lt_of_not_le long)]

theorem foldl_sortNamespace_fst (names : List String) (sorted : List String × List String) :
    (names.foldl sortNamespace sorted).1 = sorted.1 ++ names.filter (·.utf8ByteSize ≤ 255) := by
  induction names generalizing sorted with
  | nil => simp
  | cons name rest ih =>
    rw [List.foldl_cons, ih]
    by_cases short : name.utf8ByteSize ≤ 255
    · rw [sortNamespace_short short]
      simp [short]
    · rw [sortNamespace_long short]
      simp [short]

/-- The names of at most 255 bytes. -/
theorem usableNamespaces_fst (names : List String) :
    (usableNamespaces names).1 = names.filter (·.utf8ByteSize ≤ 255) := by
  rw [usableNamespaces, foldl_sortNamespace_fst, List.nil_append]

theorem foldl_sortNamespace_short {names : List String} (short : ∀ name ∈ names, name.utf8ByteSize ≤ 255)
    (sorted : List String × List String) : names.foldl sortNamespace sorted = (sorted.1 ++ names, sorted.2) := by
  induction names generalizing sorted with
  | nil => simp
  | cons name rest ih =>
    rw [List.foldl_cons, sortNamespace_short (short name List.mem_cons_self),
      ih fun other member => short other (List.mem_cons_of_mem name member), List.append_assoc]
    rfl

/-- No name is dropped exactly when all of them are short enough. -/
theorem usableNamespaces_eq_iff (names : List String) :
    usableNamespaces names = (names, []) ↔ ∀ name ∈ names, name.utf8ByteSize ≤ 255 := by
  constructor
  · intro all name member
    have kept := usableNamespaces_fst names
    rw [all] at kept
    simpa using List.filter_eq_self.mp kept.symm name member
  · intro short
    rw [usableNamespaces, foldl_sortNamespace_short short, List.nil_append]

end Names

/-! ### Discoveries alone -/

/-- The part of the state that discoveries read and write. -/
structure DiscoverPart (PeerId Cookie : Type) where
  inflight : Finset PeerId
  inflightNamespaces : Finset (RendezvousPeerNamespace PeerId)
  cookies : Table PeerId Cookie
  cookiesByNamespace : Table (RendezvousPeerNamespace PeerId) Cookie

/-- A discover request: what is asked, and with which cookie. -/
abbrev Sent (PeerId Cookie : Type) := RendezvousPeerNamespace PeerId × Option Cookie

def discoverPart (state : RendezvousState PeerId Cookie) : DiscoverPart PeerId Cookie :=
  ⟨state.discoverInflight, state.discoverInflightNamespaces, state.cookies, state.cookiesByNamespace⟩

namespace DiscoverPart

variable (part : DiscoverPart PeerId Cookie)

def cookie (key : RendezvousPeerNamespace PeerId) : Option Cookie :=
  (part.cookiesByNamespace.lookup key).or (part.cookies.lookup key.peer)

def send (key : RendezvousPeerNamespace PeerId) : DiscoverPart PeerId Cookie :=
  { part with
    inflight := insert key.peer part.inflight
    inflightNamespaces := insert key part.inflightNamespaces }

/-- The namespaces of a peer, discoveries only: the first one that is not in flight, if the peer is not. -/
def discoverPeer (names : List String) (peer : PeerId) : List (Sent PeerId Cookie) × DiscoverPart PeerId Cookie :=
  if peer ∈ part.inflight then ([], part)
  else match names.find? fun name => ⟨peer, name⟩ ∉ part.inflightNamespaces with
    | some name => ([(⟨peer, name⟩, part.cookie ⟨peer, name⟩)], part.send ⟨peer, name⟩)
    | none => ([], part)

theorem discoverPeer_busy {peer : PeerId} (busy : peer ∈ part.inflight) (names : List String) :
    part.discoverPeer names peer = ([], part) := if_pos busy

theorem discoverPeer_nil (peer : PeerId) : part.discoverPeer [] peer = ([], part) := by
  unfold discoverPeer
  split_ifs
  · rfl
  · rfl

theorem discoverPeer_skip {peer : PeerId} (idle : peer ∉ part.inflight) {name : String}
    (present : ⟨peer, name⟩ ∈ part.inflightNamespaces) (rest : List String) :
    part.discoverPeer (name :: rest) peer = part.discoverPeer rest peer := by
  unfold discoverPeer
  rw [if_neg idle, if_neg idle, List.find?_cons_of_neg (by simpa using present)]

theorem discoverPeer_send {peer : PeerId} (idle : peer ∉ part.inflight) {name : String}
    (absent : ⟨peer, name⟩ ∉ part.inflightNamespaces) (rest : List String) :
    part.discoverPeer (name :: rest) peer =
      ([(⟨peer, name⟩, part.cookie ⟨peer, name⟩)], part.send ⟨peer, name⟩) := by
  unfold discoverPeer
  rw [if_neg idle, List.find?_cons_of_pos (by simpa using absent)]

end DiscoverPart

def RendezvousRequest.asDiscover : RendezvousRequest PeerId Addr Cookie → Option (Sent PeerId Cookie)
  | .discover peer name cookie _ => some (⟨peer, name⟩, cookie)
  | _ => none

def discovers (requests : List (RendezvousRequest PeerId Addr Cookie)) : List (Sent PeerId Cookie) :=
  requests.filterMap RendezvousRequest.asDiscover

section Discoveries

variable {setup : RendezvousSetup Addr} (answers : RegisterAnswers PeerId Addr Cookie)

/-- A registration does not touch discoveries. -/
theorem registerNamespace_discover (peer : PeerId) (refresh : Refresh PeerId Addr Cookie) (name : String) :
    discoverPart (registerNamespace setup answers peer refresh name).state = discoverPart refresh.state ∧
      discovers (registerNamespace setup answers peer refresh name).requests = discovers refresh.requests := by
  unfold registerNamespace
  split_ifs
  · cases answers refresh.requests peer name with
    | ok => exact ⟨rfl, by simp [discovers, RendezvousRequest.asDiscover]⟩
    | error => exact ⟨rfl, by simp [discovers, RendezvousRequest.asDiscover]⟩
  · exact ⟨rfl, rfl⟩

theorem discoverNamespace_sent {peer : PeerId} {refresh : Refresh PeerId Addr Cookie} {name : String}
    (wanted : setup.discover = true) (idle : peer ∉ refresh.state.discoverInflight)
    (absent : ⟨peer, name⟩ ∉ refresh.state.discoverInflightNamespaces) :
    discoverPart (discoverNamespace setup peer refresh name).state = (discoverPart refresh.state).send ⟨peer, name⟩ ∧
      discovers (discoverNamespace setup peer refresh name).requests =
        discovers refresh.requests ++ [(⟨peer, name⟩, (discoverPart refresh.state).cookie ⟨peer, name⟩)] := by
  unfold discoverNamespace
  rw [if_pos (by simp [wanted, idle, absent])]
  refine ⟨rfl, ?_⟩
  rw [discovers, List.filterMap_append]
  rfl

theorem discoverNamespace_skipped {peer : PeerId} {refresh : Refresh PeerId Addr Cookie} {name : String}
    (skipped : setup.discover = false ∨ peer ∈ refresh.state.discoverInflight ∨
      ⟨peer, name⟩ ∈ refresh.state.discoverInflightNamespaces) :
    discoverNamespace setup peer refresh name = refresh := by
  unfold discoverNamespace
  refine if_neg fun all => ?_
  simp only [Bool.and_eq_true, decide_eq_true_eq] at all
  rcases skipped with unwanted | busy | present
  · rw [all.1.1] at unwanted
    cases unwanted
  · exact all.1.2 busy
  · exact all.2 present

/-- Nothing is discovered where discoveries are off. -/
theorem foldl_refreshNamespace_off (off : setup.discover = false) (peer : PeerId) (names : List String)
    (refresh : Refresh PeerId Addr Cookie) :
    discoverPart (names.foldl (refreshNamespace setup answers peer) refresh).state = discoverPart refresh.state ∧
      discovers (names.foldl (refreshNamespace setup answers peer) refresh).requests =
        discovers refresh.requests := by
  induction names generalizing refresh with
  | nil => exact ⟨rfl, rfl⟩
  | cons name rest ih =>
    obtain ⟨part, sent⟩ := ih (refreshNamespace setup answers peer refresh name)
    rw [List.foldl_cons, part, sent, refreshNamespace, discoverNamespace_skipped (.inl off)]
    exact registerNamespace_discover answers peer refresh name

/-- **The namespaces of one peer**: at most one of them is discovered. -/
theorem foldl_refreshNamespace_discover (wanted : setup.discover = true) (peer : PeerId) (names : List String)
    (refresh : Refresh PeerId Addr Cookie) :
    discoverPart (names.foldl (refreshNamespace setup answers peer) refresh).state =
        ((discoverPart refresh.state).discoverPeer names peer).2 ∧
      discovers (names.foldl (refreshNamespace setup answers peer) refresh).requests =
        discovers refresh.requests ++ ((discoverPart refresh.state).discoverPeer names peer).1 := by
  induction names generalizing refresh with
  | nil =>
    rw [DiscoverPart.discoverPeer_nil, List.append_nil]
    exact ⟨rfl, rfl⟩
  | cons name rest ih =>
    have kept : discoverPart (registerNamespace setup answers peer refresh name).state = discoverPart refresh.state :=
      (registerNamespace_discover answers peer refresh name).1
    have before : discovers (registerNamespace setup answers peer refresh name).requests =
        discovers refresh.requests := (registerNamespace_discover answers peer refresh name).2
    rw [List.foldl_cons, (ih _).1, (ih _).2, refreshNamespace]
    by_cases busy : peer ∈ (discoverPart refresh.state).inflight
    · rw [discoverNamespace_skipped (.inr (.inl (kept ▸ busy :))), kept, before,
        DiscoverPart.discoverPeer_busy _ busy, DiscoverPart.discoverPeer_busy _ busy]
      exact ⟨rfl, rfl⟩
    by_cases present : ⟨peer, name⟩ ∈ (discoverPart refresh.state).inflightNamespaces
    · rw [discoverNamespace_skipped (.inr (.inr (kept ▸ present :))), kept, before,
        DiscoverPart.discoverPeer_skip _ busy present]
      exact ⟨rfl, rfl⟩
    · obtain ⟨part, sent⟩ := discoverNamespace_sent wanted (kept ▸ busy :) (kept ▸ present :)
      rw [part, sent, kept, before, DiscoverPart.discoverPeer_send _ busy present,
        DiscoverPart.discoverPeer_busy _ (Finset.mem_insert_self _ _), List.append_nil]
      exact ⟨rfl, rfl⟩

/-- The names that a refresh uses. -/
def RendezvousSetup.usable (setup : RendezvousSetup Addr) : List String :=
  match setup.discovery.rendezvousNamespaces setup.blake3 setup.networkId with
  | .ok names => (usableNamespaces names).1
  | .error _ => []

/-- Are discoveries enabled? -/
def RendezvousSetup.discovering (setup : RendezvousSetup Addr) : Bool :=
  setup.discovery.rendezvous.clientEnabled && setup.clientBuilt && setup.discover

/-- An address, discoveries only. -/
def discoverAddr (setup : RendezvousSetup Addr) (part : DiscoverPart PeerId Cookie) (addr : Addr) :
    List (Sent PeerId Cookie) × DiscoverPart PeerId Cookie :=
  match extractP2pPeerId addr with
  | some peer => if setup.discovering then part.discoverPeer setup.usable peer else ([], part)
  | none => ([], part)

theorem refreshAddr_discover (enabled : setup.discovery.rendezvous.clientEnabled = true)
    (refresh : Refresh PeerId Addr Cookie) (addr : Addr) :
    discoverPart (refreshAddr setup answers setup.usable refresh addr).state =
        (discoverAddr setup (discoverPart refresh.state) addr).2 ∧
      discovers (refreshAddr setup answers setup.usable refresh addr).requests =
        discovers refresh.requests ++ (discoverAddr setup (discoverPart refresh.state) addr).1 := by
  unfold refreshAddr discoverAddr RendezvousSetup.discovering
  cases extractP2pPeerId addr with
  | none => exact ⟨rfl, (List.append_nil _).symm⟩
  | some peer =>
    have dialed : discovers (refresh.requests ++ [.addAddress peer addr, .dial addr]) = discovers refresh.requests := by
      simp [discovers, RendezvousRequest.asDiscover]
    rw [enabled, Bool.true_and]
    cases setup.clientBuilt with
    | false => exact ⟨rfl, dialed.trans (List.append_nil _).symm⟩
    | true =>
      cases wanted : setup.discover with
      | false =>
        obtain ⟨part, sent⟩ := foldl_refreshNamespace_off answers wanted peer setup.usable
          { refresh with requests := refresh.requests ++ [.addAddress peer addr, .dial addr] }
        exact ⟨part, sent.trans (dialed.trans (List.append_nil _).symm)⟩
      | true =>
        obtain ⟨part, sent⟩ := foldl_refreshNamespace_discover answers wanted peer setup.usable
          { refresh with requests := refresh.requests ++ [.addAddress peer addr, .dial addr] }
        rw [dialed] at sent
        exact ⟨part, sent⟩

theorem foldl_refreshAddr_discover (enabled : setup.discovery.rendezvous.clientEnabled = true) (addrs : List Addr)
    (refresh : Refresh PeerId Addr Cookie) :
    discoverPart (addrs.foldl (refreshAddr setup answers setup.usable) refresh).state =
        final (discoverAddr setup) (discoverPart refresh.state) addrs ∧
      discovers (addrs.foldl (refreshAddr setup answers setup.usable) refresh).requests =
        discovers refresh.requests ++ (outputs (discoverAddr setup) (discoverPart refresh.state) addrs).flatten := by
  induction addrs generalizing refresh with
  | nil => exact ⟨rfl, (List.append_nil _).symm⟩
  | cons addr rest ih =>
    obtain ⟨part, sent⟩ := refreshAddr_discover answers enabled refresh addr
    rw [List.foldl_cons, (ih _).1, (ih _).2, part, sent, final_cons, outputs, List.flatten_cons, List.append_assoc]
    exact ⟨rfl, rfl⟩

/-- Where no discovery is possible, the walk over the addresses does nothing. -/
theorem final_discoverAddr_idle (idle : setup.discovering = false ∨ setup.usable = [])
    (part : DiscoverPart PeerId Cookie) (addrs : List Addr) :
    final (discoverAddr setup) part addrs = part ∧ (outputs (discoverAddr setup) part addrs).flatten = [] := by
  have still : ∀ addr : Addr, discoverAddr setup part addr = ([], part) := by
    intro addr
    unfold discoverAddr
    cases extractP2pPeerId addr with
    | none => rfl
    | some peer =>
      rcases idle with off | none
      · rw [off]
        rfl
      · simp only [none, DiscoverPart.discoverPeer_nil, ite_self]
  induction addrs with
  | nil => exact ⟨rfl, rfl⟩
  | cons addr rest ih =>
    rw [final_cons, outputs, still, List.flatten_cons]
    exact ih

/-- **A refresh, discoveries only.** -/
theorem refreshRendezvous_discover (state : RendezvousState PeerId Cookie) :
    discoverPart (refreshRendezvous setup answers state).state =
        final (discoverAddr setup) (discoverPart state) setup.rendezvousAddrs ∧
      discovers (refreshRendezvous setup answers state).requests =
        (outputs (discoverAddr setup) (discoverPart state) setup.rendezvousAddrs).flatten := by
  unfold refreshRendezvous
  by_cases early : (!setup.discovery.rendezvous.clientEnabled || setup.rendezvousAddrs.isEmpty) = true
  · rw [if_pos early]
    rcases Bool.or_eq_true _ _ ▸ early with off | none
    · have idle : setup.discovering = false := by
        unfold RendezvousSetup.discovering
        simp only [Bool.not_eq_true'] at off
        rw [off]
        rfl
      obtain ⟨part, sent⟩ := final_discoverAddr_idle (.inl idle) (discoverPart state) setup.rendezvousAddrs
      exact ⟨part.symm, sent.symm⟩
    · rw [List.isEmpty_iff.mp none]
      exact ⟨rfl, rfl⟩
  · rw [if_neg early]
    have enabled : setup.discovery.rendezvous.clientEnabled = true := by
      simp only [Bool.or_eq_true, Bool.not_eq_true', not_or, Bool.not_eq_false] at early
      exact early.1
    cases derived : setup.discovery.rendezvousNamespaces setup.blake3 setup.networkId with
    | error reason =>
      have none : setup.usable = [] := by
        unfold RendezvousSetup.usable
        rw [derived]
      obtain ⟨part, sent⟩ := final_discoverAddr_idle (.inr none) (discoverPart state) setup.rendezvousAddrs
      exact ⟨part.symm, sent.symm⟩
    | ok names =>
      have usable : setup.usable = (usableNamespaces names).1 := by
        unfold RendezvousSetup.usable
        rw [derived]
      by_cases none : (usableNamespaces names).1.isEmpty = true
      · obtain ⟨part, sent⟩ := final_discoverAddr_idle (.inr (usable.trans (List.isEmpty_iff.mp none)))
          (discoverPart state) setup.rendezvousAddrs
        simp only [none, if_true]
        exact ⟨part.symm, sent.symm⟩
      · simp only [none]
        rw [← usable]
        exact foldl_refreshAddr_discover answers enabled setup.rendezvousAddrs _

end Discoveries

end P2pNet.Stack
