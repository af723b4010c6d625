/-
**Relays to try at startup** (`crates/connectivity/relay_discovery.rs`).

The addresses of relays come from the configuration, the peer cache, rendezvous and the public fallback.
`selectStartupRelays` goes through them in the order of the policy and keeps one address of every relay, up to a
limit. A policy that is disabled takes the configured addresses by a way of its own.

`configured_twice`: a disabled policy takes two addresses of one relay.
-/

import P2pNet.Connectivity.Components
import P2pNet.Connectivity.DiscoveryConfig
import P2pNet.Lib.Firsts

namespace P2pNet.Connectivity

open Lib PeerIdentity

variable {PeerId Addr : Type} [PeerIdentity PeerId] [Multiaddr PeerId Addr]

/-! ### Candidates -/

inductive RelayCandidateSource
  | configured
  | cached
  | rendezvous
  | publicFallback
  deriving DecidableEq

structure RelayCandidateAddr (PeerId Addr : Type) where
  peerId : PeerId
  addr : Addr
  source : RelayCandidateSource
  deriving DecidableEq

section Candidates

variable (components : Components)

def relayCandidateAddr (source : RelayCandidateSource) (addr : Addr) : Option (RelayCandidateAddr PeerId Addr) :=
  if isP2pCircuitAddr addr || !hasReachableTransport components.hostOf (Multiaddr.iter addr) ||
      hasUnspecifiedIp components addr then none
  else (relayPeerId addr).map fun peerId => ⟨peerId, addr, source⟩

def validRelayCandidates (addrs : List Addr) : List (RelayCandidateAddr PeerId Addr) :=
  addrs.filterMap (relayCandidateAddr components .configured)

/-- Lower scores are preferred. -/
def supportedRelayAddrScore (addr : Addr) : Option ℕ :=
  let protocols := Multiaddr.iter addr
  let has (component : Component → Bool) : Bool := protocols.any fun protocol => component (components.of protocol)
  if has (· = .webTransport) then none
  else if protocols.any fun protocol => protocol = .quic ∨ protocol = .quicV1 then some 0
  else if has (· = .webRtcDirect) then some 1
  else if has fun component => match component with
      | .tcp _ => true
      | _ => false then some 2
  else none

/-- **A relay can be reached at the address**: it names its peer, does not lead through another relay and has a
host, and no unspecified one. -/
def isEligible (addr : Addr) : Bool :=
  (relayPeerId addr).isSome && !isP2pCircuitAddr addr && hasReachableTransport components.hostOf (Multiaddr.iter addr) &&
    !hasUnspecifiedIp components addr

theorem isEligible_iff (addr : Addr) : isEligible components addr = true ↔ (relayPeerId addr).isSome = true ∧
    isP2pCircuitAddr addr = false ∧ hasReachableTransport components.hostOf (Multiaddr.iter addr) = true ∧
      hasUnspecifiedIp components addr = false := by
  unfold isEligible
  simp only [Bool.and_eq_true, Bool.not_eq_true', and_assoc]

theorem relayCandidateAddr_eq (source : RelayCandidateSource) (addr : Addr) :
    relayCandidateAddr components source addr =
      if isEligible components addr then (relayPeerId addr).map fun peerId => ⟨peerId, addr, source⟩ else none := by
  unfold relayCandidateAddr isEligible
  cases relayPeerId addr with
  | none => simp
  | some peer =>
    cases isP2pCircuitAddr addr <;> cases hasReachableTransport components.hostOf (Multiaddr.iter addr) <;>
      cases hasUnspecifiedIp components addr <;> rfl

theorem relayCandidateAddr_some {source : RelayCandidateSource} {addr : Addr}
    {candidate : RelayCandidateAddr PeerId Addr} (found : relayCandidateAddr components source addr = some candidate) :
    isEligible components addr = true ∧ relayPeerId addr = some candidate.peerId ∧ candidate.addr = addr := by
  rw [relayCandidateAddr_eq] at found
  split_ifs at found with eligible
  obtain ⟨peer, named, rfl⟩ := Option.map_eq_some_iff.mp found
  exact ⟨eligible, named, rfl⟩

theorem relayCandidateAddr_none {source : RelayCandidateSource} {addr : Addr}
    (found : relayCandidateAddr components source addr = none) : isEligible components addr = false := by
  rw [relayCandidateAddr_eq] at found
  by_contra eligible
  rw [Bool.not_eq_false] at eligible
  rw [if_pos eligible, Option.map_eq_none_iff] at found
  have named := ((isEligible_iff components addr).mp eligible).1
  rw [found] at named
  cases named

/-- The candidates among some addresses are the eligible ones. -/
theorem map_addr_filterMap (source : RelayCandidateSource) (addrs : List Addr) :
    (addrs.filterMap (relayCandidateAddr components source)).map RelayCandidateAddr.addr =
      addrs.filter (isEligible components) := by
  induction addrs with
  | nil => rfl
  | cons addr rest ih =>
    cases found : relayCandidateAddr components source addr with
    | none =>
      have refused := relayCandidateAddr_none components found
      rw [List.filterMap_cons_none found, ih, List.filter_cons_of_neg (by simp [refused])]
    | some candidate =>
      obtain ⟨eligible, _, same⟩ := relayCandidateAddr_some components found
      rw [List.filterMap_cons_some found, List.map_cons, ih, List.filter_cons_of_pos eligible, same]

end Candidates

/-! ### The selection -/

/-- `RelayDiscoveryPolicy` with the switch that only the selection reads. -/
structure RelaySelectionPolicy extends RelayDiscoveryPolicy where
  preferConfiguredRelays : Bool

/-- The addresses to choose from. -/
structure StartupRelays (Addr : Type) where
  configuredRelays : List Addr
  cachedRelays : List Addr
  rendezvousRelays : List Addr
  publicRelays : List Addr

structure RelaySelectionPlan (Addr : Type) where
  enabled : Bool
  selectedAddrs : List Addr
  configuredCandidates : ℕ
  cachedCandidates : ℕ
  rendezvousCandidates : ℕ
  publicCandidates : ℕ
  ignoredCandidates : ℕ
  minReservations : ℕ
  maxReservations : ℕ
  errors : List String

namespace RelaySelectionPlan

def new (policy : RelaySelectionPolicy) : RelaySelectionPlan Addr where
  enabled := policy.enabled
  selectedAddrs := []
  configuredCandidates := 0
  cachedCandidates := 0
  rendezvousCandidates := 0
  publicCandidates := 0
  ignoredCandidates := 0
  minReservations := policy.minReservations
  maxReservations := policy.maxReservations
  errors := []

variable (plan : RelaySelectionPlan Addr)

def ignore (count : ℕ) : RelaySelectionPlan Addr :=
  { plan with ignoredCandidates := saturatingAdd plan.ignoredCandidates count }

def countCandidate : RelayCandidateSource → RelaySelectionPlan Addr
  | .configured => { plan with configuredCandidates := saturatingAdd plan.configuredCandidates 1 }
  | .cached => { plan with cachedCandidates := saturatingAdd plan.cachedCandidates 1 }
  | .rendezvous => { plan with rendezvousCandidates := saturatingAdd plan.rendezvousCandidates 1 }
  | .publicFallback => { plan with publicCandidates := saturatingAdd plan.publicCandidates 1 }

end RelaySelectionPlan

/-- The variables of the loop. -/
structure RelayScan (PeerId Addr : Type) where
  plan : RelaySelectionPlan Addr
  seen : Finset String
  ordered : List (RelayCandidateAddr PeerId Addr)

section Selection

variable (components : Components)

def considerRelay (source : RelayCandidateSource) (scan : RelayScan PeerId Addr) (addr : Addr) :
    RelayScan PeerId Addr :=
  match relayCandidateAddr components source addr with
  | none => { scan with plan := scan.plan.ignore 1 }
  | some candidate =>
    if toText candidate.peerId ∈ scan.seen then { scan with plan := scan.plan.ignore 1 }
    else
      { plan := scan.plan.countCandidate source
        seen := insert (toText candidate.peerId) scan.seen
        ordered := scan.ordered ++ [candidate] }

def considerSource (scan : RelayScan PeerId Addr) : RelayCandidateSource × List Addr × Bool → RelayScan PeerId Addr
  | (source, addrs, enabled) =>
    if enabled then addrs.foldl (considerRelay components source) scan
    else { scan with plan := scan.plan.ignore addrs.length }

def relaySources (policy : RelaySelectionPolicy) (relays : StartupRelays Addr) :
    List (RelayCandidateSource × List Addr × Bool) :=
  if policy.preferConfiguredRelays then
    [(.configured, relays.configuredRelays, policy.useConfiguredRelays),
      (.cached, relays.cachedRelays, policy.useCachedRelays),
      (.rendezvous, relays.rendezvousRelays, policy.useRendezvousRelays),
      (.publicFallback, relays.publicRelays, true)]
  else
    [(.cached, relays.cachedRelays, policy.useCachedRelays),
      (.rendezvous, relays.rendezvousRelays, policy.useRendezvousRelays),
      (.configured, relays.configuredRelays, policy.useConfiguredRelays),
      (.publicFallback, relays.publicRelays, true)]

def selectStartupRelays (policy : RelaySelectionPolicy) (relays : StartupRelays Addr) : RelaySelectionPlan Addr :=
  let plan := RelaySelectionPlan.new policy
  if !policy.enabled then
    let selected := ((validRelayCandidates components relays.configuredRelays).map RelayCandidateAddr.addr).take
      (max policy.maxReservations 1)
    { plan with
      selectedAddrs := selected
      configuredCandidates := selected.length
      ignoredCandidates := saturatingAdd (saturatingAdd relays.cachedRelays.length relays.rendezvousRelays.length)
        relays.publicRelays.length }
  else
    let scan := (relaySources policy relays).foldl (considerSource components) ⟨plan, ∅, []⟩
    let selected := (scan.ordered.map RelayCandidateAddr.addr).take policy.maxReservations
    { scan.plan with
      selectedAddrs := selected
      errors := if selected.length < policy.minReservations then
          [s!"relay discovery selected {selected.length} candidates but min_reservations={policy.minReservations} is requested"]
        else [] }

/-! ### What the loop keeps -/

/-- The candidates that a source offers. -/
def offered : RelayCandidateSource × List Addr × Bool → List (RelayCandidateAddr PeerId Addr)
  | (source, addrs, enabled) => if enabled then addrs.filterMap (relayCandidateAddr components source) else []

def peerText (candidate : RelayCandidateAddr PeerId Addr) : String := toText candidate.peerId

theorem foldl_considerRelay (source : RelayCandidateSource) (addrs : List Addr) (scan : RelayScan PeerId Addr) :
    let after := addrs.foldl (considerRelay components source) scan
    (after.ordered, after.seen) =
      (addrs.filterMap (relayCandidateAddr components source)).foldl (pushNew peerText) (scan.ordered, scan.seen) := by
  induction addrs generalizing scan with
  | nil => rfl
  | cons addr rest ih =>
    rw [List.foldl_cons]
    refine (ih _).trans ?_
    unfold considerRelay
    cases found : relayCandidateAddr components source addr with
    | none => rw [List.filterMap_cons_none found]
    | some candidate =>
      rw [List.filterMap_cons_some found, List.foldl_cons]
      unfold pushNew peerText
      dsimp only
      split_ifs <;> rfl

/-- **The loop is one pass** over what the sources offer. -/
theorem foldl_considerSource (sources : List (RelayCandidateSource × List Addr × Bool))
    (scan : RelayScan PeerId Addr) :
    let after := sources.foldl (considerSource components) scan
    (after.ordered, after.seen) =
      (sources.flatMap (offered components)).foldl (pushNew peerText) (scan.ordered, scan.seen) := by
  induction sources generalizing scan with
  | nil => rfl
  | cons source rest ih =>
    obtain ⟨origin, addrs, enabled⟩ := source
    rw [List.foldl_cons, List.flatMap_cons, List.foldl_append]
    refine (ih _).trans ?_
    congr 1
    cases enabled with
    | true => exact foldl_considerRelay components origin addrs scan
    | false => rfl

/-! ### The selected addresses -/

/-- **The addresses that a policy considers**, in its order. -/
def sourceOrder (policy : RelaySelectionPolicy) (relays : StartupRelays Addr) : List Addr :=
  let gated (allowed : Bool) (addrs : List Addr) : List Addr := if allowed then addrs else []
  let configured := gated policy.useConfiguredRelays relays.configuredRelays
  let learned := gated policy.useCachedRelays relays.cachedRelays ++
    gated policy.useRendezvousRelays relays.rendezvousRelays
  if !policy.enabled then relays.configuredRelays
  else if policy.preferConfiguredRelays then configured ++ learned ++ relays.publicRelays
  else learned ++ configured ++ relays.publicRelays

theorem map_addr_offered (source : RelayCandidateSource × List Addr × Bool) :
    (offered components source).map RelayCandidateAddr.addr =
      (if source.2.2 then source.2.1 else []).filter (isEligible components) := by
  obtain ⟨origin, addrs, enabled⟩ := source
  cases enabled with
  | true => exact map_addr_filterMap components origin addrs
  | false => rfl

theorem map_addr_offered_sources {policy : RelaySelectionPolicy} (enabled : policy.enabled = true)
    (relays : StartupRelays Addr) :
    ((relaySources policy relays).flatMap (offered components)).map RelayCandidateAddr.addr =
      (sourceOrder policy relays).filter (isEligible components) := by
  rw [List.map_flatMap]
  simp only [map_addr_offered]
  unfold sourceOrder relaySources
  rw [enabled]
  cases policy.preferConfiguredRelays <;>
    simp [List.flatMap_cons, List.filter_append, List.append_assoc]

theorem relayPeerId_of_mem_offered {sources : List (RelayCandidateSource × List Addr × Bool)}
    {candidate : RelayCandidateAddr PeerId Addr} (member : candidate ∈ sources.flatMap (offered components)) :
    relayPeerId candidate.addr = some candidate.peerId := by
  obtain ⟨⟨origin, addrs, enabled⟩, _, inside⟩ := List.mem_flatMap.mp member
  cases enabled with
  | true =>
    obtain ⟨addr, _, found⟩ := List.mem_filterMap.mp inside
    obtain ⟨_, named, same⟩ := relayCandidateAddr_some components found
    rw [same, named]
  | false => cases inside

/-- **One address of every relay**, in the order of the policy. -/
theorem selectedAddrs_enabled (lawful : PeerIdentity.Lawful PeerId) {policy : RelaySelectionPolicy}
    (enabled : policy.enabled = true) (relays : StartupRelays Addr) :
    (selectStartupRelays components policy relays).selectedAddrs =
      (firstsBy relayPeerId ((sourceOrder policy relays).filter (isEligible components))).take
        policy.maxReservations := by
  unfold selectStartupRelays
  simp only [enabled, Bool.not_true, Bool.false_eq_true, if_false]
  have pass := congrArg Prod.fst (foldl_considerSource components (relaySources policy relays)
    ⟨RelaySelectionPlan.new policy, ∅, []⟩)
  rw [foldl_pushNew] at pass
  have ordered := pass.trans (List.nil_append _)
  simp only [Finset.notMem_empty, not_false_eq_true, decide_true, List.filter_true] at ordered
  have keys : firstsBy peerText ((relaySources policy relays).flatMap (offered components)) =
      firstsBy (relayPeerId ∘ RelayCandidateAddr.addr) ((relaySources policy relays).flatMap (offered components)) := by
    refine firstsBy_congr peerText fun first here second there => ?_
    show toText first.peerId = toText second.peerId ↔ relayPeerId first.addr = relayPeerId second.addr
    rw [relayPeerId_of_mem_offered components here, relayPeerId_of_mem_offered components there, Option.some_inj]
    exact ⟨fun same => lawful.toText_injective same, congrArg toText⟩
  rw [ordered, keys, ← firstsBy_map, map_addr_offered_sources components enabled]

theorem selectedAddrs_disabled {policy : RelaySelectionPolicy} (disabled : policy.enabled = false)
    (relays : StartupRelays Addr) : (selectStartupRelays components policy relays).selectedAddrs =
      ((sourceOrder policy relays).filter (isEligible components)).take (max policy.maxReservations 1) := by
  unfold selectStartupRelays validRelayCandidates sourceOrder
  simp only [disabled, Bool.not_false, if_true]
  rw [map_addr_filterMap]

/-! ### The specification -/

/-- **What a selection should be.** -/
structure SelectionMeets (policy : RelaySelectionPolicy) (relays : StartupRelays Addr) (selected : List Addr) :
    Prop where
  distinct : (selected.map relayPeerId).Nodup
  within : selected.length ≤ policy.maxReservations
  eligible : ∀ addr ∈ selected, (relayPeerId addr).isSome = true ∧ isP2pCircuitAddr addr = false ∧
    hasUnspecifiedIp components addr = false
  ordered : selected.Sublist (sourceOrder policy relays)
  /-- A relay is left out only when earlier addresses fill the selection. -/
  complete : ∀ before addr after, sourceOrder policy relays = before ++ addr :: after →
    isEligible components addr = true → (∃ chosen ∈ selected, relayPeerId chosen = relayPeerId addr) ∨
      selected.length = policy.maxReservations ∧ selected.Sublist before

theorem eligible_of_mem {addrs : List Addr} {addr : Addr} (member : addr ∈ addrs.filter (isEligible components)) :
    (relayPeerId addr).isSome = true ∧ isP2pCircuitAddr addr = false ∧ hasUnspecifiedIp components addr = false := by
  obtain ⟨named, direct, _, specified⟩ := (isEligible_iff components addr).mp (List.mem_filter.mp member).2
  exact ⟨named, direct, specified⟩

theorem filter_split {before after addrs : List Addr} {addr : Addr} (split : addrs = before ++ addr :: after)
    (eligible : isEligible components addr = true) : addrs.filter (isEligible components) =
      before.filter (isEligible components) ++ addr :: after.filter (isEligible components) := by
  rw [split, List.filter_append, List.filter_cons_of_pos eligible]

theorem selectionMeets_enabled (lawful : PeerIdentity.Lawful PeerId) {policy : RelaySelectionPolicy}
    (enabled : policy.enabled = true) (relays : StartupRelays Addr) :
    SelectionMeets components policy relays (selectStartupRelays components policy relays).selectedAddrs := by
  rw [selectedAddrs_enabled components lawful enabled]
  have inside := firstsBy_sublist relayPeerId ((sourceOrder policy relays).filter (isEligible components))
  constructor
  · exact (nodup_map_firstsBy relayPeerId _).sublist ((List.take_sublist _ _).map _)
  · exact List.length_take_le _ _
  · exact fun addr member => eligible_of_mem components (inside.subset (List.mem_of_mem_take member))
  · exact (List.take_sublist _ _).trans (inside.trans List.filter_sublist)
  · intro before addr after split eligible
    rw [filter_split components split eligible]
    refine (take_firstsBy_covers relayPeerId policy.maxReservations _ addr _).imp_right fun full => ?_
    exact ⟨full.1, full.2.trans List.filter_sublist⟩

theorem sourceOrder_disabled {policy : RelaySelectionPolicy} (disabled : policy.enabled = false)
    (relays : StartupRelays Addr) : sourceOrder policy relays = relays.configuredRelays := by
  unfold sourceOrder
  rw [disabled]
  rfl

/-- A bounded list of the eligible addresses leaves one out only when earlier ones fill it. -/
theorem take_filter_covers (limit : ℕ) {before after addrs : List Addr} {addr : Addr}
    (split : addrs = before ++ addr :: after) (eligible : isEligible components addr = true) :
    let selected := (addrs.filter (isEligible components)).take limit
    addr ∈ selected ∨ selected.length = limit ∧ selected.Sublist before := by
  intro selected
  have taken : selected = (before.filter (isEligible components)).take limit ++
      (addr :: after.filter (isEligible components)).take (limit - (before.filter (isEligible components)).length) := by
    rw [← List.take_append, ← filter_split components split eligible]
  by_cases full : limit ≤ (before.filter (isEligible components)).length
  · right
    rw [Nat.sub_eq_zero_of_le full, List.take_zero, List.append_nil] at taken
    rw [taken]
    exact ⟨List.length_take_of_le full, (List.take_sublist _ _).trans List.filter_sublist⟩
  · left
    obtain ⟨room, place⟩ : ∃ room, limit - (before.filter (isEligible components)).length = room + 1 :=
      ⟨limit - (before.filter (isEligible components)).length - 1, by omega⟩
    rw [taken, place, List.take_succ_cons]
    exact List.mem_append_right _ List.mem_cons_self

theorem selectionMeets_disabled_iff {policy : RelaySelectionPolicy} (disabled : policy.enabled = false)
    (relays : StartupRelays Addr) :
    SelectionMeets components policy relays (selectStartupRelays components policy relays).selectedAddrs ↔
      (((relays.configuredRelays.filter (isEligible components)).take policy.maxReservations).map relayPeerId).Nodup ∧
        (policy.maxReservations = 0 → ∀ addr ∈ relays.configuredRelays, isEligible components addr = false) := by
  rw [selectedAddrs_disabled components disabled, sourceOrder_disabled disabled]
  constructor
  · intro meets
    refine ⟨?_, fun none addr member => ?_⟩
    · refine meets.distinct.sublist (List.Sublist.map _ ?_)
      exact List.take_sublist_take_left (le_max_left _ _)
    · -- with a limit of zero the first eligible address would be taken all the same
      have empty := meets.within
      rw [none, Nat.le_zero, List.length_eq_zero_iff, List.take_eq_nil_iff] at empty
      have nothing := empty.resolve_left (by omega)
      exact Bool.eq_false_of_not_eq_true (List.filter_eq_nil_iff.mp nothing addr member)
  · rintro ⟨distinct, none⟩
    have limit : (relays.configuredRelays.filter (isEligible components)).take (max policy.maxReservations 1) =
        (relays.configuredRelays.filter (isEligible components)).take policy.maxReservations := by
      by_cases zero : policy.maxReservations = 0
      · have nothing : relays.configuredRelays.filter (isEligible components) = [] := by
          rw [List.filter_eq_nil_iff]
          intro addr member
          simp [none zero addr member]
        rw [nothing, List.take_nil, List.take_nil]
      · rw [max_eq_left (Nat.one_le_iff_ne_zero.mpr zero)]
    rw [limit]
    refine ⟨distinct, List.length_take_le _ _, ?_, ?_, ?_⟩
    · exact fun addr member => eligible_of_mem components (List.mem_of_mem_take member)
    · rw [sourceOrder_disabled disabled]
      exact (List.take_sublist _ _).trans List.filter_sublist
    · intro before addr after split eligible
      rw [sourceOrder_disabled disabled] at split
      exact (take_filter_covers components policy.maxReservations split eligible).imp_left fun member =>
        ⟨addr, member, rfl⟩

/-- **Startup selection**, of every policy: the ones that validation accepts included. -/
theorem startup_selection_iff (lawful : PeerIdentity.Lawful PeerId) (policy : RelaySelectionPolicy)
    (relays : StartupRelays Addr) :
    SelectionMeets components policy relays (selectStartupRelays components policy relays).selectedAddrs ↔
      policy.enabled = true ∨
        (((relays.configuredRelays.filter (isEligible components)).take policy.maxReservations).map
          relayPeerId).Nodup ∧
        (policy.maxReservations = 0 → ∀ addr ∈ relays.configuredRelays, isEligible components addr = false) := by
  cases enabled : policy.enabled with
  | true => exact iff_of_true (selectionMeets_enabled components lawful enabled relays) (.inl rfl)
  | false =>
    rw [selectionMeets_disabled_iff components enabled relays]
    exact ⟨.inr, fun either => either.resolve_left Bool.false_ne_true⟩

end Selection

/-! ### Two addresses of one relay -/

namespace OneRelayTwice

def relays : StartupRelays SeedPath where
  configuredRelays := [.tcp "/ip4/8.8.8.8" [.p2p .qcu2], .tcp "/ip4/192.168.0.5" [.p2p .qcu2]]
  cachedRelays := []
  rendezvousRelays := []
  publicRelays := []

/-- `RelayDiscoveryPolicy::default`. -/
def policy : RelaySelectionPolicy where
  enabled := true
  useConfiguredRelays := true
  useCachedRelays := true
  useRendezvousRelays := true
  useDhtRelays := true
  minReservations := 3
  maxReservations := 8
  preferConfiguredRelays := true

def disabled : RelaySelectionPolicy := { policy with enabled := false }

theorem startup_selection_default : SelectionMeets SeedPath.components policy relays
    (selectStartupRelays SeedPath.components policy relays).selectedAddrs :=
  (startup_selection_iff SeedPath.components Seed.lawful policy relays).mpr (.inl rfl)

/-- Without discovery both addresses are selected. -/
theorem configured_twice : disabled.validate = .ok () ∧
    (selectStartupRelays SeedPath.components disabled relays).selectedAddrs = relays.configuredRelays ∧
    ¬SelectionMeets SeedPath.components disabled relays
      (selectStartupRelays SeedPath.components disabled relays).selectedAddrs := by
  have selected : (selectStartupRelays SeedPath.components disabled relays).selectedAddrs = relays.configuredRelays := by
    decide
  refine ⟨rfl, selected, fun meets => ?_⟩
  have distinct := meets.distinct
  rw [selected] at distinct
  exact absurd distinct (by decide)

/-- A limit of zero, which validation allows as well, takes one address. -/
example : (selectStartupRelays SeedPath.components { disabled with maxReservations := 0 } relays).selectedAddrs =
    [.tcp "/ip4/8.8.8.8" [.p2p .qcu2]] := by
  decide

end OneRelayTwice

end P2pNet.Connectivity
