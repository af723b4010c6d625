/-
**What a plan contains, and in which order.**

The specification of `build_connection_plan_with_capabilities`, in three steps over lists: the addresses that
are listed for the request (`listedAddrs`), of these the first one of every text that the transports allow
(`plannedAddrs`), and of these the groups by kind, one after another (`groupOrder`).

`connection_plan_spec`: the attempts of a plan are these groups, so that no candidate is lost, added or
tried twice.
-/

import P2pNet.Lib.Firsts
import P2pNet.Connectivity.ConnectionStrategy

set_option linter.unusedSectionVars false

namespace P2pNet.Connectivity

open Lib PeerIdentity

variable {PeerId Addr : Type} [PeerIdentity PeerId] [DecidableEq Addr] [Multiaddr PeerId Addr]

/-! ### The specification -/

/-- The addresses of a record that parse, in the order of the book. -/
def bookAddrs (Addr : Type) [Multiaddr PeerId Addr] (record : Option (PeerRecord PeerId)) : List Addr :=
  ((record.map fun found => inOrder found.addresses).getD []).filterMap fun text =>
    (Multiaddr.parse text : Except String Addr).toOption

/-- The record of the peer that the request names. -/
def targetRecord (requested : Addr) (peerBook : PeerBook PeerId) : Option (PeerRecord PeerId) :=
  (extractP2pPeerId requested).bind peerBook.record

def listedAddrs (requested : Addr) (peerBook : PeerBook PeerId) : List Addr :=
  requested :: bookAddrs Addr (targetRecord requested peerBook)

def plannedAddrs (requested : Addr) (peerBook : PeerBook PeerId) (capabilities : TransportCapabilities) :
    List Addr :=
  (firstsBy Multiaddr.toText (listedAddrs requested peerBook)).filter capabilities.allows

def groupOrder (relayPreferred : Bool) : List ConnectionAttemptKind :=
  if relayPreferred then [.relay, .directQuic, .direct] else [.directQuic, .direct, .relay]

/-- The attempts of one kind, in the order of the addresses. -/
def group (addrs : List Addr) (kind : ConnectionAttemptKind) : List (ConnectionAttempt Addr) :=
  (addrs.filter fun addr => classifyAddr addr = kind).map fun addr => ⟨addr, kind⟩

/-! ### The candidates -/

theorem foldl_pushText (texts : List String) (candidates : Candidates Addr) :
    texts.foldl pushText candidates
      = (texts.filterMap fun text => (Multiaddr.parse text : Except String Addr).toOption).foldl pushCandidate
        candidates := by
  induction texts generalizing candidates with
  | nil => rfl
  | cons text rest ih =>
    rw [List.foldl_cons, ih]
    unfold pushText
    cases read : (Multiaddr.parse text : Except String Addr) with
    | ok addr =>
      rw [List.filterMap_cons_some (b := addr) (by rw [read]; rfl)]
      rfl
    | error reason => rw [List.filterMap_cons_none (by rw [read]; rfl)]

theorem pushRecord_eq (candidates : Candidates Addr) (record : Option (PeerRecord PeerId)) :
    pushRecord candidates record = (bookAddrs Addr record).foldl pushCandidate candidates := by
  cases record with
  | none => rfl
  | some record => exact foldl_pushText _ candidates

/-- **The candidates of a request** are the first addresses of every text that is listed. -/
theorem candidates_eq (requested : Addr) (peerBook : PeerBook PeerId) :
    (pushRecord (pushCandidate ([], ∅) requested) (targetRecord requested peerBook)).1
      = firstsBy Multiaddr.toText (listedAddrs requested peerBook) := by
  have pass := foldl_pushNew (Multiaddr.toText : Addr → String) ([], ∅) (listedAddrs requested peerBook)
  simp only [List.nil_append, Finset.notMem_empty, not_false_eq_true, decide_true, List.filter_true] at pass
  rw [← pass, pushRecord_eq]
  rfl

/-! ### The groups -/

theorem filter_kind_eq_group (addrs : List Addr) (kind : ConnectionAttemptKind) :
    (addrs.map fun addr => (⟨addr, classifyAddr addr⟩ : ConnectionAttempt Addr)).filter (·.kind == kind)
      = group addrs kind := by
  unfold group
  rw [List.filter_map]
  have same : addrs.filter ((fun attempt : ConnectionAttempt Addr => attempt.kind == kind) ∘ fun addr =>
      ⟨addr, classifyAddr addr⟩) = addrs.filter fun addr => classifyAddr addr = kind := by
    refine List.filter_congr fun addr _ => ?_
    rw [Bool.eq_iff_iff]
    simp
  rw [same]
  refine List.map_congr_left fun addr member => ?_
  have classified : classifyAddr addr = kind := by simpa using (List.mem_filter.mp member).2
  rw [classified]

theorem orderedAttempts_eq (addrs : List Addr) (relayPreferred : Bool) :
    orderedAttempts addrs relayPreferred = (groupOrder relayPreferred).flatMap (group addrs) := by
  unfold orderedAttempts groupOrder
  simp only [filter_kind_eq_group]
  cases relayPreferred with
  | true => simp
  | false => simp

/-- The groups are a rearrangement of the addresses. -/
theorem groups_perm (addrs : List Addr) (relayPreferred : Bool) :
    (((groupOrder relayPreferred).flatMap (group addrs)).map ConnectionAttempt.addr).Perm addrs := by
  have unpacked : ∀ kind, (group addrs kind).map ConnectionAttempt.addr
      = addrs.filter fun addr => classifyAddr addr = kind := by
    intro kind
    unfold group
    rw [List.map_map]
    exact List.map_id _
  have counted : ∀ addr kind, (addrs.filter fun other => classifyAddr other = kind).count addr
      = if classifyAddr addr = kind then addrs.count addr else 0 := by
    intro addr kind
    split_ifs with same
    · exact List.count_filter (by simpa using same)
    · refine List.count_eq_zero.mpr fun inside => ?_
      exact same (by simpa using (List.mem_filter.mp inside).2)
  rw [List.perm_iff_count]
  intro addr
  rw [List.map_flatMap, List.flatMap_congr fun kind _ => unpacked kind, List.count_flatMap]
  unfold groupOrder
  cases relayPreferred with
  | true => cases kind : classifyAddr addr <;> simp [counted, kind]
  | false => cases kind : classifyAddr addr <;> simp [counted, kind]

/-! ### Plans -/

theorem mem_plannedAddrs_iff {requested : Addr} {peerBook : PeerBook PeerId}
    {capabilities : TransportCapabilities} {addr : Addr} :
    addr ∈ plannedAddrs requested peerBook capabilities ↔ capabilities.allows addr = true ∧
      ∃ before after, listedAddrs requested peerBook = before ++ addr :: after ∧
        Multiaddr.toText addr ∉ before.map Multiaddr.toText := by
  unfold plannedAddrs
  rw [List.mem_filter, mem_firstsBy_iff, and_comm]

/-- **The plan of a request** tries the addresses listed for it that the transports allow, of every text the
first one, in groups by kind and in the order of the list within a group. Nothing planned is lost, added or
tried twice, and every listed address that the transports allow is tried under its text. -/
theorem connection_plan_spec (requested : Addr) (peerBook : PeerBook PeerId) (dcutrPolicy : DcutrPolicy)
    (capabilities : TransportCapabilities) :
    let plan := buildConnectionPlanWithCapabilities requested peerBook dcutrPolicy capabilities
    let relayPreferred := ((targetRecord requested peerBook).map PeerRecord.relayPreferred).getD false
    let listed := listedAddrs requested peerBook
    let planned := plannedAddrs requested peerBook capabilities
    plan.attempts = (groupOrder relayPreferred).flatMap (group planned) ∧
      (plan.attempts.map ConnectionAttempt.addr).Perm planned ∧
      planned.Sublist listed ∧ (planned.map Multiaddr.toText).Nodup ∧
      (∀ addr, addr ∈ planned ↔ capabilities.allows addr = true ∧
        ∃ before after, listed = before ++ addr :: after ∧
          Multiaddr.toText addr ∉ before.map Multiaddr.toText) ∧
      ∀ addr ∈ listed, capabilities.allows addr = true →
        ∃ attempt ∈ plan.attempts, Multiaddr.toText attempt.addr = Multiaddr.toText addr := by
  intro plan relayPreferred listed planned
  have ordered : plan.attempts = (groupOrder relayPreferred).flatMap (group planned) := by
    show orderedAttempts ((pushRecord (pushCandidate ([], ∅) requested) (targetRecord requested peerBook)).1.filter
      capabilities.allows) relayPreferred = _
    rw [candidates_eq, orderedAttempts_eq]
    rfl
  have rearranged : (plan.attempts.map ConnectionAttempt.addr).Perm planned := by
    rw [ordered]
    exact groups_perm planned relayPreferred
  refine ⟨ordered, rearranged, ?_, ?_, fun addr => mem_plannedAddrs_iff, ?_⟩
  · exact List.filter_sublist.trans (firstsBy_sublist Multiaddr.toText listed)
  · exact (nodup_map_firstsBy Multiaddr.toText listed).sublist (List.filter_sublist.map _)
  · intro addr member allowed
    obtain ⟨first, kept, same⟩ := exists_mem_firstsBy (Multiaddr.toText : Addr → String) member
    -- the filter looks at the text only, which the first address shares
    have passes : capabilities.allows first = true := by
      unfold TransportCapabilities.allows at allowed ⊢
      rw [same]
      exact allowed
    have tried : first ∈ plan.attempts.map ConnectionAttempt.addr :=
      rearranged.mem_iff.mpr (List.mem_filter.mpr ⟨kept, passes⟩)
    obtain ⟨attempt, inside, own⟩ := List.mem_map.mp tried
    exact ⟨attempt, inside, by rw [own, same]⟩

end P2pNet.Connectivity
