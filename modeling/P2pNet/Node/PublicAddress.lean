/-
**The advertised public address** (`crates/node/snapshot.rs`, `crates/node/events/connection/identify.rs`,
`crates/node/runtime_tasks.rs`, with the handlers of `crates/node/events/connection.rs`).

The snapshot names one public address beside the lists of the direct and of the relayed ones. Listen addresses,
observations of Identify, results of the public address probe and copies of the relay state write them.
-/

import P2pNet.Lib.Firsts
import P2pNet.Node.Events.RelayClient

set_option linter.unusedSectionVars false

namespace P2pNet.Node

open Lib PeerIdentity Connectivity Stack

variable {PeerId Addr : Type} [PeerIdentity PeerId] [DecidableEq Addr] [Multiaddr PeerId Addr]
  [AppendPeer PeerId Addr]

/-! ### Observations and probes -/

def maxObservedLocalAddrs : ℕ := 32

/-- `record_observed_local_addr`: whether the address is new, and the memory after it. -/
def recordObservedLocalAddr (observed : List Addr) (address : Addr) : Bool × List Addr :=
  if observed.any (· = address) then (false, observed)
  else (true, (if maxObservedLocalAddrs ≤ observed.length then observed.drop 1 else observed) ++ [address])

def shouldAdvertiseObservedAddr (setup : AddrSetup PeerId) (addr : Addr) (classification : ListenAddrClass)
    (reservations : Finset PeerId) : Bool :=
  match classification with
  | .publicDirect => true
  | .relayed => relayedRouteHasPublicRelayEndpoint setup addr && (relayPeerId addr).any (· ∈ reservations)
  | .localOnly => false

def observedLines (classification : ListenAddrClass) (text : String) : List String :=
  match classification with
  | .publicDirect => [s!"identify observed public direct addr {text}"]
  | .relayed => [s!"identify observed relayed addr {text}"]
  | .localOnly => []

/-- The relay client with its snapshot, the memory of observed addresses, and the addresses of the probe. -/
structure AddressNode (PeerId Addr : Type) [PeerIdentity PeerId] [DecidableEq Addr] where
  client : RelayClient PeerId Addr
  observedLocalAddrs : List Addr
  publicIpProbeExternalAddresses : List String

namespace AddressNode

def new : AddressNode PeerId Addr := ⟨.new, [], []⟩

variable (setup : RelayClientSetup PeerId) (s : AddressNode PeerId Addr)

/-- The snapshot's listen addresses. -/
def shown : ListenSnapshot := s.client.listen.snapshot

def withListen (listen : ListenState PeerId Addr) : AddressNode PeerId Addr := { s with client := { s.client with listen } }

/-- The candidates after an observation, which hands on what may be advertised. -/
def advertiseObserved (observedAddr : Addr) (classification : ListenAddrClass) (changed : Bool) :
    ExternalAddresses Addr :=
  let listen := s.client.listen
  if shouldAdvertiseObservedAddr setup.toAddrSetup observedAddr classification listen.relayClientReservations &&
      (changed || classification.isRelayed) then
    listen.addresses.addConfirmed setup.windows observedAddr
  else listen.addresses

/-- `handle_identify_observed_addr`, with the lines that its other parts write: of a relay that it asks for a
reservation, and of an application that it found compatible. -/
def handleIdentifyObservedAddr (observedAddr : Addr) (relayPulse applicationPulse : Option String) :
    List String × AddressNode PeerId Addr :=
  let listen := s.client.listen
  let classification := classifyListenAddr setup.toAddrSetup observedAddr
  let (changed, observedLocalAddrs) := recordObservedLocalAddr s.observedLocalAddrs observedAddr
  let addresses := s.advertiseObserved setup observedAddr classification changed
  if !changed && relayPulse.isNone && applicationPulse.isNone then
    ([], { s.withListen { listen with addresses } with observedLocalAddrs })
  else
    let snapshot :=
      if changed then listen.snapshot.recordListenAddr setup.toAddrSetup observedAddr classification
      else listen.snapshot
    (relayPulse.toList ++ applicationPulse.toList ++
        if changed then observedLines classification (Multiaddr.toText observedAddr) else [],
      { s with client := RelayClient.applyRelayState { s.client with listen := { listen with addresses, snapshot } },
               observedLocalAddrs })

/-- `record_public_external_addr`. -/
def recordPublicExternalAddr (addr : String) : AddressNode PeerId Addr :=
  let snapshot := s.shown
  { s.withListen { s.client.listen with snapshot := { snapshot with
      publicDirectListenAddresses := pushUniqueRecent snapshot.publicDirectListenAddresses addr
      publicAddr := snapshot.publicAddr.or (some addr) } } with
    publicIpProbeExternalAddresses := pushUniqueRecent s.publicIpProbeExternalAddresses addr }

/-- The end of `apply_public_ip_probe_result`. -/
def applyPublicIpProbeResult (externalAddresses : List Addr) : AddressNode PeerId Addr :=
  let listen := s.client.listen
  let addresses := externalAddresses.foldl (fun addresses addr => addresses.addConfirmed setup.windows addr)
    listen.addresses
  (externalAddresses.map Multiaddr.toText).foldl recordPublicExternalAddr (s.withListen { listen with addresses })

end AddressNode

inductive AddressOp (PeerId Addr : Type)
  | client (op : RelayClientOp PeerId Addr)
  | identified (observedAddr : Addr) (relayPulse applicationPulse : Option String)
  | probed (externalAddresses : List Addr) (pulse : Option String)

def addressStep (setup : RelayClientSetup PeerId) (s : AddressNode PeerId Addr) :
    AddressOp PeerId Addr → List String × AddressNode PeerId Addr
  | .client op =>
    let (lines, client) := relayClientStep setup s.client op
    (lines, { s with client })
  | .identified observedAddr relayPulse applicationPulse =>
    s.handleIdentifyObservedAddr setup observedAddr relayPulse applicationPulse
  | .probed externalAddresses pulse => (pulse.toList, s.applyPublicIpProbeResult setup externalAddresses)

/-! ### Listed addresses -/

/-- **The public address is listed.** -/
def Current (snapshot : ListenSnapshot) : Prop :=
  ∀ addr ∈ snapshot.publicAddr, addr ∈ snapshot.publicDirectListenAddresses ∨ addr ∈ snapshot.relayedListenAddresses

/-- The public address is a direct one, or the relay state knows it. -/
def Backed (listen : ListenState PeerId Addr) : Prop :=
  ∀ addr ∈ listen.snapshot.publicAddr,
    addr ∈ listen.snapshot.publicDirectListenAddresses ∨ addr ∈ listen.relayedListenAddrs

def ShortList (values : List String) : Prop := values.Nodup ∧ values.length ≤ maxSnapshotAddrs

/-- What the snapshot shows comes from the relay state. -/
structure Synced (listen : ListenState PeerId Addr) : Prop where
  relayed : ∀ text ∈ listen.snapshot.relayedListenAddresses, text ∈ listen.relayedListenAddrs
  direct : ShortList listen.snapshot.publicDirectListenAddresses

theorem Synced.backed {listen : ListenState PeerId Addr} (synced : Synced listen) (current : Current listen.snapshot) :
    Backed listen :=
  fun addr named => (current addr named).imp_right (synced.relayed addr)

section Lists

variable {values : List String}

theorem pushUniqueRecent_eq (short : ShortList values) (value : String) :
    pushUniqueRecent values value = recents maxSnapshotAddrs (value :: values) := by
  rw [recents_cons, recents_eq_self short.1 short.2]
  rfl

theorem ShortList.push (short : ShortList values) (value : String) : ShortList (pushUniqueRecent values value) := by
  rw [pushUniqueRecent_eq short]
  exact ⟨nodup_recents _ _, length_recents_le _ _⟩

theorem ShortList.filter (short : ShortList values) (keep : String → Bool) : ShortList (values.filter keep) :=
  ⟨short.1.filter _, (List.length_filter_le _ _).trans short.2⟩

theorem mem_pushUniqueRecent_self (values : List String) (value : String) : value ∈ pushUniqueRecent values value :=
  List.mem_cons_self

/-- **Several addresses recorded one after the other** leave the most recent ones. -/
theorem foldl_pushUniqueRecent (short : ShortList values) (added : List String) :
    added.foldl pushUniqueRecent values = recents maxSnapshotAddrs (added.reverse ++ values) := by
  induction added using List.reverseRecOn with
  | nil => exact (recents_eq_self short.1 short.2).symm
  | append_singleton added value ih =>
    rw [List.foldl_append, List.foldl_cons, List.foldl_nil, ih, List.reverse_append, List.reverse_singleton,
      List.singleton_append, List.cons_append, recents_cons]
    rfl

end Lists

/-! ### The relay client -/

theorem current_applyRelayState_iff (client : RelayClient PeerId Addr) :
    Current client.applyRelayState.listen.snapshot ↔ Backed client.listen := by
  unfold Current Backed RelayClient.applyRelayState
  dsimp only
  cases client.listen.snapshot.publicAddr with
  | none =>
    refine iff_of_true ?_ (fun _ none => nomatch none)
    intro addr first
    rw [Option.none_or] at first
    exact .inr (List.mem_of_mem_head? first)
  | some addr => simp only [Option.some_or, mem_inOrder]

theorem synced_applyRelayState {client : RelayClient PeerId Addr}
    (direct : ShortList client.listen.snapshot.publicDirectListenAddresses) : Synced client.applyRelayState.listen :=
  ⟨fun _ member => mem_inOrder.mp member, direct⟩

/-- Handlers that leave the snapshot alone and take nothing from the relay state. -/
structure Grows (before after : ListenState PeerId Addr) : Prop where
  snapshot : after.snapshot = before.snapshot
  relayed : before.relayedListenAddrs ⊆ after.relayedListenAddrs

theorem Grows.refl (listen : ListenState PeerId Addr) : Grows listen listen := ⟨rfl, Finset.Subset.refl _⟩

theorem Grows.trans {first second third : ListenState PeerId Addr} (one : Grows first second) (two : Grows second third) :
    Grows first third :=
  ⟨two.snapshot.trans one.snapshot, one.relayed.trans two.relayed⟩

theorem Grows.backed {before after : ListenState PeerId Addr} (grows : Grows before after) (backed : Backed before) :
    Backed after := by
  unfold Backed
  rw [grows.snapshot]
  exact fun addr named => (backed addr named).imp_right fun known => grows.relayed known

section Handlers

variable (setup : AddrSetup PeerId) (listen : ListenState PeerId Addr)

theorem grows_confirmRelayedListenAddr (address : Addr) : Grows listen (listen.confirmRelayedListenAddr setup address) := by
  unfold ListenState.confirmRelayedListenAddr
  split_ifs
  · exact ⟨rfl, Finset.subset_insert _ _⟩
  · exact ⟨rfl, Finset.Subset.refl _⟩

theorem grows_confirmAll (addresses : List Addr) :
    Grows listen (addresses.foldl (fun s address => s.confirmRelayedListenAddr setup address) listen) := by
  induction addresses generalizing listen with
  | nil => exact .refl listen
  | cons address rest ih => exact (grows_confirmRelayedListenAddr setup listen address).trans (ih _)

theorem grows_handleReservationAccepted (relay : PeerId) (routes : List Addr) :
    Grows listen (listen.handleReservationAccepted setup relay routes) := by
  unfold ListenState.handleReservationAccepted
  dsimp only
  have reserved : Grows listen { listen with
      relayClientReservations := insert relay listen.relayClientReservations } := ⟨rfl, Finset.Subset.refl _⟩
  have confirmed := reserved.trans (grows_confirmAll setup _ routes)
  generalize routes.foldl _ _ = current at confirmed ⊢
  split
  · exact confirmed
  · have taken : Grows current { current with
        pendingRelayListenAddrs := current.pendingRelayListenAddrs.erase relay } := ⟨rfl, Finset.Subset.refl _⟩
    exact (confirmed.trans taken).trans (grows_confirmAll setup _ _)

theorem grows_takeRelayed (address : Addr) : Grows listen (listen.takeRelayed setup address).2 := by
  unfold ListenState.takeRelayed
  split
  · exact .refl listen
  · split_ifs
    · exact grows_confirmRelayedListenAddr setup listen address
    · exact ⟨rfl, Finset.Subset.refl _⟩

/-- A relayed address that a reservation confirms is known to the relay state. -/
theorem takeRelayed_confirmed {address : Addr}
    (confirmed : (listen.takeRelayed setup address).1.confirmedByReservation = true) :
    Multiaddr.toText address ∈ (listen.takeRelayed setup address).2.relayedListenAddrs := by
  revert confirmed
  unfold ListenState.takeRelayed
  cases relayPeerId address with
  | none => exact fun confirmed => nomatch confirmed
  | some relay =>
    dsimp only
    split_ifs
    · intro confirmed
      unfold ListenState.confirmRelayedListenAddr
      rw [if_pos confirmed]
      exact Finset.mem_insert_self _ _
    · exact fun confirmed => nomatch confirmed

/-- The direct addresses after an address was recorded. -/
theorem short_recordListenAddr {snapshot : ListenSnapshot} (short : ShortList snapshot.publicDirectListenAddresses)
    (address : Addr) (classification : ListenAddrClass) :
    ShortList (snapshot.recordListenAddr setup address classification).publicDirectListenAddresses := by
  unfold ListenSnapshot.recordListenAddr
  cases classification with
  | publicDirect => exact short.push _
  | relayed => exact short
  | localOnly =>
    dsimp only
    split_ifs
    · exact short
    · exact short

/-- **A new listen address keeps the public address backed.** -/
theorem handleNewListenAddr_backed (backed : Backed listen)
    (short : ShortList listen.snapshot.publicDirectListenAddresses) (address : Addr) :
    Backed (listen.handleNewListenAddr setup address).2 ∧
      ShortList (listen.handleNewListenAddr setup address).2.snapshot.publicDirectListenAddresses := by
  unfold ListenState.handleNewListenAddr
  cases classifyListenAddr setup address with
  | publicDirect =>
    refine ⟨?_, short.push _⟩
    rintro addr ⟨⟩
    exact .inl (mem_pushUniqueRecent_self _ _)
  | localOnly =>
    refine ⟨?_, short_recordListenAddr setup short address .localOnly⟩
    dsimp only [ListenSnapshot.recordListenAddr]
    split_ifs
    · exact backed
    · exact backed
  | relayed =>
    have grows := grows_takeRelayed setup listen address
    have confirmed : _ → Multiaddr.toText address ∈ _ := takeRelayed_confirmed setup listen
    dsimp only
    generalize listen.takeRelayed setup address = taken at grows confirmed ⊢
    have kept : ShortList taken.2.snapshot.publicDirectListenAddresses := by
      rw [grows.snapshot]
      exact short
    split_ifs with reserved
    · refine ⟨?_, kept⟩
      rintro addr ⟨⟩
      exact .inr (confirmed reserved)
    · exact ⟨grows.backed backed, kept⟩
    · exact ⟨grows.backed backed, kept⟩

/-- **An expired listen address** leaves a public address that is listed. -/
theorem handleExpiredListenAddr_current (synced : Synced listen) (address : Addr) :
    Current (listen.handleExpiredListenAddr setup address).2.snapshot ∧
      Synced (listen.handleExpiredListenAddr setup address).2 := by
  have listed : ∀ snapshot : ListenSnapshot, ∀ classification : ListenAddrClass,
      Current (snapshot.removeListenAddr address classification) := by
    intro snapshot classification addr first
    rcases Option.or_eq_some_iff.mp first with relayed | ⟨-, direct⟩
    · exact .inr (List.mem_of_mem_head? relayed)
    · exact .inl (List.mem_of_mem_head? direct)
  unfold ListenState.handleExpiredListenAddr
  refine ⟨listed _ _, ?_⟩
  cases classifyListenAddr setup address with
  | publicDirect => exact ⟨synced.relayed, synced.direct.filter _⟩
  | localOnly => exact ⟨synced.relayed, synced.direct⟩
  | relayed =>
    refine ⟨fun text member => ?_, synced.direct⟩
    obtain ⟨listed, other⟩ := List.mem_filter.mp member
    exact Finset.mem_erase.mpr ⟨of_decide_eq_true other, synced.relayed text listed⟩

end Handlers

/-- The public address is listed, and what is listed comes from the relay state. -/
def InStep (client : RelayClient PeerId Addr) : Prop := Current client.listen.snapshot ∧ Synced client.listen

theorem listed_applyRelayState {client : RelayClient PeerId Addr} (backed : Backed client.listen)
    (direct : ShortList client.listen.snapshot.publicDirectListenAddresses) : InStep client.applyRelayState :=
  ⟨(current_applyRelayState_iff client).mpr backed, synced_applyRelayState direct⟩

theorem InStep.framed {client after : RelayClient PeerId Addr} (listed : InStep client) (frames : Frames client after) :
    InStep after := by
  unfold InStep
  rcases frames with ⟨same, -⟩ | ⟨applied, -⟩
  · rw [same]
    exact listed
  · rw [applied]
    exact listed_applyRelayState (listed.2.backed listed.1) listed.2.direct

/-- **Every step of the relay client** keeps the public address listed. -/
theorem relayClientStep_listed (setup : RelayClientSetup PeerId) {client : RelayClient PeerId Addr} (listed : InStep client)
    (op : RelayClientOp PeerId Addr) : InStep (relayClientStep setup client op).2 := by
  have backed := listed.2.backed listed.1
  cases op with
  | requested reservationAddr answer => exact listed.framed (requested_frame client reservationAddr answer)
  | accepted relay renewal =>
    have grows := grows_handleReservationAccepted setup.toAddrSetup client.listen relay
      (client.requestedRoutes setup relay)
    refine listed_applyRelayState (grows.backed backed) ?_
    dsimp only
    rw [grows.snapshot]
    exact listed.2.direct
  | outboundCircuitEstablished relay => exact listed.framed (.inr ⟨rfl, rfl⟩)
  | inboundCircuitEstablished src => exact listed.framed (.inr ⟨rfl, rfl⟩)
  | newListenAddr address =>
    obtain ⟨kept, short⟩ := handleNewListenAddr_backed setup.toAddrSetup client.listen backed listed.2.direct address
    exact listed_applyRelayState kept short
  | expiredListenAddr address => exact handleExpiredListenAddr_current setup.toAddrSetup client.listen listed.2 address
  | listenerClosed listener error now => exact listed.framed (closed_frame client listener error now).1
  | retryTick now answers =>
    obtain ⟨same, shown, -⟩ := retryEach_frame { client with
      reservationRetries := (client.reservationRetries.takeDue now).2 } (client.reservationRetries.takeDue now).1 answers
    exact listed.framed (.inl ⟨same, shown⟩)
  | listenedElsewhere => exact listed
  | applied => exact listed.framed (.inr ⟨rfl, rfl⟩)

/-! ### Observations -/

theorem recordObservedLocalAddr_fst (observed : List Addr) (address : Addr) :
    (recordObservedLocalAddr observed address).1 = true ↔ address ∉ observed := by
  unfold recordObservedLocalAddr
  split_ifs with known <;> simpa using known

/-- **An observed address** that is recorded leaves the public address backed, unless it is a relayed one that
the relay state does not know. -/
theorem backed_recordListenAddr_iff (setup : AddrSetup PeerId) {listen : ListenState PeerId Addr} (backed : Backed listen)
    (addresses : ExternalAddresses Addr) (address : Addr) (classification : ListenAddrClass) :
    Backed { listen with addresses, snapshot := listen.snapshot.recordListenAddr setup address classification } ↔
      (classification = .relayed → Multiaddr.toText address ∈ listen.snapshot.publicDirectListenAddresses ∨
        Multiaddr.toText address ∈ listen.relayedListenAddrs) := by
  cases classification with
  | publicDirect =>
    refine iff_of_true ?_ (fun other => nomatch other)
    rintro addr ⟨⟩
    exact .inl (mem_pushUniqueRecent_self _ _)
  | relayed =>
    constructor
    · exact fun kept _ => kept _ rfl
    · rintro known addr ⟨⟩
      exact known rfl
  | localOnly =>
    refine iff_of_true ?_ (fun other => nomatch other)
    dsimp only [ListenSnapshot.recordListenAddr]
    split_ifs
    · exact backed
    · exact backed

namespace AddressNode

variable (setup : RelayClientSetup PeerId) {s : AddressNode PeerId Addr}

/-- **Identify** keeps the public address listed exactly when a relayed address it newly observes is known. -/
theorem handleIdentifyObservedAddr_listed (listed : InStep s.client) (observedAddr : Addr)
    (relayPulse applicationPulse : Option String) :
    let after := (s.handleIdentifyObservedAddr setup observedAddr relayPulse applicationPulse).2
    Synced after.client.listen ∧ (Current after.shown ↔
      (observedAddr ∉ s.observedLocalAddrs → classifyListenAddr setup.toAddrSetup observedAddr = .relayed →
        Multiaddr.toText observedAddr ∈ s.shown.publicDirectListenAddresses ∨
          Multiaddr.toText observedAddr ∈ s.client.listen.relayedListenAddrs)) := by
  have backed := listed.2.backed listed.1
  have new := recordObservedLocalAddr_fst s.observedLocalAddrs observedAddr
  unfold handleIdentifyObservedAddr
  dsimp only
  generalize recordObservedLocalAddr s.observedLocalAddrs observedAddr = recorded at new ⊢
  rw [← new]
  cases recorded.1 with
  | true =>
    rw [Bool.not_true, Bool.false_and, Bool.false_and, if_neg Bool.false_ne_true]
    refine ⟨synced_applyRelayState (short_recordListenAddr setup.toAddrSetup listed.2.direct observedAddr _), ?_⟩
    rw [shown, current_applyRelayState_iff]
    exact (backed_recordListenAddr_iff setup.toAddrSetup backed _ observedAddr _).trans
      ⟨fun known _ => known, fun known => known rfl⟩
  | false =>
    simp only [Bool.false_eq_true, if_false]
    split_ifs
    · exact ⟨⟨listed.2.relayed, listed.2.direct⟩, iff_of_true listed.1 (fun changed => changed.elim)⟩
    · refine ⟨synced_applyRelayState listed.2.direct, iff_of_true ?_ (fun changed => changed.elim)⟩
      exact (current_applyRelayState_iff _).mpr backed

/-! ### Probes -/

/-- What the results of a probe do to the lists. -/
theorem foldl_recordPublicExternalAddr (texts : List String) (s : AddressNode PeerId Addr) :
    (texts.foldl recordPublicExternalAddr s).client.listen = { s.client.listen with snapshot := { s.shown with
      publicDirectListenAddresses := texts.foldl pushUniqueRecent s.shown.publicDirectListenAddresses
      publicAddr := s.shown.publicAddr.or texts.head? } } := by
  induction texts generalizing s with
  | nil =>
    rw [List.head?_nil, Option.or_none]
    rfl
  | cons text rest ih =>
    rw [List.foldl_cons, ih, List.foldl_cons, List.head?_cons]
    unfold recordPublicExternalAddr shown withListen
    dsimp only
    rw [Option.or_assoc, Option.some_or]

/-- **A probe** keeps the public address listed exactly when it is still among the most recent direct addresses,
or behind a relay. -/
theorem applyPublicIpProbeResult_listed (listed : InStep s.client) (externalAddresses : List Addr) :
    let after := s.applyPublicIpProbeResult setup externalAddresses
    let texts := externalAddresses.map Multiaddr.toText
    Synced after.client.listen ∧ (Current after.shown ↔ ∀ addr ∈ s.shown.publicAddr.or texts.head?,
      addr ∈ recents maxSnapshotAddrs (texts.reverse ++ s.shown.publicDirectListenAddresses) ∨
        addr ∈ s.shown.relayedListenAddresses) := by
  have short := listed.2.direct
  unfold applyPublicIpProbeResult shown
  dsimp only
  rw [foldl_recordPublicExternalAddr]
  unfold withListen shown
  dsimp only
  rw [← foldl_pushUniqueRecent short]
  refine ⟨⟨listed.2.relayed, ?_⟩, Iff.rfl⟩
  dsimp only
  rw [foldl_pushUniqueRecent short]
  exact ⟨nodup_recents _ _, length_recents_le _ _⟩

end AddressNode

/-! ### Runs -/

/-- The operation leaves the public address listed. -/
def KeepsListed (setup : RelayClientSetup PeerId) (s : AddressNode PeerId Addr) : AddressOp PeerId Addr → Prop
  | .client _ => True
  | .identified observedAddr _ _ =>
    observedAddr ∉ s.observedLocalAddrs → classifyListenAddr setup.toAddrSetup observedAddr = .relayed →
      Multiaddr.toText observedAddr ∈ s.shown.publicDirectListenAddresses ∨
        Multiaddr.toText observedAddr ∈ s.client.listen.relayedListenAddrs
  | .probed externalAddresses _ =>
    let texts := externalAddresses.map Multiaddr.toText
    ∀ addr ∈ s.shown.publicAddr.or texts.head?,
      addr ∈ recents maxSnapshotAddrs (texts.reverse ++ s.shown.publicDirectListenAddresses) ∨
        addr ∈ s.shown.relayedListenAddresses

theorem addressStep_listed (setup : RelayClientSetup PeerId) {s : AddressNode PeerId Addr} (listed : InStep s.client)
    (op : AddressOp PeerId Addr) : Synced (addressStep setup s op).2.client.listen ∧
      (Current (addressStep setup s op).2.shown ↔ KeepsListed setup s op) := by
  cases op with
  | client op =>
    obtain ⟨current, synced⟩ := relayClientStep_listed setup listed op
    exact ⟨synced, iff_of_true current trivial⟩
  | identified observedAddr relayPulse applicationPulse =>
    exact AddressNode.handleIdentifyObservedAddr_listed setup listed observedAddr relayPulse applicationPulse
  | probed externalAddresses pulse => exact AddressNode.applyPublicIpProbeResult_listed setup listed externalAddresses

theorem listed_new : InStep (AddressNode.new : AddressNode PeerId Addr).client :=
  ⟨nofun, fun _ member => absurd member List.not_mem_nil, List.nodup_nil, Nat.zero_le _⟩

/-- As long as the public address is listed, what is listed comes from the relay state. -/
theorem run_inStep (setup : RelayClientSetup PeerId) (ops : List (AddressOp PeerId Addr))
    (current : ∀ count ≤ ops.length, Current (final (addressStep setup) .new (ops.take count)).shown) :
    ∀ count ≤ ops.length, InStep (final (addressStep setup) .new (ops.take count)).client := by
  intro count
  induction count with
  | zero => exact fun _ => listed_new
  | succ count ih =>
    intro within
    refine ⟨current (count + 1) within, ?_⟩
    rw [final_take_succ _ _ (List.getElem?_eq_getElem within)]
    exact (addressStep_listed setup (ih (Nat.le_of_succ_le within)) _).1

/-- **The public address is current** all along a run exactly when no Identify reports a relayed address that the
relay state does not know, and no probe pushes the public address out of the direct ones. -/
theorem public_addr_current_iff (setup : RelayClientSetup PeerId) (ops : List (AddressOp PeerId Addr)) :
    (∀ count ≤ ops.length, Current (final (addressStep setup) .new (ops.take count)).shown) ↔
      Each (addressStep setup) (KeepsListed setup) .new ops := by
  have exactly := always_iff_each (addressStep setup) (fun _ => True) (fun s => InStep s.client) (KeepsListed setup) ops
    (fun _ => trivial) listed_new fun s op _ _ listed =>
      ⟨fun after => (addressStep_listed setup listed op).2.mp after.1,
        fun keeps => ⟨(addressStep_listed setup listed op).2.mpr keeps, (addressStep_listed setup listed op).1⟩⟩
  constructor
  · exact fun current => exactly.mp (run_inStep setup ops current)
  · exact fun each count within => (exactly.mpr each count within).1

namespace ObservedRoute

/-- The relayed address under which a peer sees the node, and a reader of its host. -/
def route : SeedRoute := ⟨[.publicHost, .tcp, .p2p .qcu2, .circuit]⟩

def setup : RelayClientSetup Seed where
  hostOf protocol := if protocol = .other "/ip4/8.8.8.8" then some (.ip4 8 8 8 8) else none
  windows := false
  localPeer := .nnoo

/-- **One Identify is enough**: the public address is the relayed one that a peer observed, and no list has it. -/
theorem observed_route_unlisted :
    let s := final (addressStep setup) .new [.identified route none none]
    s.shown.publicAddr = some (Multiaddr.toText route) ∧ s.shown.publicDirectListenAddresses = [] ∧
      s.shown.relayedListenAddresses = [] := by
  decide +kernel

end ObservedRoute

end P2pNet.Node
