/-
**Reservations at relays** (`crates/node/events/relay_client.rs`, `crates/connectivity/relay/reservation_retry.rs`,
`crates/connectivity/relay/requested.rs`).

A reservation is requested by listening on an address behind the relay. `ReservationRetries` remembers the
listener of each request; when the listener closes, its address waits for a backoff and is requested again by the
tick of the runtime. `relayClientStep` runs the requests, the events of the relay client, the listen addresses and
the ticks; whether `listen_on` succeeds is an input.

`reservation_forgotten`: one error of `listen_on` loses the address.
-/

import P2pNet.Node.ListenAddresses

set_option linter.unusedSectionVars false

namespace P2pNet.Node

open Lib PeerIdentity Connectivity Stack

variable {PeerId Addr : Type} [PeerIdentity PeerId] [DecidableEq Addr] [Multiaddr PeerId Addr]
  [AppendPeer PeerId Addr]

/-! ### Retries -/

/-- Instants and durations are nanoseconds. -/
def seconds (count : ℕ) : ℕ := count * 10 ^ 9

def baseDelay : ℕ := seconds 5

def maxDelay : ℕ := seconds 120

/-- `ListenerId`, a counter. -/
abbrev ListenerId := ℕ

structure ReservationRetries (Addr : Type) [DecidableEq Addr] where
  listeners : Table ListenerId Addr
  closes : Table Addr UInt32
  due : List (ℕ × Addr)

namespace ReservationRetries

def default : ReservationRetries Addr := ⟨∅, ∅, []⟩

variable (retries : ReservationRetries Addr)

def track (listener : ListenerId) (addr : Addr) : ReservationRetries Addr :=
  { retries with listeners := retries.listeners.insert listener addr }

def closed (listener : ListenerId) (now : ℕ) : Option (Addr × ℕ) × ReservationRetries Addr :=
  match retries.listeners.lookup listener with
  | none => (none, retries)
  | some addr =>
    let closes := (retries.closes.lookup addr).getD 0
    let delay := min (baseDelay * 2 ^ min closes.toNat 5) maxDelay
    (some (addr, delay),
      { listeners := retries.listeners.erase listener
        closes := retries.closes.insert addr (UInt32.ofNat (min (closes.toNat + 1) (2 ^ 32 - 1)))
        due := retries.due ++ [(now + delay, addr)] })

def accepted (relay : PeerId) : ReservationRetries Addr :=
  { retries with closes := retries.closes.retain fun addr _ => relayPeerId addr ≠ some relay }

def takeDue (now : ℕ) : List Addr × ReservationRetries Addr :=
  let (due, later) := retries.due.partition fun entry => entry.1 ≤ now
  (due.map Prod.snd, { retries with due := later })

/-- The backoff of the closes in a row: it doubles from the base delay and stops at the maximum. -/
example : (List.range 8).map (fun closes => min (baseDelay * 2 ^ min closes 5) maxDelay / seconds 1) =
    [5, 10, 20, 40, 80, 120, 120, 120] := by
  decide

end ReservationRetries

/-! ### The relay client -/

/-- What the handlers read of the outside, with the local peer. -/
structure RelayClientSetup (PeerId : Type) extends AddrSetup PeerId where
  localPeer : PeerId

/-- The part of `RelayState` and of the snapshot that reservations change. -/
structure RelayClient (PeerId Addr : Type) [PeerIdentity PeerId] [DecidableEq Addr] where
  listen : ListenState PeerId Addr
  reservationAttempted : Bool
  requestedRelayListenAddrs : Table PeerId (List Addr)
  reservationRetries : ReservationRetries Addr
  relayClientReservationAttempts : ℕ
  relayClientReservationFailures : ℕ
  /-- The `private_relayed_listen_addresses` of the snapshot. -/
  privateRelayedListenAddresses : List String
  /-- The next id that `listen_on` hands out. -/
  nextListener : ListenerId

namespace RelayClient

def new : RelayClient PeerId Addr where
  listen := ⟨⟨.new, ∅⟩, ∅, ∅, ∅, ∅, .empty⟩
  reservationAttempted := false
  requestedRelayListenAddrs := ∅
  reservationRetries := .default
  relayClientReservationAttempts := 0
  relayClientReservationFailures := 0
  privateRelayedListenAddresses := []
  nextListener := 0

variable (s : RelayClient PeerId Addr)

/-- `apply_relay_state`, as far as it is about listen addresses. -/
def applyRelayState : RelayClient PeerId Addr :=
  let relayed := inOrder s.listen.relayedListenAddrs
  { s with
    listen := { s.listen with snapshot := { s.listen.snapshot with
      relayedListenAddresses := relayed
      publicAddr := s.listen.snapshot.publicAddr.or relayed.head? } }
    privateRelayedListenAddresses := inOrder s.listen.privateRelayedListenAddrs }

def noteRequestedReservation (reservationAddr : Addr) : RelayClient PeerId Addr :=
  match relayPeerId reservationAddr with
  | none => s
  | some relay =>
    let requested := (s.requestedRelayListenAddrs.lookup relay).getD []
    { s with
      requestedRelayListenAddrs := s.requestedRelayListenAddrs.insert relay
        (if requested.all (· ≠ reservationAddr) then requested ++ [reservationAddr] else requested) }

def requestedRoutes (setup : RelayClientSetup PeerId) (relay : PeerId) : List Addr :=
  ((s.requestedRelayListenAddrs.lookup relay).getD []).map fun addr => AppendPeer.withP2p addr setup.localPeer

/-- A successful `listen_on`, with the retries told of the new listener. -/
def listenOn (addr : Addr) : RelayClient PeerId Addr :=
  { s with
    reservationRetries := s.reservationRetries.track s.nextListener addr
    relayClientReservationAttempts := saturatingAdd s.relayClientReservationAttempts 1
    nextListener := s.nextListener + 1 }

def countFailure : RelayClient PeerId Addr :=
  { s with relayClientReservationFailures := saturatingAdd s.relayClientReservationFailures 1 }

/-- A reservation that is requested at startup or at a relay that identify found. -/
def requestReservation (reservationAddr : Addr) : Except String Unit → RelayClient PeerId Addr
  | .ok () => (s.noteRequestedReservation reservationAddr).listenOn reservationAddr
  | .error _ => s.countFailure

/-- `ReservationReqAccepted`. -/
def handleAccepted (setup : RelayClientSetup PeerId) (relay : PeerId) (renewal : Bool) :
    List String × RelayClient PeerId Addr :=
  let routes := s.requestedRoutes setup relay
  ([s!"relay_client reservation accepted relay={toText relay} renewal={renewal}"],
    applyRelayState { s with
      reservationAttempted := true
      reservationRetries := s.reservationRetries.accepted relay
      listen := s.listen.handleReservationAccepted setup.toAddrSetup relay routes })

def handleListenerClosed (listener : ListenerId) (error : Option String) (now : ℕ) :
    List String × RelayClient PeerId Addr :=
  match s.reservationRetries.closed listener now with
  | (none, _) => ([], s)
  | (some (addr, delay), retries) =>
    let s := { s with reservationRetries := retries }
    let s := if error.isSome then s.countFailure else s
    let reason := error.getD "relay connection closed"
    let text := Multiaddr.toText addr
    ([s!"relay_client reservation closed via {text} reason={reason} retry_in={delay / seconds 1}s"],
      s.applyRelayState)

/-- One address of a tick, and what `listen_on` answers. -/
def reRequest (addr : Addr) : Except String Unit → String × RelayClient PeerId Addr
  | .ok () => (s!"relay_client reservation re-requested via {Multiaddr.toText addr}", s.listenOn addr)
  | .error err =>
    (s!"relay_client reservation re-request failed via {Multiaddr.toText addr}: {err}", s.countFailure)

def retryEach (s : RelayClient PeerId Addr) :
    List Addr → (ℕ → Except String Unit) → List String × RelayClient PeerId Addr
  | [], _ => ([], s)
  | addr :: rest, answers =>
    let (line, s) := s.reRequest addr (answers 0)
    let (lines, s) := retryEach s rest fun call => answers (call + 1)
    (line :: lines, s)

def retryDueReservations (now : ℕ) (answers : ℕ → Except String Unit) : List String × RelayClient PeerId Addr :=
  let (due, retries) := s.reservationRetries.takeDue now
  retryEach { s with reservationRetries := retries } due answers

end RelayClient

/-! ### Runs -/

inductive RelayClientOp (PeerId Addr : Type)
  | requested (reservationAddr : Addr) (answer : Except String Unit)
  | accepted (relay : PeerId) (renewal : Bool)
  | outboundCircuitEstablished (relay : PeerId)
  | inboundCircuitEstablished (src : PeerId)
  | newListenAddr (address : Addr)
  | expiredListenAddr (address : Addr)
  | listenerClosed (listener : ListenerId) (error : Option String) (now : ℕ)
  | retryTick (now : ℕ) (answers : ℕ → Except String Unit)
  /-- Another `listen_on` takes an id. -/
  | listenedElsewhere
  /-- Another handler copies the relay state into the snapshot. -/
  | applied

def relayClientStep (setup : RelayClientSetup PeerId) (s : RelayClient PeerId Addr) :
    RelayClientOp PeerId Addr → List String × RelayClient PeerId Addr
  | .requested reservationAddr answer => ([], s.requestReservation reservationAddr answer)
  | .accepted relay renewal => s.handleAccepted setup relay renewal
  | .outboundCircuitEstablished relay =>
    ([s!"relay_client outbound relayed circuit established relay={toText relay}"], s.applyRelayState)
  | .inboundCircuitEstablished src =>
    ([s!"relay_client inbound relayed circuit established src={toText src}"], s.applyRelayState)
  | .newListenAddr address =>
    let (lines, listen) := s.listen.handleNewListenAddr setup.toAddrSetup address
    (lines, RelayClient.applyRelayState { s with listen })
  | .expiredListenAddr address =>
    let (lines, listen) := s.listen.handleExpiredListenAddr setup.toAddrSetup address
    (lines, { s with listen })
  | .listenerClosed listener error now => s.handleListenerClosed listener error now
  | .retryTick now answers => s.retryDueReservations now answers
  | .listenedElsewhere => ([], { s with nextListener := s.nextListener + 1 })
  | .applied => ([], s.applyRelayState)

/-! ### Tracked and queued addresses -/

namespace RelayClient

/-- The address has an open listener. -/
def Tracked (s : RelayClient PeerId Addr) (addr : Addr) : Prop :=
  ∃ listener, s.reservationRetries.listeners.lookup listener = some addr

/-- The address waits to be requested again. -/
def Queued (s : RelayClient PeerId Addr) (addr : Addr) : Prop := ∃ time, (time, addr) ∈ s.reservationRetries.due

def Kept (s : RelayClient PeerId Addr) (addr : Addr) : Prop := s.Tracked addr ∨ s.Queued addr

/-- The ids of the listeners have been handed out. -/
def Numbered (s : RelayClient PeerId Addr) : Prop :=
  ∀ listener addr, s.reservationRetries.listeners.lookup listener = some addr → listener < s.nextListener

theorem listenOn_tracked {s : RelayClient PeerId Addr} (numbered : s.Numbered) (addr other : Addr) :
    (s.listenOn addr).Tracked other ↔ s.Tracked other ∨ other = addr := by
  have fresh : s.reservationRetries.listeners.lookup s.nextListener = none := by
    refine Option.eq_none_iff_forall_ne_some.mpr fun addr found => ?_
    exact lt_irrefl _ (numbered _ addr found)
  unfold Tracked
  simp only [listenOn, ReservationRetries.track, Table.lookup_insert_eq]
  constructor
  · rintro ⟨listener, found⟩
    split_ifs at found with same
    · exact .inr (Option.some.inj found).symm
    · exact .inl ⟨listener, found⟩
  · rintro (⟨listener, found⟩ | rfl)
    · refine ⟨listener, ?_⟩
      rw [if_neg]
      · exact found
      · rintro rfl
        rw [fresh] at found
        exact nomatch found
    · exact ⟨s.nextListener, if_pos rfl⟩

theorem listenOn_numbered {s : RelayClient PeerId Addr} (numbered : s.Numbered) (addr : Addr) :
    (s.listenOn addr).Numbered := by
  intro listener other found
  simp only [listenOn, ReservationRetries.track, Table.lookup_insert_eq] at found
  show listener < s.nextListener + 1
  split_ifs at found with same
  · rw [same]
    exact Nat.lt_succ_self _
  · exact Nat.lt_succ_of_lt (numbered listener other found)

theorem retryEach_cons (s : RelayClient PeerId Addr) (first : Addr) (rest : List Addr)
    (answers : ℕ → Except String Unit) : (s.retryEach (first :: rest) answers).2 =
      ((s.reRequest first (answers 0)).2.retryEach rest fun call => answers (call + 1)).2 := rfl

/-- **The requests of a tick**: an address gets a listener exactly if one of its requests succeeds. -/
theorem retryEach_spec {s : RelayClient PeerId Addr} (numbered : s.Numbered) (due : List Addr)
    (answers : ℕ → Except String Unit) :
    let after := (s.retryEach due answers).2
    after.Numbered ∧ after.reservationRetries.due = s.reservationRetries.due ∧
      ∀ addr, after.Tracked addr ↔ s.Tracked addr ∨ ∃ call, due[call]? = some addr ∧ answers call = .ok () := by
  induction due generalizing s answers with
  | nil => exact ⟨numbered, rfl, fun addr => by simp [retryEach]⟩
  | cons first rest ih =>
    cases answer : answers 0 with
    | ok _ =>
      obtain ⟨numbered', due', tracked⟩ := ih (listenOn_numbered numbered first) fun call => answers (call + 1)
      rw [retryEach_cons, answer]
      refine ⟨numbered', due', fun addr => ?_⟩
      refine (tracked addr).trans ?_
      rw [listenOn_tracked numbered]
      constructor
      · rintro ((before | rfl) | ⟨call, here, ok⟩)
        · exact .inl before
        · exact .inr ⟨0, rfl, answer⟩
        · exact .inr ⟨call + 1, here, ok⟩
      · rintro (before | ⟨call, here, ok⟩)
        · exact .inl (.inl before)
        · cases call with
          | zero => exact .inl (.inr (Option.some.inj here).symm)
          | succ call => exact .inr ⟨call, here, ok⟩
    | error err =>
      have numberedFailure : s.countFailure.Numbered := numbered
      obtain ⟨numbered', due', tracked⟩ := ih numberedFailure fun call => answers (call + 1)
      rw [retryEach_cons, answer]
      refine ⟨numbered', due', fun addr => ?_⟩
      refine (tracked addr).trans ?_
      constructor
      · rintro (before | ⟨call, here, ok⟩)
        · exact .inl before
        · exact .inr ⟨call + 1, here, ok⟩
      · rintro (before | ⟨call, here, ok⟩)
        · exact .inl before
        · cases call with
          | zero =>
            rw [answer] at ok
            exact nomatch ok
          | succ call => exact .inr ⟨call, here, ok⟩

/-- The address is queued, and not before a moment. -/
def QueuedAfter (s : RelayClient PeerId Addr) (now : ℕ) (addr : Addr) : Prop :=
  ∃ time, now < time ∧ (time, addr) ∈ s.reservationRetries.due

/-- The addresses that a tick takes from the queue. -/
def dueAt (s : RelayClient PeerId Addr) (now : ℕ) : List Addr := (s.reservationRetries.takeDue now).1

theorem queued_iff (s : RelayClient PeerId Addr) (now : ℕ) (addr : Addr) :
    s.Queued addr ↔ s.QueuedAfter now addr ∨ addr ∈ s.dueAt now := by
  unfold Queued QueuedAfter dueAt ReservationRetries.takeDue
  simp only [List.partition_eq_filter_filter, List.mem_map, List.mem_filter, Prod.exists, decide_eq_true_eq]
  constructor
  · rintro ⟨time, member⟩
    rcases lt_or_ge now time with later | reached
    · exact .inl ⟨time, later, member⟩
    · exact .inr ⟨time, addr, ⟨member, reached⟩, rfl⟩
  · rintro (⟨time, _, member⟩ | ⟨time, _, ⟨member, _⟩, rfl⟩)
    · exact ⟨time, member⟩
    · exact ⟨time, member⟩

theorem tick_spec {s : RelayClient PeerId Addr} (numbered : s.Numbered) (now : ℕ)
    (answers : ℕ → Except String Unit) :
    let after := (s.retryDueReservations now answers).2
    after.Numbered ∧ (∀ addr, after.Queued addr ↔ s.QueuedAfter now addr) ∧
      ∀ addr, after.Tracked addr ↔
        s.Tracked addr ∨ ∃ call, (s.dueAt now)[call]? = some addr ∧ answers call = .ok () := by
  have taken : ({ s with reservationRetries := (s.reservationRetries.takeDue now).2 } :
      RelayClient PeerId Addr).Numbered := numbered
  have later : ∀ addr, (∃ time, (time, addr) ∈ (s.reservationRetries.takeDue now).2.due) ↔
      s.QueuedAfter now addr := by
    intro addr
    simp only [QueuedAfter, ReservationRetries.takeDue, List.partition_eq_filter_filter, List.mem_filter,
      Function.comp_apply, Bool.not_eq_true', decide_eq_false_iff_not, not_le, and_comm]
  obtain ⟨numbered', due, tracked⟩ := retryEach_spec taken (s.dueAt now) answers
  refine ⟨numbered', fun addr => ?_, tracked⟩
  rw [← later addr]
  exact exists_congr fun time => iff_of_eq (congrArg ((time, addr) ∈ ·) due)

/-- **What a tick keeps.** -/
theorem tick_kept_iff {s : RelayClient PeerId Addr} (numbered : s.Numbered) (now : ℕ)
    (answers : ℕ → Except String Unit) (addr : Addr) :
    (s.retryDueReservations now answers).2.Kept addr ↔
      s.Tracked addr ∨ s.QueuedAfter now addr ∨
        ∃ call, (s.dueAt now)[call]? = some addr ∧ answers call = .ok () := by
  obtain ⟨_, queued, tracked⟩ := tick_spec numbered now answers
  unfold Kept
  rw [queued, tracked]
  constructor
  · rintro ((before | found) | later)
    · exact .inl before
    · exact .inr (.inr found)
    · exact .inr (.inl later)
  · rintro (before | later | found)
    · exact .inl (.inl before)
    · exact .inr later
    · exact .inl (.inr found)

/-- **A closed listener** gives its address to the queue. -/
theorem closed_spec (s : RelayClient PeerId Addr) (listener : ListenerId) (error : Option String) (now : ℕ) :
    let after := (s.handleListenerClosed listener error now).2
    (∀ addr, after.Kept addr ↔ s.Kept addr) ∧ (s.Numbered → after.Numbered) := by
  unfold handleListenerClosed ReservationRetries.closed
  cases known : s.reservationRetries.listeners.lookup listener with
  | none => exact ⟨fun _ => Iff.rfl, id⟩
  | some closedAddr =>
    have tables : ∀ retries : ReservationRetries Addr, ∀ addr, Kept (applyRelayState
        (if error.isSome then countFailure { s with reservationRetries := retries }
          else { s with reservationRetries := retries })) addr ↔
        (∃ listener, retries.listeners.lookup listener = some addr) ∨ ∃ time, (time, addr) ∈ retries.due := by
      intro retries addr
      cases error with
      | none => exact Iff.rfl
      | some reason => exact Iff.rfl
    refine ⟨fun addr => ?_, fun numbered other addr found => ?_⟩
    · refine (tables _ addr).trans ?_
      simp only [Table.lookup_erase_eq, List.mem_append, List.mem_singleton, Prod.mk.injEq]
      constructor
      · rintro (⟨other, found⟩ | ⟨time, member | ⟨_, rfl⟩⟩)
        · split_ifs at found
          exact .inl ⟨other, found⟩
        · exact .inr ⟨time, member⟩
        · exact .inl ⟨listener, known⟩
      · rintro (⟨other, found⟩ | ⟨time, member⟩)
        · by_cases same : other = listener
          · rw [same, known] at found
            exact .inr ⟨_, .inr ⟨rfl, (Option.some.inj found).symm⟩⟩
          · exact .inl ⟨other, by rw [if_neg same, found]⟩
        · exact .inr ⟨time, .inl member⟩
    · have inside : (s.reservationRetries.listeners.erase listener).lookup other = some addr := by
        cases error with
        | none => exact found
        | some reason => exact found
      rw [Table.lookup_erase_eq] at inside
      split_ifs at inside
      have before := numbered other addr inside
      cases error with
      | none => exact before
      | some reason => exact before

theorem noteRequestedReservation_retries (s : RelayClient PeerId Addr) (reservationAddr : Addr) :
    (s.noteRequestedReservation reservationAddr).reservationRetries = s.reservationRetries ∧
      (s.noteRequestedReservation reservationAddr).nextListener = s.nextListener := by
  unfold noteRequestedReservation
  cases relayPeerId reservationAddr with
  | none => exact ⟨rfl, rfl⟩
  | some relay => exact ⟨rfl, rfl⟩

/-- **A successful request** is tracked. -/
theorem requested_spec {s : RelayClient PeerId Addr} (numbered : s.Numbered) (reservationAddr : Addr) :
    let after := s.requestReservation reservationAddr (.ok ())
    after.Numbered ∧ (∀ addr, after.Queued addr ↔ s.Queued addr) ∧
      ∀ addr, after.Tracked addr ↔ s.Tracked addr ∨ addr = reservationAddr := by
  obtain ⟨retries, next⟩ := s.noteRequestedReservation_retries reservationAddr
  have noted : (s.noteRequestedReservation reservationAddr).Numbered := by
    unfold Numbered
    rw [retries, next]
    exact numbered
  refine ⟨listenOn_numbered noted reservationAddr, fun addr => ?_, fun addr => ?_⟩
  · show (∃ time, (time, addr) ∈ (s.noteRequestedReservation reservationAddr).reservationRetries.due) ↔ _
    rw [retries]
    rfl
  · refine (listenOn_tracked noted reservationAddr addr).trans ?_
    unfold Tracked
    rw [retries]

end RelayClient

/-! ### Steps -/

section Steps

variable (setup : RelayClientSetup PeerId)

/-- What a step does to the listeners and the queue, apart from requests, closes and ticks: nothing. -/
def RelayClientOp.Passive : RelayClientOp PeerId Addr → Prop
  | .requested _ (.ok _) | .listenerClosed .. | .retryTick .. => False
  | _ => True

theorem passive_step (s : RelayClient PeerId Addr) {op : RelayClientOp PeerId Addr} (passive : op.Passive) :
    let after := (relayClientStep setup s op).2
    after.reservationRetries.listeners = s.reservationRetries.listeners ∧
      after.reservationRetries.due = s.reservationRetries.due ∧ s.nextListener ≤ after.nextListener := by
  cases op with
  | requested reservationAddr answer =>
    cases answer with
    | ok _ => exact absurd passive id
    | error err => exact ⟨rfl, rfl, le_rfl⟩
  | accepted relay renewal => exact ⟨rfl, rfl, le_rfl⟩
  | outboundCircuitEstablished relay => exact ⟨rfl, rfl, le_rfl⟩
  | inboundCircuitEstablished src => exact ⟨rfl, rfl, le_rfl⟩
  | newListenAddr address => exact ⟨rfl, rfl, le_rfl⟩
  | expiredListenAddr address => exact ⟨rfl, rfl, le_rfl⟩
  | listenerClosed listener error now => exact absurd passive id
  | retryTick now answers => exact absurd passive id
  | listenedElsewhere => exact ⟨rfl, rfl, Nat.le_succ _⟩
  | applied => exact ⟨rfl, rfl, le_rfl⟩

/-- **A tick gets a listener for each address it takes from the queue**, or the address is tracked or queued
otherwise. -/
def Regained (s : RelayClient PeerId Addr) : RelayClientOp PeerId Addr → Prop
  | .retryTick now answers => ∀ addr ∈ s.dueAt now, s.Tracked addr ∨ s.QueuedAfter now addr ∨
      ∃ call, (s.dueAt now)[call]? = some addr ∧ answers call = .ok ()
  | _ => True

/-- **One step**: listener ids stay fresh, a kept address stays kept when the step regains what it takes, and
whatever is queued afterwards was kept before. -/
theorem kept_step {s : RelayClient PeerId Addr} (numbered : s.Numbered) (op : RelayClientOp PeerId Addr) :
    let after := (relayClientStep setup s op).2
    after.Numbered ∧ (Regained s op → ∀ addr, s.Kept addr → after.Kept addr) ∧
      ∀ addr, after.Queued addr → s.Kept addr := by
  by_cases passive : op.Passive
  · obtain ⟨listeners, due, next⟩ := passive_step setup s passive
    refine ⟨fun listener addr found => ?_, fun _ addr kept => ?_, fun addr queued => .inr ?_⟩
    · rw [listeners] at found
      exact lt_of_lt_of_le (numbered listener addr found) next
    · unfold RelayClient.Kept RelayClient.Tracked RelayClient.Queued
      rw [listeners, due]
      exact kept
    · unfold RelayClient.Queued at queued
      rw [due] at queued
      exact queued
  · cases op with
    | requested reservationAddr answer =>
      cases answer with
      | error err => exact absurd trivial passive
      | ok _ =>
        obtain ⟨numbered', queued, tracked⟩ := RelayClient.requested_spec numbered reservationAddr
        refine ⟨numbered', fun _ addr kept => ?_, fun addr waiting => .inr ((queued addr).mp waiting)⟩
        rcases kept with before | waiting
        · exact .inl ((tracked addr).mpr (.inl before))
        · exact .inr ((queued addr).mpr waiting)
    | listenerClosed listener error now =>
      obtain ⟨kept, numbered'⟩ := s.closed_spec listener error now
      exact ⟨numbered' numbered, fun _ addr before => (kept addr).mpr before,
        fun addr queued => (kept addr).mp (.inr queued)⟩
    | retryTick now answers =>
      obtain ⟨numbered', queued, _⟩ := RelayClient.tick_spec numbered now answers
      refine ⟨numbered', fun regained addr kept => ?_, fun addr waiting => ?_⟩
      · refine (RelayClient.tick_kept_iff numbered now answers addr).mpr ?_
        rcases kept with before | waiting
        · exact .inl before
        · rcases (s.queued_iff now addr).mp waiting with later | taken
          · exact .inr (.inl later)
          · exact regained addr taken
      · exact .inr ((s.queued_iff now addr).mpr (.inl ((queued addr).mp waiting)))
    | accepted relay renewal => exact absurd trivial passive
    | outboundCircuitEstablished relay => exact absurd trivial passive
    | inboundCircuitEstablished src => exact absurd trivial passive
    | newListenAddr address => exact absurd trivial passive
    | expiredListenAddr address => exact absurd trivial passive
    | listenedElsewhere => exact absurd trivial passive
    | applied => exact absurd trivial passive

/-! ### Whole runs -/

/-- The relay client after the first operations of a run. -/
def clientAfter (ops : List (RelayClientOp PeerId Addr)) (made : ℕ) : RelayClient PeerId Addr :=
  final (relayClientStep setup) .new (ops.take made)

variable {ops : List (RelayClientOp PeerId Addr)}

theorem clientAfter_succ {made : ℕ} {op : RelayClientOp PeerId Addr} (here : ops[made]? = some op) :
    clientAfter setup ops (made + 1) = (relayClientStep setup (clientAfter setup ops made) op).2 :=
  final_take_succ _ _ here

theorem clientAfter_end {made : ℕ} (none : ops[made]? = none) :
    clientAfter setup ops (made + 1) = clientAfter setup ops made := by
  unfold clientAfter
  rw [List.take_add_one, none, Option.toList_none, List.append_nil]

theorem clientAfter_numbered (made : ℕ) : (clientAfter setup ops made).Numbered :=
  final_induct _ (fun _ (s : RelayClient PeerId Addr) => s.Numbered) _ (fun _ _ found => nomatch found)
    fun _ op _ _ _ numbered => (kept_step setup numbered op).1

/-- What is kept was tracked before. -/
theorem tracked_of_kept {made : ℕ} {addr : Addr} (kept : (clientAfter setup ops made).Kept addr) :
    ∃ earlier ≤ made, (clientAfter setup ops earlier).Tracked addr := by
  induction made with
  | zero =>
    rcases kept with ⟨listener, found⟩ | ⟨time, member⟩
    · exact nomatch found
    · exact nomatch member
  | succ made ih =>
    rcases kept with tracked | queued
    · exact ⟨made + 1, le_rfl, tracked⟩
    · have before : (clientAfter setup ops made).Kept addr := by
        cases here : ops[made]? with
        | none =>
          rw [clientAfter_end setup here] at queued
          exact .inr queued
        | some op =>
          rw [clientAfter_succ setup here] at queued
          exact (kept_step setup (clientAfter_numbered setup made) op).2.2 addr queued
      obtain ⟨earlier, within, tracked⟩ := ih before
      exact ⟨earlier, within.trans (Nat.le_succ _), tracked⟩

/-- **When a reservation is never forgotten.** An address that was ever tracked is afterwards always the address
of a tracked listener or queued, exactly when every tick gets a listener for each address it takes from the
queue, or the address is tracked or queued otherwise. -/
theorem reservation_kept_iff :
    (∀ earlier later, earlier ≤ later → ∀ addr, (clientAfter setup ops earlier).Tracked addr →
      (clientAfter setup ops later).Kept addr) ↔ Each (relayClientStep setup) Regained .new ops := by
  constructor
  · intro never made op here
    cases op with
    | retryTick now answers =>
      intro addr taken
      have queued := ((clientAfter setup ops made).queued_iff now addr).mpr (.inr taken)
      obtain ⟨earlier, within, tracked⟩ := tracked_of_kept setup (.inr queued)
      have kept := never earlier (made + 1) (within.trans (Nat.le_succ _)) addr tracked
      rw [clientAfter_succ setup here] at kept
      exact (RelayClient.tick_kept_iff (clientAfter_numbered setup made) now answers addr).mp kept
    | _ => trivial
  · intro regained earlier later within addr tracked
    induction later, within using Nat.le_induction with
    | base => exact .inl tracked
    | succ made _ ih =>
      cases here : ops[made]? with
      | none =>
        rw [clientAfter_end setup here]
        exact ih
      | some op =>
        rw [clientAfter_succ setup here]
        exact (kept_step setup (clientAfter_numbered setup made) op).2.1 (regained made op here) addr ih

end Steps

/-! ### A request that fails once -/

namespace RefusedRequest

def setup : RelayClientSetup Seed where
  hostOf protocol := if protocol = .other "/ip4/8.8.8.8" then some (.ip4 8 8 8 8) else none
  windows := false
  localPeer := .qcu2

def reservation : SeedRoute := ⟨[.publicHost, .tcp, .p2p .nnoo, .circuit]⟩

/-- The listener closes, and the swarm refuses to listen when the backoff is over. -/
def ops : List (RelayClientOp Seed SeedRoute) :=
  [.requested reservation (.ok ()), .accepted .nnoo false, .listenerClosed 0 none 0,
    .retryTick (seconds 5) fun _ => .error "too many listeners"]

end RefusedRequest

/-- **A reservation is forgotten**: it was tracked, and after one error of `listen_on` it is neither tracked nor
queued. -/
theorem reservation_forgotten :
    let s := clientAfter RefusedRequest.setup RefusedRequest.ops
    (s 1).Tracked RefusedRequest.reservation ∧ (s 3).Queued RefusedRequest.reservation ∧
      ¬(s 4).Kept RefusedRequest.reservation := by
  have listeners :
      (clientAfter RefusedRequest.setup RefusedRequest.ops 4).reservationRetries.listeners.entries = [] := by
    decide
  have due : (clientAfter RefusedRequest.setup RefusedRequest.ops 4).reservationRetries.due = [] := by
    decide
  refine ⟨⟨0, by decide⟩, ⟨seconds 5, by decide⟩, ?_⟩
  rintro (⟨listener, found⟩ | ⟨time, member⟩)
  · rw [← Table.mem_entries_iff, listeners] at found
    exact nomatch found
  · rw [due] at member
    exact nomatch member

/-! ### What the handlers leave alone -/

/-- The step leaves the listen addresses alone, or copies them into the snapshot. -/
def Frames (s after : RelayClient PeerId Addr) : Prop :=
  (after.listen = s.listen ∧ after.privateRelayedListenAddresses = s.privateRelayedListenAddresses) ∨
    (after.listen = s.applyRelayState.listen ∧
      after.privateRelayedListenAddresses = s.applyRelayState.privateRelayedListenAddresses)

theorem retryEach_frame (s : RelayClient PeerId Addr) (due : List Addr) (answers : ℕ → Except String Unit) :
    (s.retryEach due answers).2.listen = s.listen ∧
      (s.retryEach due answers).2.privateRelayedListenAddresses = s.privateRelayedListenAddresses ∧
      (s.retryEach due answers).2.requestedRelayListenAddrs = s.requestedRelayListenAddrs := by
  induction due generalizing s answers with
  | nil => exact ⟨rfl, rfl, rfl⟩
  | cons first rest ih =>
    rw [RelayClient.retryEach_cons]
    cases answers 0 with
    | ok _ => exact ih (s.listenOn first) _
    | error err => exact ih s.countFailure _

theorem closed_frame (s : RelayClient PeerId Addr) (listener : ListenerId) (error : Option String) (now : ℕ) :
    Frames s (s.handleListenerClosed listener error now).2 ∧
      (s.handleListenerClosed listener error now).2.requestedRelayListenAddrs = s.requestedRelayListenAddrs := by
  unfold RelayClient.handleListenerClosed ReservationRetries.closed
  cases s.reservationRetries.listeners.lookup listener with
  | none => exact ⟨.inl ⟨rfl, rfl⟩, rfl⟩
  | some addr =>
    cases error with
    | none => exact ⟨.inr ⟨rfl, rfl⟩, rfl⟩
    | some reason => exact ⟨.inr ⟨rfl, rfl⟩, rfl⟩

theorem requested_frame (s : RelayClient PeerId Addr) (reservationAddr : Addr) (answer : Except String Unit) :
    Frames s (s.requestReservation reservationAddr answer) := by
  refine .inl ?_
  cases answer with
  | error err => exact ⟨rfl, rfl⟩
  | ok _ =>
    unfold RelayClient.requestReservation RelayClient.noteRequestedReservation
    cases relayPeerId reservationAddr with
    | none => exact ⟨rfl, rfl⟩
    | some relay => exact ⟨rfl, rfl⟩

end P2pNet.Node
