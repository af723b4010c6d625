/-
**The backoff of reservations** (`ReservationRetries` of `crates/connectivity/relay/reservation_retry.rs`).

`History` is the abstract state of a run: which address each listener stands for, and how often listeners of an address
closed since its relay last accepted a reservation. The tables of `ReservationRetries` refine it (`Follows`), so that the
delay of a close is read off the history; an address that waits is handed out once, at the first look after its time.
-/

import P2pNet.Node.Events.RelayClient

namespace P2pNet.Node.ReservationRetries

open Lib Connectivity

variable {PeerId Addr : Type} [PeerIdentity PeerId] [DecidableEq Addr] [Multiaddr PeerId Addr]

inductive Call (PeerId Addr : Type)
  | track (listener : ListenerId) (addr : Addr)
  | closed (listener : ListenerId) (now : ℕ)
  | accepted (relay : PeerId)
  | takeDue (now : ℕ)

/-- What was scheduled and what is due. -/
def step (retries : ReservationRetries Addr) :
    Call PeerId Addr → (Option (Addr × ℕ) × List Addr) × ReservationRetries Addr
  | .track listener addr => ((none, []), retries.track listener addr)
  | .closed listener now => (((retries.closed listener now).1, []), (retries.closed listener now).2)
  | .accepted relay => ((none, []), retries.accepted relay)
  | .takeDue now => ((none, (retries.takeDue now).1), (retries.takeDue now).2)

/-! ### The history -/

structure History (Addr : Type) where
  listening : ListenerId → Option Addr
  closes : Addr → ℕ

namespace History

def initial : History Addr := ⟨fun _ => none, fun _ => 0⟩

def step (history : History Addr) : Call PeerId Addr → History Addr
  | .track listener addr => { history with listening := Function.update history.listening listener (some addr) }
  | .closed listener _ =>
    match history.listening listener with
    | none => history
    | some addr =>
      { listening := Function.update history.listening listener none
        closes := Function.update history.closes addr (history.closes addr + 1) }
  | .accepted relay =>
    { history with closes := fun addr => if relayPeerId addr = some relay then 0 else history.closes addr }
  | .takeDue _ => history

/-- The history of a run. -/
def after (calls : List (Call PeerId Addr)) : History Addr := calls.foldl step initial

end History

def counted (retries : ReservationRetries Addr) (addr : Addr) : ℕ := ((retries.closes.lookup addr).getD 0).toNat

/-- **The tables refine the history**; the counter saturates. -/
structure Follows (history : History Addr) (retries : ReservationRetries Addr) : Prop where
  listeners : ∀ listener, retries.listeners.lookup listener = history.listening listener
  closes : ∀ addr, retries.counted addr = min (history.closes addr) (2 ^ 32 - 1)

/-- **A close** by the history. -/
theorem closed_eq {history : History Addr} {retries : ReservationRetries Addr} (follows : Follows history retries)
    (listener : ListenerId) (now : ℕ) :
    (retries.closed listener now).1 = (history.listening listener).map fun addr =>
      (addr, min (seconds 5 * 2 ^ min (history.closes addr) 5) (seconds 120)) := by
  unfold closed
  rw [follows.listeners]
  cases history.listening listener with
  | none => rfl
  | some addr =>
    have few : min ((retries.closes.lookup addr).getD 0).toNat 5 = min (history.closes addr) 5 := by
      have := follows.closes addr
      unfold counted at this
      omega
    simp only [few, Option.map_some, baseDelay, maxDelay]

theorem track_follows {history : History Addr} {retries : ReservationRetries Addr} (follows : Follows history retries)
    (listener : ListenerId) (addr : Addr) :
    Follows { history with listening := Function.update history.listening listener (some addr) }
      (retries.track listener addr) := by
  refine ⟨fun other => ?_, follows.closes⟩
  simp only [track, Table.lookup_insert_eq, Function.update_apply, follows.listeners]

theorem closed_follows {history : History Addr} {retries : ReservationRetries Addr} {listener : ListenerId} {addr : Addr}
    (follows : Follows history retries) (listening : history.listening listener = some addr) (now : ℕ) :
    Follows ⟨Function.update history.listening listener none,
      Function.update history.closes addr (history.closes addr + 1)⟩ (retries.closed listener now).2 := by
  have found := follows.listeners listener
  rw [listening] at found
  unfold closed
  simp only [found]
  refine ⟨fun other => ?_, fun other => ?_⟩
  · simp only [Table.lookup_erase_eq, Function.update_apply, follows.listeners]
  · have counted := follows.closes addr
    have same := follows.closes other
    unfold ReservationRetries.counted at counted same ⊢
    simp only [Table.lookup_insert_eq, Function.update_apply]
    by_cases this : other = addr
    · rw [if_pos this, if_pos this, Option.getD_some, UInt32.toNat_ofNat', Nat.mod_eq_of_lt] <;> omega
    · rw [if_neg this, if_neg this, same]

theorem accepted_follows {history : History Addr} {retries : ReservationRetries Addr} (follows : Follows history retries)
    (relay : PeerId) :
    Follows { history with closes := fun addr => if relayPeerId addr = some relay then 0 else history.closes addr }
      (retries.accepted relay) := by
  refine ⟨follows.listeners, fun addr => ?_⟩
  have same := follows.closes addr
  unfold counted at same ⊢
  simp only [accepted, Table.lookup_retain]
  by_cases this : relayPeerId addr = some relay
  · cases retries.closes.lookup addr <;> simp [this]
  · rw [if_neg this, ← same]
    cases retries.closes.lookup addr <;> simp [this, Option.filter]

theorem step_follows {history : History Addr} {retries : ReservationRetries Addr} (follows : Follows history retries)
    (call : Call PeerId Addr) : Follows (history.step call) (retries.step call).2 := by
  cases call with
  | track listener addr => exact track_follows follows listener addr
  | closed listener now =>
    cases listening : history.listening listener with
    | some addr =>
      simp only [History.step, listening]
      exact closed_follows follows listening now
    | none =>
      have found := follows.listeners listener
      rw [listening] at found
      simpa [History.step, step, closed, found, listening] using follows
  | accepted relay => exact accepted_follows follows relay
  | takeDue now => exact ⟨follows.listeners, follows.closes⟩

theorem follows_final (calls : List (Call PeerId Addr)) : Follows (History.after calls) (final step default calls) := by
  induction calls using List.reverseRecOn with
  | nil => exact ⟨fun _ => rfl, fun _ => rfl⟩
  | append_singleton calls call ih =>
    rw [final_concat, History.after, List.foldl_concat]
    exact step_follows ih call

/-! ### The waiting addresses -/

/-- The addresses that calls schedule, with their times. -/
def scheduled : ReservationRetries Addr → List (Call PeerId Addr) → List (ℕ × Addr)
  | _, [] => []
  | retries, call :: rest =>
    (match call with
      | .closed listener now => ((retries.closed listener now).1.map fun (addr, delay) => (now + delay, addr)).toList
      | _ => []) ++ scheduled (retries.step call).2 rest

/-- The addresses that calls hand out, with the times they were scheduled for. -/
def handedOut : ReservationRetries Addr → List (Call PeerId Addr) → List (ℕ × Addr)
  | _, [] => []
  | retries, call :: rest =>
    (match call with
      | .takeDue now => retries.due.filter fun entry => entry.1 ≤ now
      | _ => []) ++ handedOut (retries.step call).2 rest

theorem takeDue_eq (retries : ReservationRetries Addr) (now : ℕ) :
    (retries.takeDue now).1 = (retries.due.filter fun entry => entry.1 ≤ now).map Prod.snd ∧
      (retries.takeDue now).2.due = retries.due.filter fun entry => now < entry.1 := by
  have later : (not ∘ fun entry : ℕ × Addr => decide (entry.1 ≤ now)) = fun entry => decide (now < entry.1) := by
    funext entry
    simp [← decide_not]
  simp only [takeDue, List.partition_eq_filter_filter, later, and_self]

theorem closed_due (retries : ReservationRetries Addr) (listener : ListenerId) (now : ℕ) :
    (retries.closed listener now).2.due = retries.due ++
      ((retries.closed listener now).1.map fun (addr, delay) => (now + delay, addr)).toList := by
  unfold closed
  cases retries.listeners.lookup listener with
  | none => exact (List.append_nil _).symm
  | some addr => rfl

/-- **Nothing is lost or handed out twice.** -/
theorem due_balance (retries : ReservationRetries Addr) (calls : List (Call PeerId Addr)) :
    (retries.due ++ scheduled retries calls).Perm (handedOut retries calls ++ (final step retries calls).due) := by
  induction calls generalizing retries with
  | nil => simp [scheduled, handedOut]
  | cons call rest ih =>
    have next := ih (retries.step call).2
    cases call with
    | track listener addr => exact next
    | accepted relay => exact next
    | closed listener now =>
      simp only [step, closed_due, List.append_assoc] at next
      exact next
    | takeDue now =>
      have split : (retries.due.filter (fun entry => entry.1 ≤ now)
          ++ retries.due.filter fun entry => now < entry.1).Perm retries.due := by
        have both := List.filter_append_perm (fun entry : ℕ × Addr => decide (entry.1 ≤ now)) retries.due
        simpa [← decide_not] using both
      simp only [step, (takeDue_eq retries now).2] at next
      simp only [scheduled, handedOut, List.nil_append, List.append_assoc]
      refine (split.symm.append_right _).trans ?_
      rw [List.append_assoc]
      exact next.append_left _

/-- **Reservations are retried with backoff.** After every run: a close of a listener of an address waits for 5 seconds,
doubled with each close since the relay of the address last accepted, and at most 120 seconds; an acceptance leaves the
counter of any other relay's address as it is; `take_due` hands out what waited until then, and keeps the rest; and the
addresses scheduled in the run are those handed out and those still waiting, each as often. -/
theorem reservation_backoff (calls : List (Call PeerId Addr)) :
    let retries : ReservationRetries Addr := final step default calls
    (∀ listener now, (retries.closed listener now).1 = ((History.after calls).listening listener).map fun addr =>
      (addr, min (seconds 5 * 2 ^ min ((History.after calls).closes addr) 5) (seconds 120))) ∧
    (∀ listener now, (retries.closed listener now).2.due = retries.due ++
      ((retries.closed listener now).1.map fun (addr, delay) => (now + delay, addr)).toList) ∧
    (∀ (relay : PeerId) addr, relayPeerId addr ≠ some relay →
      (retries.accepted relay).closes.lookup addr = retries.closes.lookup addr) ∧
    (∀ now, (retries.takeDue now).1 = (retries.due.filter fun entry => entry.1 ≤ now).map Prod.snd ∧
      (retries.takeDue now).2.due = retries.due.filter fun entry => now < entry.1) ∧
    (scheduled default calls).Perm (handedOut default calls ++ retries.due) := by
  intro retries
  refine ⟨closed_eq (follows_final calls), closed_due retries, fun relay addr other => ?_, takeDue_eq retries, ?_⟩
  · rw [accepted, Table.lookup_retain]
    cases retries.closes.lookup addr <;> simp [other]
  · exact due_balance default calls

end P2pNet.Node.ReservationRetries
