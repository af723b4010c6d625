/-
**The retry windows of automatic connections** (`crates/connectivity/dht/state.rs`).

An automatic connection to a peer asks a gate first and is then marked as attempted. Both read the retry
history of the peer: the gate starts a window anew that is 300 s old, and lets at most eight attempts pass
in a window, 5 s apart; the mark counts the attempt. What happens to the history of one peer is a machine of
its own (`historyStep`), and a run over all peers is a run of that machine as long as the history is not
evicted (`run_history`).
-/

import P2pNet.Node.AutoDial
import P2pNet.Node.Events.Discovery

set_option linter.unusedSectionVars false

namespace P2pNet.Node

open Lib PeerIdentity Connectivity

variable {PeerId : Type} [PeerIdentity PeerId]

/-! ### Attempts -/

namespace DhtProviderState

variable (state : DhtProviderState PeerId)

/-- The retry histories after one more attempt. -/
def attemptedRetry (peer : PeerId) (nowUnixSecs : ℕ) : Table PeerId AutoConnectRetryState × List PeerId :=
  let entry := state.autoConnectRetry.entryOr peer .zero
  pruneRetry maxTrackedProviderPeers (entry.2.insert peer (entry.1.attempt nowUnixSecs))
    (if (state.autoConnectRetry.lookup peer).isNone then state.autoConnectRetryOrder ++ [peer]
      else state.autoConnectRetryOrder)

theorem markAutoConnectAttempted_of_mem {peer : PeerId} (nowUnixSecs : ℕ)
    (attempted : peer ∈ state.attemptedPeers.peers) : state.markAutoConnectAttempted peer nowUnixSecs
      = { state with waitingForAddrs := (state.waitingForAddrs.remove peer).2 } := by
  unfold markAutoConnectAttempted PeerQueue.insert
  rw [if_pos attempted]
  rfl

theorem markAutoConnectAttempted_of_notMem {peer : PeerId} (nowUnixSecs : ℕ)
    (fresh : peer ∉ state.attemptedPeers.peers) : state.markAutoConnectAttempted peer nowUnixSecs
      = { waitingForAddrs := (state.waitingForAddrs.remove peer).2
          attemptedPeers := (state.attemptedPeers.insert peer).2.prune maxTrackedProviderPeers
          autoConnectRetry := (state.attemptedRetry peer nowUnixSecs).1
          autoConnectRetryOrder := (state.attemptedRetry peer nowUnixSecs).2 } := by
  unfold markAutoConnectAttempted PeerQueue.insert
  rw [if_neg fresh]
  rfl

end DhtProviderState

/-! ### The history of one peer -/

/-- What is noted about the history of a peer: the windows that start, and the attempts, each with its
window. -/
structure RetryNotes where
  starts : List ℕ
  attempts : List (ℕ × ℕ)
  deriving DecidableEq

/-- A start is noted where the window of the history changes. -/
def startNote (before after : Option AutoConnectRetryState) : List ℕ :=
  match after with
  | some retry =>
    if before.map (·.windowStartedUnixSecs) = some retry.windowStartedUnixSecs then []
    else [retry.windowStartedUnixSecs]
  | none => []

/-- The answer of the gate to a known peer, and the history it leaves. -/
def AutoConnectRetryState.gate (retry : AutoConnectRetryState) (nowUnixSecs : ℕ) :
    Bool × AutoConnectRetryState :=
  if nowUnixSecs - retry.windowStartedUnixSecs ≥ autoConnectRetryWindowSecs then
    (true, { AutoConnectRetryState.zero with windowStartedUnixSecs := nowUnixSecs })
  else
    (retry.attempts < maxAutoConnectAttemptsPerWindow
      && decide (nowUnixSecs - retry.lastAttemptUnixSecs ≥ autoConnectRetryCooldownSecs), retry)

/-- What happens to a history: nothing, a gate is asked, or a gate lets the peer pass and the attempt is
marked. -/
inductive HistoryOp
  | idle
  | ask (second : ℕ)
  | connect (gateAt markAt : ℕ)

def HistoryOp.times : HistoryOp → List ℕ
  | idle => []
  | ask second => [second]
  | connect gateAt markAt => [gateAt, markAt]

def askHistory (history : Option AutoConnectRetryState) (second : ℕ) : Option AutoConnectRetryState :=
  history.map fun retry => (retry.gate second).2

/-- Does the gate let the peer pass? -/
def passes (history : Option AutoConnectRetryState) (second : ℕ) : Bool :=
  (history.map fun retry => (retry.gate second).1).getD true

def markHistory (history : Option AutoConnectRetryState) (second : ℕ) : AutoConnectRetryState :=
  (history.getD .zero).attempt second

def historyStep (history : Option AutoConnectRetryState) :
    HistoryOp → RetryNotes × Option AutoConnectRetryState
  | .idle => (⟨[], []⟩, history)
  | .ask second => (⟨startNote history (askHistory history second), []⟩, askHistory history second)
  | .connect gateAt markAt =>
    let asked := askHistory history gateAt
    let marked := markHistory asked markAt
    (⟨startNote history asked ++ startNote asked (some marked), [(marked.windowStartedUnixSecs, markAt)]⟩,
      some marked)

/-- Only a peer that the gate lets pass is connected. -/
def Permitted (history : Option AutoConnectRetryState) : HistoryOp → Prop
  | .connect gateAt _ => passes history gateAt = true
  | _ => True

/-! ### Operations on all peers -/

inductive Gate
  | providerResult
  | addrUpdate
  deriving DecidableEq

namespace DhtProviderState

variable (state : DhtProviderState PeerId)

def ask (peer : PeerId) (second : ℕ) : Gate → Bool × DhtProviderState PeerId
  | .providerResult => state.shouldAutoConnectProviderResult peer second
  | .addrUpdate => state.shouldAutoConnectAfterAddrUpdate peer second

/-- The gate looks at the history of the peer. -/
def Asked (peer : PeerId) : Gate → Prop
  | .providerResult => peer ∉ state.waitingForAddrs.peers ∧ peer ∉ state.attemptedPeers.peers
  | .addrUpdate => peer ∉ state.attemptedPeers.peers

instance (peer : PeerId) (gate : Gate) : Decidable (state.Asked peer gate) := by
  cases gate <;> unfold Asked <;> infer_instance

end DhtProviderState

/-- An operation on the state of automatic connections. `connect` asks a gate and, if it lets the peer pass,
marks the attempt. -/
inductive RetryOp (PeerId : Type)
  | connect (gate : Gate) (peer : PeerId) (gateAt markAt : ℕ)
  | ask (gate : Gate) (peer : PeerId) (second : ℕ)
  | markAttempted (peer : PeerId) (second : ℕ)
  | markWaiting (peer : PeerId)
  | markFailed (peer : PeerId)
  | markDisconnected (peer : PeerId)

namespace RetryOp

/-- The readings of the clock. -/
def times : RetryOp PeerId → List ℕ
  | connect _ _ gateAt markAt => [gateAt, markAt]
  | ask _ _ second => [second]
  | markAttempted _ second => [second]
  | _ => []

/-- The peer is marked as attempted only after a gate let it pass. -/
def GatedFor (peer : PeerId) : RetryOp PeerId → Prop
  | markAttempted other _ => other ≠ peer
  | _ => True

/-- Connecting, failing and disconnecting are marks without an attempt. -/
def IsQuietMark : RetryOp PeerId → Prop
  | markWaiting _ | markFailed _ | markDisconnected _ => True
  | _ => False

end RetryOp

section Notes

variable (peer : PeerId)

/-- The retry history of the peer. -/
def DhtProviderState.history (state : DhtProviderState PeerId) : Option AutoConnectRetryState :=
  state.autoConnectRetry.lookup peer

/-- What is noted about the peer when a state follows another. -/
def stateNote (before after : DhtProviderState PeerId) : List ℕ :=
  startNote (before.history peer) (after.history peer)

def windowOf (state : DhtProviderState PeerId) : ℕ :=
  ((state.history peer).map (·.windowStartedUnixSecs)).getD 0

/-- One operation, with what is noted about the peer. -/
def retryStep (state : DhtProviderState PeerId) : RetryOp PeerId → RetryNotes × DhtProviderState PeerId
  | .connect gate other gateAt markAt =>
    let (allowed, asked) := state.ask other gateAt gate
    if allowed then
      let marked := asked.markAutoConnectAttempted other markAt
      (⟨stateNote peer state asked ++ stateNote peer asked marked,
        if other = peer then [(windowOf peer marked, markAt)] else []⟩, marked)
    else (⟨stateNote peer state asked, []⟩, asked)
  | .ask gate other second =>
    let asked := (state.ask other second gate).2
    (⟨stateNote peer state asked, []⟩, asked)
  | .markAttempted other second =>
    let marked := state.markAutoConnectAttempted other second
    (⟨stateNote peer state marked, []⟩, marked)
  | .markWaiting other =>
    let marked := state.markAutoConnectWaitingForAddrs other
    (⟨stateNote peer state marked, []⟩, marked)
  | .markFailed other =>
    let marked := state.markAutoConnectFailed other
    (⟨stateNote peer state marked, []⟩, marked)
  | .markDisconnected other =>
    let marked := state.markAutoConnectDisconnected other
    (⟨stateNote peer state marked, []⟩, marked)

/-- The operation does not evict the history of the peer, neither an old nor a new one. -/
def Unevicted (state : DhtProviderState PeerId) (op : RetryOp PeerId) : Prop :=
  ((state.history peer).isSome ∨ (retryStep peer state op).1.attempts ≠ []) →
    ((retryStep peer state op).2.history peer).isSome

/-- The notes of a run. -/
def retryLog (start : DhtProviderState PeerId) (ops : List (RetryOp PeerId)) : RetryNotes where
  starts := (outputs (retryStep peer) start ops).flatMap (·.starts)
  attempts := (outputs (retryStep peer) start ops).flatMap (·.attempts)

end Notes

/-! ### From all peers to one -/

section Simulation

theorem startNote_self (history : Option AutoConnectRetryState) : startNote history history = [] := by
  cases history with
  | none => rfl
  | some retry => exact if_pos rfl

variable (state : DhtProviderState PeerId)

/-- A gate that looks at the history of its peer. -/
theorem ask_of_asked {other : PeerId} {gate : Gate} (asked : state.Asked other gate) (second : ℕ) :
    (state.ask other second gate).1 = passes (state.history other) second ∧
      (state.ask other second gate).2.attemptedPeers = state.attemptedPeers ∧
      ∀ peer, (state.ask other second gate).2.history peer
        = if peer = other then askHistory (state.history other) second else state.history peer := by
  have fresh : other ∉ state.attemptedPeers.peers := by
    cases gate with
    | providerResult => exact asked.2
    | addrUpdate => exact asked
  have opened : state.ask other second gate = state.autoConnectRetryAllowed other second := by
    cases gate with
    | providerResult => exact if_neg asked.1
    | addrUpdate => rfl
  rw [opened]
  unfold DhtProviderState.autoConnectRetryAllowed
  rw [if_neg fresh]
  cases found : state.autoConnectRetry.lookup other with
  | none =>
    refine ⟨by simp [passes, DhtProviderState.history, found], rfl, fun peer => ?_⟩
    split_ifs with same
    · rw [same]
      simp [askHistory, DhtProviderState.history, found]
    · rfl
  | some retry =>
    simp only [passes, askHistory, DhtProviderState.history, found, AutoConnectRetryState.gate,
      Option.map_some, Option.getD_some]
    split_ifs with expired
    · exact ⟨rfl, rfl, fun peer => Table.lookup_insert_eq _ _ _ _⟩
    · refine ⟨rfl, rfl, fun peer => ?_⟩
      split_ifs with same
      · rw [same, found]
      · rfl

theorem ask_of_not_asked {other : PeerId} {gate : Gate} (closed : ¬ state.Asked other gate) (second : ℕ) :
    state.ask other second gate = (false, state) := by
  cases gate with
  | providerResult =>
    show (if other ∈ state.waitingForAddrs.peers then (false, state)
      else state.autoConnectRetryAllowed other second) = _
    split_ifs with waiting
    · rfl
    · exact if_pos (not_not.mp fun fresh => closed ⟨waiting, fresh⟩)
  | addrUpdate => exact if_pos (not_not.mp closed)

theorem pruneRetry_lookup (maxEntries : ℕ) (retry : Table PeerId AutoConnectRetryState)
    (order : List PeerId) (peer : PeerId) :
    (DhtProviderState.pruneRetry maxEntries retry order).1.lookup peer = none ∨
      (DhtProviderState.pruneRetry maxEntries retry order).1.lookup peer = retry.lookup peer := by
  induction order generalizing retry with
  | nil => exact .inr rfl
  | cons evicted order ih =>
    unfold DhtProviderState.pruneRetry
    split_ifs
    · rcases ih (retry.erase evicted) with gone | same
      · exact .inl gone
      · rw [same, Table.lookup_erase_eq]
        split_ifs
        · exact .inl rfl
        · exact .inr rfl
    · exact .inr rfl

/-- A mark writes the history of its peer, and evicts others at most. -/
theorem mark_history {other : PeerId} (fresh : other ∉ state.attemptedPeers.peers) (second : ℕ)
    (peer : PeerId) :
    (state.markAutoConnectAttempted other second).history peer = none ∨
      (state.markAutoConnectAttempted other second).history peer
        = if peer = other then some (markHistory (state.history other) second) else state.history peer := by
  rw [state.markAutoConnectAttempted_of_notMem second fresh]
  unfold DhtProviderState.history markHistory DhtProviderState.attemptedRetry Table.entryOr
  dsimp only
  refine (pruneRetry_lookup _ _ _ peer).imp_right fun same => ?_
  rw [same, Table.lookup_insert_eq]
  cases found : state.autoConnectRetry.lookup other with
  | none =>
    dsimp only
    rw [Table.lookup_insert_eq]
    split_ifs <;> rfl
  | some retry => rfl

theorem mark_history_of_mem {other : PeerId} (attempted : other ∈ state.attemptedPeers.peers) (second : ℕ)
    (peer : PeerId) : (state.markAutoConnectAttempted other second).history peer = state.history peer := by
  rw [state.markAutoConnectAttempted_of_mem second attempted]
  rfl

/-- Connecting, failing and disconnecting leave every history as it is. -/
theorem quietMark_history (peer : PeerId) {op : RetryOp PeerId} (quiet : op.IsQuietMark) :
    (retryStep peer state op).2.history peer = state.history peer := by
  cases op with
  | markWaiting other =>
    show (state.markAutoConnectWaitingForAddrs other).history peer = _
    unfold DhtProviderState.markAutoConnectWaitingForAddrs
    split_ifs
    · rfl
    · cases (state.waitingForAddrs.insert other) with
      | mk inserted waiting => cases inserted <;> rfl
  | markFailed other => rfl
  | markDisconnected other => rfl
  | connect _ _ _ _ => cases quiet
  | ask _ _ _ => cases quiet
  | markAttempted _ _ => cases quiet

/-- The operation does to the history of the peer what `HistoryOp` says. -/
structure Simulates (peer : PeerId) (op : RetryOp PeerId) (history : HistoryOp) : Prop where
  step : historyStep (state.history peer) history
    = ((retryStep peer state op).1, (retryStep peer state op).2.history peer)
  permitted : Permitted (state.history peer) history
  times : history.times.Sublist op.times

/-- An operation that leaves the history as it is. -/
theorem Simulates.idle {peer : PeerId} {op : RetryOp PeerId}
    (same : (retryStep peer state op).2.history peer = state.history peer)
    (silent : (retryStep peer state op).1 = ⟨[], []⟩) : Simulates state peer op .idle where
  step := by rw [same, silent]; rfl
  permitted := trivial
  times := List.nil_sublist _

/-- Where the history of the peer is not evicted, the operations about others leave it as it is. -/
theorem history_eq_of_unevicted {state after : DhtProviderState PeerId} {peer : PeerId}
    (gone : after.history peer = none ∨ after.history peer = state.history peer)
    (kept : (state.history peer).isSome → (after.history peer).isSome) :
    after.history peer = state.history peer := by
  rcases gone with gone | same
  · cases known : state.history peer with
    | none => exact gone
    | some retry =>
      rw [known, gone] at kept
      cases kept rfl
  · exact same

theorem ask_simulates (peer : PeerId) (gate : Gate) (other : PeerId) (second : ℕ) :
    ∃ history, Simulates state peer (.ask gate other second) history := by
  by_cases asked : state.Asked other gate
  · have histories := (ask_of_asked state asked second).2.2 peer
    by_cases same : other = peer
    · subst same
      rw [if_pos rfl] at histories
      refine ⟨.ask second, ⟨?_, trivial, List.Sublist.refl _⟩⟩
      show historyStep _ _ = ((⟨startNote (state.history other) ((state.ask other second gate).2.history other),
        []⟩ : RetryNotes), (state.ask other second gate).2.history other)
      rw [histories]
      rfl
    · rw [if_neg (Ne.symm same)] at histories
      refine ⟨.idle, .idle state histories ?_⟩
      show (⟨startNote _ _, []⟩ : RetryNotes) = _
      rw [histories, startNote_self]
  · refine ⟨.idle, .idle state ?_ ?_⟩
    · show (state.ask other second gate).2.history peer = _
      rw [ask_of_not_asked state asked]
    · show (⟨startNote _ _, []⟩ : RetryNotes) = _
      rw [ask_of_not_asked state asked, startNote_self]

/-- A refused connection only asks the gate. -/
theorem connect_of_refused (peer : PeerId) {gate : Gate} {other : PeerId} {gateAt : ℕ} (markAt : ℕ)
    (refused : (state.ask other gateAt gate).1 = false) :
    retryStep peer state (.connect gate other gateAt markAt)
      = retryStep peer state (.ask gate other gateAt) := by
  simp only [retryStep]
  generalize state.ask other gateAt gate = answer at refused ⊢
  obtain ⟨allowed, asked⟩ := answer
  cases refused
  rfl

theorem connect_of_allowed (peer : PeerId) {gate : Gate} {other : PeerId} {gateAt : ℕ} (markAt : ℕ)
    (allowed : (state.ask other gateAt gate).1 = true) :
    let asked := (state.ask other gateAt gate).2
    let marked := asked.markAutoConnectAttempted other markAt
    retryStep peer state (.connect gate other gateAt markAt)
      = (⟨stateNote peer state asked ++ stateNote peer asked marked,
        if other = peer then [(windowOf peer marked, markAt)] else []⟩, marked) := by
  simp only [retryStep]
  generalize state.ask other gateAt gate = answer at allowed ⊢
  obtain ⟨answered, asked⟩ := answer
  cases allowed
  rfl

theorem connect_simulates {peer : PeerId} {gate : Gate} {other : PeerId} {gateAt markAt : ℕ}
    (unevicted : Unevicted peer state (.connect gate other gateAt markAt)) :
    ∃ history, Simulates state peer (.connect gate other gateAt markAt) history := by
  cases allowed : (state.ask other gateAt gate).1 with
  | false =>
    obtain ⟨history, simulates⟩ := ask_simulates state peer gate other gateAt
    have same := connect_of_refused state peer markAt allowed
    refine ⟨history, ⟨?_, simulates.permitted, simulates.times.trans ?_⟩⟩
    · rw [same]
      exact simulates.step
    · exact List.sublist_append_left [gateAt] [markAt]
  | true =>
    have asked : state.Asked other gate := by
      by_contra closed
      rw [ask_of_not_asked state closed] at allowed
      cases allowed
    obtain ⟨answer, attempted, histories⟩ := ask_of_asked state asked gateAt
    have fresh : other ∉ (state.ask other gateAt gate).2.attemptedPeers.peers := by
      rw [attempted]
      cases gate with
      | providerResult => exact asked.2
      | addrUpdate => exact asked
    have result := connect_of_allowed state peer markAt allowed
    unfold Unevicted at unevicted
    rw [result] at unevicted
    have marked := mark_history (state.ask other gateAt gate).2 fresh markAt peer
    by_cases same : other = peer
    · subst same
      rw [if_pos rfl] at unevicted marked
      have present := marked.resolve_left fun gone => by
        have kept := unevicted (.inr (List.cons_ne_nil _ _))
        rw [gone] at kept
        cases kept
      have own := histories other
      rw [if_pos rfl] at own
      rw [own] at present
      refine ⟨.connect gateAt markAt, ⟨?_, answer.symm.trans allowed, List.Sublist.refl _⟩⟩
      rw [result, if_pos rfl]
      unfold stateNote windowOf
      rw [own, present]
      rfl
    · have own := histories peer
      rw [if_neg (Ne.symm same)] at own marked
      rw [own] at marked
      have kept := history_eq_of_unevicted marked fun known => unevicted (.inl known)
      refine ⟨.idle, .idle state ?_ ?_⟩
      · rw [result]
        exact kept
      · rw [result, if_neg same]
        unfold stateNote
        rw [own, kept, startNote_self]
        rfl

/-- **One operation** is an operation on the history of the peer. -/
theorem retryStep_simulates {peer : PeerId} {op : RetryOp PeerId} (gated : op.GatedFor peer)
    (unevicted : Unevicted peer state op) : ∃ history, Simulates state peer op history := by
  have quiet : op.IsQuietMark → (retryStep peer state op).1
      = ⟨stateNote peer state (retryStep peer state op).2, []⟩ →
      ∃ history, Simulates state peer op history := by
    intro quiet notes
    have same := quietMark_history state peer quiet
    refine ⟨.idle, .idle state same ?_⟩
    rw [notes, stateNote, same, startNote_self]
  cases op with
  | connect gate other gateAt markAt => exact connect_simulates state unevicted
  | ask gate other second => exact ask_simulates state peer gate other second
  | markAttempted other second =>
    have kept : (state.markAutoConnectAttempted other second).history peer = state.history peer := by
      by_cases attempted : other ∈ state.attemptedPeers.peers
      · exact mark_history_of_mem state attempted second peer
      · have marked := mark_history state attempted second peer
        rw [if_neg (Ne.symm gated)] at marked
        exact history_eq_of_unevicted marked fun known => unevicted (.inl known)
    refine ⟨.idle, .idle state kept ?_⟩
    show (⟨startNote _ _, []⟩ : RetryNotes) = _
    rw [kept, startNote_self]
  | markWaiting other => exact quiet trivial rfl
  | markFailed other => exact quiet trivial rfl
  | markDisconnected other => exact quiet trivial rfl

end Simulation

/-! ### Invariants of a history -/

/-- One more attempt: in a new window, or the next one of the old window. -/
theorem attempt_case (retry : AutoConnectRetryState) (second : ℕ) :
    ((retry.windowStartedUnixSecs = 0 ∨ retry.windowStartedUnixSecs + 300 ≤ second) ∧
      retry.attempt second = ⟨1, second, second⟩) ∨
    ((retry.windowStartedUnixSecs ≠ 0 ∧ second < retry.windowStartedUnixSecs + 300) ∧
      ∃ attempts, retry.attempt second = ⟨attempts, retry.windowStartedUnixSecs, second⟩ ∧
        (retry.attempts < 8 → attempts.toNat = retry.attempts.toNat + 1)) := by
  unfold AutoConnectRetryState.attempt autoConnectRetryWindowSecs
  by_cases anew : retry.windowStartedUnixSecs = 0 ∨ second - retry.windowStartedUnixSecs ≥ 300
  · refine .inl ⟨anew.imp_right fun expired => by omega, ?_⟩
    rw [if_pos anew]
    rfl
  · rw [not_or] at anew
    refine .inr ⟨⟨anew.1, by omega⟩, ?_⟩
    rw [if_neg (not_or.mpr anew)]
    refine ⟨_, rfl, fun few => ?_⟩
    have small : retry.attempts.toNat < 8 := UInt32.lt_iff_toNat_lt.mp few
    have next : min (retry.attempts.toNat + 1) (2 ^ 32 - 1) = retry.attempts.toNat + 1 := by omega
    rw [next]
    exact UInt32.toNat_ofNat_of_lt' (show retry.attempts.toNat + 1 < 2 ^ 32 by omega)

/-- What a gate leaves: a new window, or the history as it was. -/
theorem gate_case (retry : AutoConnectRetryState) (second : ℕ) :
    (retry.windowStartedUnixSecs + 300 ≤ second ∧ retry.gate second = (true, ⟨0, second, 0⟩)) ∨
    ((retry.gate second).2 = retry ∧ ((retry.gate second).1 = true →
      retry.attempts < 8 ∧ retry.lastAttemptUnixSecs + 5 ≤ second)) := by
  unfold AutoConnectRetryState.gate autoConnectRetryWindowSecs
  by_cases expired : second - retry.windowStartedUnixSecs ≥ 300
  · rw [if_pos expired]
    exact .inl ⟨by omega, rfl⟩
  · rw [if_neg expired]
    refine .inr ⟨rfl, fun passed => ?_⟩
    rw [Bool.and_eq_true, decide_eq_true_eq, decide_eq_true_eq] at passed
    have cooled : second - retry.lastAttemptUnixSecs ≥ 5 := passed.2
    exact ⟨passed.1, by omega⟩

/-- **What the history remembers of the attempts**, at a reading of the clock. -/
structure Recorded (clock : ℕ) (attempts : List (ℕ × ℕ)) (history : Option AutoConnectRetryState) : Prop where
  fresh : history = none → attempts = []
  window_le : ∀ retry, history = some retry → retry.windowStartedUnixSecs ≤ clock
  earlier : ∀ retry, history = some retry → ∀ attempt ∈ attempts, attempt.1 ≤ retry.windowStartedUnixSecs
  last : ∀ retry, history = some retry → ∀ attempt ∈ attempts.getLast?,
    attempt.1 = retry.windowStartedUnixSecs → attempt.2 = retry.lastAttemptUnixSecs
  inside : ∀ attempt ∈ attempts, attempt.1 ≤ attempt.2
  cooled : attempts.IsChain fun one next => one.1 ≤ next.1 ∧ (one.1 = next.1 → one.2 + 5 ≤ next.2)

/-- A gate has let the peer pass. -/
structure Passed (gateAt : ℕ) (attempts : List (ℕ × ℕ)) (history : Option AutoConnectRetryState) : Prop where
  few : ∀ retry, history = some retry → retry.attempts < 8
  cooled : ∀ retry, history = some retry → ∀ attempt ∈ attempts.getLast?,
    attempt.1 = retry.windowStartedUnixSecs → attempt.2 + 5 ≤ gateAt

namespace Recorded

variable {clock : ℕ} {attempts : List (ℕ × ℕ)} {history : Option AutoConnectRetryState}

theorem mono (recorded : Recorded clock attempts history) {later : ℕ} (passed : clock ≤ later) :
    Recorded later attempts history :=
  { recorded with window_le := fun retry known => (recorded.window_le retry known).trans passed }

/-- The history in a window that starts now. -/
theorem anew (recorded : Recorded clock attempts history) {retry : AutoConnectRetryState}
    (known : history = some retry) (expired : retry.windowStartedUnixSecs + 300 ≤ clock) :
    Recorded clock attempts (some ⟨0, clock, 0⟩) ∧ Passed clock attempts (some ⟨0, clock, 0⟩) := by
  -- no attempt lies in the new window
  have outside : ∀ attempt ∈ attempts, attempt.1 < clock := by
    intro attempt member
    have window := recorded.earlier retry known attempt member
    omega
  refine ⟨⟨nofun, ?_, ?_, ?_, recorded.inside, recorded.cooled⟩, ⟨?_, ?_⟩⟩
  · rintro _ ⟨⟩
    exact le_rfl
  · rintro _ ⟨⟩ attempt member
    exact (outside attempt member).le
  · rintro _ ⟨⟩ attempt member window
    exact absurd window (outside attempt (List.mem_of_getLast? member)).ne
  · rintro _ ⟨⟩
    exact (by decide : (0 : UInt32) < 8)
  · rintro _ ⟨⟩ attempt member window
    exact absurd window (outside attempt (List.mem_of_getLast? member)).ne

theorem ask (recorded : Recorded clock attempts history) :
    Recorded clock attempts (askHistory history clock) ∧
      (passes history clock = true → Passed clock attempts (askHistory history clock)) := by
  cases history with
  | none => exact ⟨recorded, fun _ => ⟨nofun, nofun⟩⟩
  | some retry =>
    unfold askHistory passes
    rw [Option.map_some, Option.map_some, Option.getD_some]
    rcases gate_case retry clock with ⟨expired, gate⟩ | ⟨same, open_⟩
    · rw [gate]
      exact ⟨(recorded.anew rfl expired).1, fun _ => (recorded.anew rfl expired).2⟩
    · rw [same]
      refine ⟨recorded, fun passed => ⟨?_, ?_⟩⟩
      · rintro _ ⟨⟩
        exact (open_ passed).1
      · rintro _ ⟨⟩ attempt member window
        have second := recorded.last retry rfl attempt member window
        have waited := (open_ passed).2
        omega

/-- The attempt that follows a gate. -/
theorem mark (recorded : Recorded clock attempts history) (passed : Passed clock attempts history)
    {second : ℕ} (later : clock ≤ second) :
    Recorded second
      (attempts ++ [((markHistory history second).windowStartedUnixSecs, second)])
      (some (markHistory history second)) := by
  have last : ∀ {one : ℕ × ℕ}, one ∈ (attempts ++
      [((markHistory history second).windowStartedUnixSecs, second)]).getLast? →
      one = ((markHistory history second).windowStartedUnixSecs, second) := by
    intro one member
    rw [List.getLast?_append, List.getLast?_singleton] at member
    exact (Option.some_inj.mp member).symm
  obtain ⟨marked, earlier, cooled⟩ : (markHistory history second).windowStartedUnixSecs ≤ second ∧
      (∀ attempt ∈ attempts, attempt.1 ≤ (markHistory history second).windowStartedUnixSecs) ∧
      ∀ attempt ∈ attempts.getLast?, attempt.1 = (markHistory history second).windowStartedUnixSecs →
        attempt.2 + 5 ≤ second := by
    cases history with
    | none =>
      rw [recorded.fresh rfl]
      refine ⟨?_, nofun, nofun⟩
      rcases attempt_case .zero second with ⟨-, attempt⟩ | ⟨⟨nonzero, -⟩, -⟩
      · exact (congrArg AutoConnectRetryState.windowStartedUnixSecs attempt).le
      · exact absurd rfl nonzero
    | some retry =>
      have before := recorded.window_le retry rfl
      obtain ⟨grows, bounded⟩ : retry.windowStartedUnixSecs ≤ (retry.attempt second).windowStartedUnixSecs ∧
          (retry.attempt second).windowStartedUnixSecs ≤ second := by
        rcases attempt_case retry second with ⟨-, attempt⟩ | ⟨-, _, attempt, -⟩
        · rw [attempt]
          exact ⟨before.trans later, le_rfl⟩
        · rw [attempt]
          exact ⟨le_rfl, before.trans later⟩
      refine ⟨bounded, fun attempt member => (recorded.earlier retry rfl attempt member).trans grows, ?_⟩
      intro attempt member window
      have inside := recorded.earlier retry rfl attempt (List.mem_of_getLast? member)
      have same : attempt.1 = retry.windowStartedUnixSecs :=
        le_antisymm inside (grows.trans_eq window.symm)
      exact (passed.cooled retry rfl attempt member same).trans later
  refine ⟨nofun, ?_, ?_, ?_, ?_, ?_⟩
  · rintro _ ⟨⟩
    exact marked
  · rintro _ ⟨⟩ attempt member
    rcases List.mem_append.mp member with old | new
    · exact earlier attempt old
    · rw [List.mem_singleton.mp new]
  · rintro _ ⟨⟩ attempt member -
    rw [last member]
    rfl
  · intro attempt member
    rcases List.mem_append.mp member with old | new
    · exact recorded.inside attempt old
    · rw [List.mem_singleton.mp new]
      exact marked
  · refine List.isChain_append.mpr ⟨recorded.cooled, List.isChain_singleton _, ?_⟩
    intro one member next new
    rw [List.head?_singleton] at new
    cases new
    exact ⟨earlier one (List.mem_of_getLast? member), cooled one member⟩

end Recorded

/-- The number of attempts in a window. -/
def attemptsIn (attempts : List (ℕ × ℕ)) (window : ℕ) : ℕ := (attempts.filter (·.1 = window)).length

theorem attemptsIn_concat (attempts : List (ℕ × ℕ)) (window second other : ℕ) :
    attemptsIn (attempts ++ [(window, second)]) other
      = attemptsIn attempts other + if window = other then 1 else 0 := by
  unfold attemptsIn
  rw [List.filter_append, List.length_append]
  split_ifs with same <;> simp [same]

theorem attemptsIn_eq_zero {attempts : List (ℕ × ℕ)} {window : ℕ}
    (outside : ∀ attempt ∈ attempts, attempt.1 < window) : attemptsIn attempts window = 0 := by
  unfold attemptsIn
  rw [List.length_eq_zero_iff, List.filter_eq_nil_iff]
  exact fun attempt member inside => (outside attempt member).ne (of_decide_eq_true inside)

/-- **What the history counts**: its window is the last one that started, and its counter the number of
attempts there. -/
structure Counted (starts : List ℕ) (attempts : List (ℕ × ℕ)) (history : Option AutoConnectRetryState) :
    Prop where
  fresh : history = none → starts = [] ∧ attempts = []
  started : ∀ retry, history = some retry → starts.getLast? = some retry.windowStartedUnixSecs ∧
    0 < retry.windowStartedUnixSecs ∧ retry.attempts.toNat = attemptsIn attempts retry.windowStartedUnixSecs
  listed : ∀ attempt ∈ attempts, attempt.1 ∈ starts
  spaced : starts.IsChain fun one next => one + 300 ≤ next
  capped : ∀ window, attemptsIn attempts window ≤ 8

namespace Counted

variable {clock : ℕ} {starts : List ℕ} {attempts : List (ℕ × ℕ)} {history : Option AutoConnectRetryState}

/-- A window that starts after the last one is over. -/
theorem spaced_concat {retry : AutoConnectRetryState} (counted : Counted starts attempts (some retry))
    {second : ℕ} (expired : retry.windowStartedUnixSecs + 300 ≤ second) :
    (starts ++ [second]).IsChain fun one next => one + 300 ≤ next := by
  refine List.isChain_append.mpr ⟨counted.spaced, List.isChain_singleton _, fun one member next new => ?_⟩
  rw [(counted.started retry rfl).1, Option.mem_some_iff] at member
  rw [List.head?_singleton, Option.mem_some_iff] at new
  omega

theorem startNote_of_ne {retry after : AutoConnectRetryState}
    (different : retry.windowStartedUnixSecs ≠ after.windowStartedUnixSecs) :
    startNote (some retry) (some after) = [after.windowStartedUnixSecs] := by
  unfold startNote
  exact if_neg fun same => different (Option.some_inj.mp same)

theorem ask (counted : Counted starts attempts history) (recorded : Recorded clock attempts history) :
    Counted (starts ++ startNote history (askHistory history clock)) attempts (askHistory history clock) := by
  cases history with
  | none =>
    show Counted (starts ++ []) attempts none
    rw [List.append_nil]
    exact counted
  | some retry =>
    unfold askHistory
    rw [Option.map_some]
    rcases gate_case retry clock with ⟨expired, gate⟩ | ⟨same, -⟩
    · have outside : ∀ attempt ∈ attempts, attempt.1 < clock := by
        intro attempt member
        have window := recorded.earlier retry rfl attempt member
        omega
      rw [gate, startNote_of_ne (by simp only; omega)]
      refine ⟨nofun, ?_, fun attempt member => List.mem_append_left _ (counted.listed attempt member),
        counted.spaced_concat expired, counted.capped⟩
      rintro _ ⟨⟩
      refine ⟨List.getLast?_concat, ?_, (attemptsIn_eq_zero outside).symm⟩
      show 0 < clock
      omega
    · rw [same, startNote_self, List.append_nil]
      exact counted

theorem mark (counted : Counted starts attempts history) (recorded : Recorded clock attempts history)
    (passed : Passed clock attempts history) {second : ℕ} (positive : 0 < second) :
    Counted (starts ++ startNote history (some (markHistory history second)))
      (attempts ++ [((markHistory history second).windowStartedUnixSecs, second)])
      (some (markHistory history second)) := by
  cases history with
  | none =>
    obtain ⟨noStarts, noAttempts⟩ := counted.fresh rfl
    have first : markHistory none second = ⟨1, second, second⟩ := by
      rcases attempt_case .zero second with ⟨-, attempt⟩ | ⟨⟨nonzero, -⟩, -⟩
      · exact attempt
      · exact absurd rfl nonzero
    rw [first, noStarts, noAttempts]
    refine ⟨nofun, ?_, fun attempt member => ?_, List.isChain_singleton _, fun window => ?_⟩
    · rintro _ ⟨⟩
      refine ⟨rfl, positive, ?_⟩
      rw [attemptsIn_concat, if_pos rfl]
      rfl
    · rw [List.mem_singleton.mp member]
      exact List.mem_cons_self
    · rw [attemptsIn_concat]
      split_ifs <;> simp [attemptsIn]
  | some retry =>
    obtain ⟨lastStart, nonzero, counter⟩ := counted.started retry rfl
    have few : retry.attempts.toNat < 8 := UInt32.lt_iff_toNat_lt.mp (passed.few retry rfl)
    unfold markHistory
    rw [Option.getD_some]
    rcases attempt_case retry second with ⟨anew, attempt⟩ | ⟨-, count, attempt, next⟩
    · have expired : retry.windowStartedUnixSecs + 300 ≤ second := anew.resolve_left nonzero.ne'
      have outside : ∀ attempt ∈ attempts, attempt.1 < second := by
        intro attempt member
        have window := recorded.earlier retry rfl attempt member
        omega
      rw [attempt, startNote_of_ne (by simp only; omega)]
      refine ⟨nofun, ?_, fun attempt member => ?_, counted.spaced_concat expired, fun window => ?_⟩
      · rintro _ ⟨⟩
        refine ⟨List.getLast?_concat, positive, ?_⟩
        rw [attemptsIn_concat, attemptsIn_eq_zero outside, if_pos rfl]
        rfl
      · exact List.mem_append.mpr ((List.mem_append.mp member).imp (counted.listed attempt) fun new => by
          rw [List.mem_singleton.mp new]
          exact List.mem_cons_self)
      · rw [attemptsIn_concat]
        split_ifs with same
        · rw [← same, attemptsIn_eq_zero outside]
          omega
        · exact counted.capped window
    · rw [attempt]
      have quiet : startNote (some retry) (some ⟨count, retry.windowStartedUnixSecs, second⟩) = [] := if_pos rfl
      rw [quiet, List.append_nil]
      refine ⟨nofun, ?_, fun attempt member => ?_, counted.spaced, fun window => ?_⟩
      · rintro _ ⟨⟩
        refine ⟨lastStart, nonzero, ?_⟩
        rw [attemptsIn_concat, if_pos rfl, next (passed.few retry rfl), counter]
      · rcases List.mem_append.mp member with old | new
        · exact counted.listed attempt old
        · rw [List.mem_singleton.mp new]
          exact List.mem_of_getLast? lastStart
      · rw [attemptsIn_concat]
        split_ifs with same
        · rw [← same, ← counter]
          omega
        · exact counted.capped window

end Counted

/-! ### Runs of a history -/

def historyLog (ops : List HistoryOp) : RetryNotes where
  starts := (outputs historyStep none ops).flatMap (·.starts)
  attempts := (outputs historyStep none ops).flatMap (·.attempts)

theorem historyLog_concat (ops : List HistoryOp) (op : HistoryOp) : historyLog (ops ++ [op])
    = ⟨(historyLog ops).starts ++ (historyStep (final historyStep none ops) op).1.starts,
      (historyLog ops).attempts ++ (historyStep (final historyStep none ops) op).1.attempts⟩ := by
  simp [historyLog, outputs_concat]

/-- **A run of a history**, with a clock that does not go back. -/
theorem history_run {ops : List HistoryOp} (clocked : (ops.flatMap HistoryOp.times).Pairwise (· ≤ ·))
    (permitted : Each historyStep Permitted none ops) {clock : ℕ}
    (bound : ∀ time ∈ ops.flatMap HistoryOp.times, time ≤ clock) :
    Recorded clock (historyLog ops).attempts (final historyStep none ops) ∧
      ((∀ attempt ∈ (historyLog ops).attempts, 0 < attempt.2) →
        Counted (historyLog ops).starts (historyLog ops).attempts (final historyStep none ops)) := by
  induction ops using List.reverseRecOn generalizing clock with
  | nil =>
    refine ⟨⟨fun _ => rfl, nofun, nofun, nofun, nofun, .nil⟩, fun _ => ?_⟩
    exact ⟨fun _ => ⟨rfl, rfl⟩, nofun, nofun, .nil, fun _ => Nat.zero_le _⟩
  | append_singleton ops op ih =>
    rw [List.flatMap_append, List.flatMap_singleton, List.pairwise_append] at clocked
    obtain ⟨earlier, here, between⟩ := clocked
    obtain ⟨permittedEarlier, permittedHere⟩ := (each_concat _).mp permitted
    rw [List.flatMap_append, List.flatMap_singleton] at bound
    rw [historyLog_concat, final_concat]
    have ih := fun reading => @ih earlier permittedEarlier reading
    generalize final historyStep none ops = history at ih permittedHere ⊢
    cases op with
    | idle =>
      have before := ih clock fun time member => bound time (List.mem_append_left _ member)
      simp only [historyStep, List.append_nil]
      exact before
    | ask second =>
      obtain ⟨recorded, counted⟩ := ih second fun time member => between time member second List.mem_cons_self
      have now : second ≤ clock := bound second (List.mem_append_right _ List.mem_cons_self)
      simp only [historyStep, List.append_nil]
      exact ⟨recorded.ask.1.mono now, fun positive => (counted positive).ask recorded⟩
    | connect gateAt markAt =>
      obtain ⟨recorded, counted⟩ := ih gateAt fun time member => between time member gateAt List.mem_cons_self
      have forward : gateAt ≤ markAt := List.rel_of_pairwise_cons here List.mem_cons_self
      have now : markAt ≤ clock := bound markAt (List.mem_append_right _ (List.mem_cons_of_mem _ List.mem_cons_self))
      have asked := recorded.ask
      have passed := asked.2 permittedHere
      simp only [historyStep, ← List.append_assoc]
      refine ⟨(asked.1.mark passed forward).mono now, fun positive => ?_⟩
      have older := counted fun attempt member => positive attempt (List.mem_append_left _ member)
      exact (older.ask recorded).mark asked.1 passed
        (positive _ (List.mem_append_right _ List.mem_cons_self))

/-- **A run over all peers is a run of one history.** -/
theorem run_history {peer : PeerId} {start : DhtProviderState PeerId} (unknown : start.history peer = none)
    {ops : List (RetryOp PeerId)} (gated : ∀ op ∈ ops, op.GatedFor peer)
    (unevicted : Each (retryStep peer) (Unevicted peer) start ops) :
    ∃ histories : List HistoryOp, outputs historyStep none histories = outputs (retryStep peer) start ops ∧
      final historyStep none histories = (final (retryStep peer) start ops).history peer ∧
      Each historyStep Permitted none histories ∧
      (histories.flatMap HistoryOp.times).Sublist (ops.flatMap RetryOp.times) := by
  induction ops using List.reverseRecOn with
  | nil => exact ⟨[], rfl, unknown.symm, each_nil _ _ _, List.Sublist.refl _⟩
  | append_singleton ops op ih =>
    obtain ⟨unevictedEarlier, unevictedHere⟩ := (each_concat _).mp unevicted
    obtain ⟨histories, notes, history, permitted, times⟩ :=
      ih (fun earlier member => gated earlier (List.mem_append_left _ member)) unevictedEarlier
    obtain ⟨next, simulates⟩ := retryStep_simulates (final (retryStep peer) start ops)
      (gated op (List.mem_append_right _ List.mem_cons_self)) unevictedHere
    have step := simulates.step
    rw [← history] at step
    refine ⟨histories ++ [next], ?_, ?_, (each_concat _).mpr ⟨permitted, ?_⟩, ?_⟩
    · rw [outputs_concat, outputs_concat, notes, step]
    · rw [final_concat, final_concat, step]
    · rw [history]
      exact simulates.permitted
    · rw [List.flatMap_append, List.flatMap_append, List.flatMap_singleton, List.flatMap_singleton]
      exact times.append simulates.times

/-! ### The cap and the cooldown -/

section Run

variable {peer : PeerId} {start : DhtProviderState PeerId} {ops : List (RetryOp PeerId)}

/-- The invariants of the history, about a run over all peers. -/
theorem retry_run (unknown : start.history peer = none)
    (clocked : (ops.flatMap RetryOp.times).Pairwise (· ≤ ·)) (gated : ∀ op ∈ ops, op.GatedFor peer)
    (unevicted : Each (retryStep peer) (Unevicted peer) start ops) :
    (∃ clock, Recorded clock (retryLog peer start ops).attempts
      ((final (retryStep peer) start ops).history peer)) ∧
    ((∀ attempt ∈ (retryLog peer start ops).attempts, 0 < attempt.2) →
      Counted (retryLog peer start ops).starts (retryLog peer start ops).attempts
        ((final (retryStep peer) start ops).history peer)) := by
  obtain ⟨histories, notes, history, permitted, times⟩ := run_history unknown gated unevicted
  have run := history_run (clocked.sublist times) permitted
    fun time member => List.le_sum_of_mem member
  have log : historyLog histories = retryLog peer start ops := by
    unfold historyLog retryLog
    rw [notes]
  rw [log, history] at run
  exact ⟨⟨_, run.1⟩, run.2⟩

/-- **The cap on attempts.** Along a run with a clock that does not go back, in which the peer is marked as
attempted only after a gate let it pass and its history is not evicted: if no attempt is marked at second 0,
its windows start at least 300 s apart, every attempt lies in one of them, none of them holds more than
eight attempts, and the history counts those of the last one. Connecting, failing and disconnecting leave
the history as it is. -/
theorem attempt_cap (unknown : start.history peer = none)
    (clocked : (ops.flatMap RetryOp.times).Pairwise (· ≤ ·)) (gated : ∀ op ∈ ops, op.GatedFor peer)
    (unevicted : Each (retryStep peer) (Unevicted peer) start ops)
    (positive : ∀ attempt ∈ (retryLog peer start ops).attempts, 0 < attempt.2) :
    let log := retryLog peer start ops
    log.starts.IsChain (fun one next => one + autoConnectRetryWindowSecs ≤ next) ∧
    (∀ attempt ∈ log.attempts, attempt.1 ∈ log.starts) ∧
    (∀ window, attemptsIn log.attempts window ≤ maxAutoConnectAttemptsPerWindow.toNat) ∧
    (∀ retry, (final (retryStep peer) start ops).history peer = some retry →
      log.starts.getLast? = some retry.windowStartedUnixSecs ∧
        retry.attempts.toNat = attemptsIn log.attempts retry.windowStartedUnixSecs) ∧
    ∀ (state : DhtProviderState PeerId) (op : RetryOp PeerId), op.IsQuietMark →
      (retryStep peer state op).2.history peer = state.history peer := by
  have counted := (retry_run unknown clocked gated unevicted).2 positive
  refine ⟨counted.spaced, counted.listed, counted.capped, fun retry known => ?_,
    fun state op => quietMark_history state peer⟩
  obtain ⟨lastStart, -, counter⟩ := counted.started retry known
  exact ⟨lastStart, counter⟩

end Run

namespace Flapping

def peer : KeyPeer := ⟨1⟩

/-- An attempt, with gate and mark at one second. -/
def attemptAt (second : ℕ) : RetryOp KeyPeer := .connect .providerResult peer second second

/-- Two attempts in one window, and one in the next. -/
def patient : List (RetryOp KeyPeer) :=
  [attemptAt 1000, .markFailed peer, attemptAt 1005, .markDisconnected peer, attemptAt 1300]

/-- Attempts at the second that stands for no window, and after it. -/
def atEpoch : List (RetryOp KeyPeer) := [attemptAt 0, .markFailed peer, attemptAt 5]

theorem unknown : (DhtProviderState.empty : DhtProviderState KeyPeer).history peer = none := rfl

theorem patient_gated : ∀ op ∈ patient, op.GatedFor peer := by
  simp [patient, attemptAt, RetryOp.GatedFor]

theorem patient_unevicted : Each (retryStep peer) (Unevicted peer) .empty patient := by
  simp only [patient, each_cons]
  exact ⟨fun _ => by decide, fun _ => by decide, fun _ => by decide,
    fun _ => by decide, fun _ => by decide, each_nil _ _ _⟩

theorem patient_attempts :
    (retryLog peer .empty patient).attempts = [(1000, 1000), (1000, 1005), (1300, 1300)] := by
  decide

theorem attempt_cap_patient : (∀ attempt ∈ (retryLog peer .empty patient).attempts, 0 < attempt.2) ∧
    ∀ window, attemptsIn (retryLog peer .empty patient).attempts window ≤ 8 := by
  have positive : ∀ attempt ∈ (retryLog peer .empty patient).attempts, 0 < attempt.2 := by
    rw [patient_attempts]
    decide
  have cap := attempt_cap unknown (by decide) patient_gated patient_unevicted positive
  exact ⟨positive, cap.2.2.1⟩

/-- A window that starts at second 0 is started anew by the next mark. -/
theorem window_restarts :
    (atEpoch.flatMap RetryOp.times).Pairwise (· ≤ ·) ∧ (∀ op ∈ atEpoch, op.GatedFor peer) ∧
      Each (retryStep peer) (Unevicted peer) .empty atEpoch ∧
      (retryLog peer .empty atEpoch).attempts = [(0, 0), (5, 5)] ∧
      (retryLog peer .empty atEpoch).starts = [0, 5] ∧
      ¬ (retryLog peer .empty atEpoch).starts.IsChain
        (fun one next => one + autoConnectRetryWindowSecs ≤ next) := by
  have noted : (retryLog peer .empty atEpoch).starts = [0, 5] := by decide
  refine ⟨by decide, by simp [atEpoch, attemptAt, RetryOp.GatedFor], ?_, by decide,
    noted, ?_⟩
  · simp only [atEpoch, each_cons]
    exact ⟨fun _ => by decide, fun _ => by decide, fun _ => by decide,
      each_nil _ _ _⟩
  · rw [noted, List.isChain_pair]
    decide

end Flapping

section Cooldown

variable {peer : PeerId} {start : DhtProviderState PeerId} {ops : List (RetryOp PeerId)}

/-- Of two starts the later one comes 300 s after the other. -/
theorem starts_apart {starts : List ℕ} (spaced : starts.IsChain fun one next => one + 300 ≤ next)
    {one next : ℕ} (first : one ∈ starts) (second : next ∈ starts) (before : one < next) :
    one + 300 ≤ next := by
  have : Trans (fun one next : ℕ => one + 300 ≤ next) (fun one next => one + 300 ≤ next)
      fun one next => one + 300 ≤ next := ⟨by omega⟩
  have far := spaced.pairwise
  have apart : ∀ one ∈ starts, ∀ next ∈ starts, one < next → one + 300 ≤ next := by
    apply List.Pairwise.forall_of_forall_of_flip
    · intro one _ before
      omega
    · refine far.imp ?_
      intro one next later _
      exact later
    · refine far.imp ?_
      intro one next later (back : next < one)
      omega
  exact apart one first next second before

/-- **The cooldown.** Along the same runs, attempts are 5 s apart exactly when those in different windows
are: the gate does not look at the last attempt when it starts a window anew. So they are, if none is
marked at second 0 or in the last 5 s of its window. -/
theorem cooldown_iff (unknown : start.history peer = none)
    (clocked : (ops.flatMap RetryOp.times).Pairwise (· ≤ ·)) (gated : ∀ op ∈ ops, op.GatedFor peer)
    (unevicted : Each (retryStep peer) (Unevicted peer) start ops) :
    let attempts := (retryLog peer start ops).attempts
    (attempts.IsChain (fun one next => one.2 + autoConnectRetryCooldownSecs ≤ next.2) ↔
      attempts.IsChain (fun one next => one.1 ≠ next.1 → one.2 + autoConnectRetryCooldownSecs ≤ next.2)) ∧
    ((∀ attempt ∈ attempts, 0 < attempt.2 ∧
        attempt.2 + autoConnectRetryCooldownSecs ≤ attempt.1 + autoConnectRetryWindowSecs) →
      attempts.IsChain (fun one next => one.2 + autoConnectRetryCooldownSecs ≤ next.2)) := by
  obtain ⟨⟨clock, recorded⟩, counts⟩ := retry_run unknown clocked gated unevicted
  have cooled := List.isChain_iff_getElem.mp recorded.cooled
  have across : (retryLog peer start ops).attempts.IsChain
        (fun one next => one.1 ≠ next.1 → one.2 + autoConnectRetryCooldownSecs ≤ next.2) →
      (retryLog peer start ops).attempts.IsChain
        fun one next => one.2 + autoConnectRetryCooldownSecs ≤ next.2 := by
    intro apart
    rw [List.isChain_iff_getElem] at apart ⊢
    intro position within
    by_cases same : (retryLog peer start ops).attempts[position].1
        = (retryLog peer start ops).attempts[position + 1].1
    · exact (cooled position within).2 same
    · exact apart position within same
  refine ⟨⟨fun spaced => spaced.imp fun _ _ far _ => far, across⟩, fun early => across ?_⟩
  have counted := counts fun attempt member => (early attempt member).1
  refine recorded.cooled.imp_of_mem_imp fun one next first second order other => ?_
  have window := starts_apart counted.spaced (counted.listed one first) (counted.listed next second)
    (lt_of_le_of_ne order.1 other)
  calc one.2 + autoConnectRetryCooldownSecs
    _ ≤ one.1 + autoConnectRetryWindowSecs := (early one first).2
    _ ≤ next.1 := window
    _ ≤ next.2 := recorded.inside next second

end Cooldown

namespace Flapping

/-- The last second of a window, and the first of the next. -/
def hasty : List (RetryOp KeyPeer) :=
  [attemptAt 1000, .markFailed peer, attemptAt 1299, .markFailed peer, attemptAt 1300]

theorem cooldown_iff_patient :
    (∀ attempt ∈ (retryLog peer .empty patient).attempts, 0 < attempt.2 ∧
        attempt.2 + autoConnectRetryCooldownSecs ≤ attempt.1 + autoConnectRetryWindowSecs) ∧
      (retryLog peer .empty patient).attempts.IsChain
        fun one next => one.2 + autoConnectRetryCooldownSecs ≤ next.2 := by
  have early : ∀ attempt ∈ (retryLog peer .empty patient).attempts, 0 < attempt.2 ∧
      attempt.2 + autoConnectRetryCooldownSecs ≤ attempt.1 + autoConnectRetryWindowSecs := by
    rw [patient_attempts]
    decide
  exact ⟨early, (cooldown_iff unknown (by decide) patient_gated patient_unevicted).2 early⟩

/-- Two attempts within a second, the second of them in a new window. -/
theorem attempts_one_second_apart :
    (hasty.flatMap RetryOp.times).Pairwise (· ≤ ·) ∧ (∀ op ∈ hasty, op.GatedFor peer) ∧
      Each (retryStep peer) (Unevicted peer) .empty hasty ∧
      (retryLog peer .empty hasty).attempts = [(1000, 1000), (1000, 1299), (1300, 1300)] ∧
      ¬ (retryLog peer .empty hasty).attempts.IsChain
        fun one next => one.2 + autoConnectRetryCooldownSecs ≤ next.2 := by
  have noted : (retryLog peer .empty hasty).attempts = [(1000, 1000), (1000, 1299), (1300, 1300)] := by
    decide
  refine ⟨by decide, by simp [hasty, attemptAt, RetryOp.GatedFor], ?_, noted, ?_⟩
  · simp only [hasty, each_cons]
    exact ⟨fun _ => by decide, fun _ => by decide, fun _ => by decide,
      fun _ => by decide, fun _ => by decide, each_nil _ _ _⟩
  · rw [noted, List.isChain_cons_cons, List.isChain_pair]
    decide

end Flapping

end P2pNet.Node
