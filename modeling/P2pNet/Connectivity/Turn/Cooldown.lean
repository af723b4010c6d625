/-
**Credential requests to one broker** (`should_request` and `forget_peer` of `crates/connectivity/turn/client.rs`).

A request is remembered for a minute, in which the broker is not asked again. When the last connection to the broker
closes, the request is forgotten with it.
-/

import P2pNet.Connectivity.Turn.Client

set_option linter.unusedSectionVars false

namespace P2pNet.Connectivity.Turn

open Lib TurnClientState

variable {PeerId Addr : Type} [PeerIdentity PeerId] [Multiaddr PeerId Addr]

/-- The reading of the clock that an operation is called with. -/
def ClientInput.time : ClientInput PeerId Addr → Option ℕ
  | .noteConnection .. | .forgetPeer _ | .markUnsupported _ => none
  | .shouldRequest _ now | .acceptFromBroker _ _ now | .acceptFromEndpoint _ _ now | .prune now => some now

/-- The clock does not go back. -/
def Clocked (inputs : List (ClientInput PeerId Addr)) : Prop :=
  inputs.Pairwise fun first second => ∀ earlier ∈ first.time, ∀ later ∈ second.time, earlier ≤ later

/-- Is the peer asked when the question comes after the given operations? -/
def Asks (cfg : TurnClientConfig) (inputs : List (ClientInput PeerId Addr)) (peer : PeerId) (now : ℕ) : Prop :=
  ((final clientStep (new PeerId cfg) inputs).shouldRequest peer now).1 = true

/-- Any two requests to one peer are a minute apart. -/
def Spaced (cfg : TurnClientConfig) (inputs : List (ClientInput PeerId Addr)) : Prop :=
  ∀ before middle after peer first second,
    inputs = before ++ .shouldRequest peer first :: (middle ++ .shouldRequest peer second :: after) →
    Asks cfg before peer first → Asks cfg (before ++ .shouldRequest peer first :: middle) peer second →
    first + requestCooldown ≤ second

/-! ### One question -/

theorem shouldRequest_cases (s : TurnClientState PeerId) (peer : PeerId) (now : ℕ) :
    s.shouldRequest peer now = (false, s) ∨
      s.shouldRequest peer now = (true, { s with requestedAt := s.requestedAt.insert peer now }) := by
  unfold shouldRequest
  split_ifs
  · exact .inl rfl
  · exact .inl rfl
  · exact .inr rfl

/-- There is no reason not to ask. -/
def Free (s : TurnClientState PeerId) (peer : PeerId) (now : ℕ) : Prop :=
  s.discovery ≠ none ∧ peer ∉ s.unsupported ∧ s.recentlyAsked peer now = false ∧ s.stillFresh peer now = false

/-- **When a peer is asked.** -/
theorem shouldRequest_eq_true_iff {s : TurnClientState PeerId} {peer : PeerId} {now : ℕ} :
    (s.shouldRequest peer now).1 = true ↔ Free s peer now := by
  unfold shouldRequest Free
  by_cases off : s.discovery = none ∨ peer ∈ s.unsupported
  · rw [if_pos off]
    refine iff_of_false Bool.false_ne_true ?_
    rintro ⟨discovers, supported, _⟩
    exact off.elim discovers supported
  · obtain ⟨discovers, supported⟩ := not_or.mp off
    rw [if_neg off]
    cases asked : s.recentlyAsked peer now <;> cases fresh : s.stillFresh peer now <;> simp [discovers, supported]

theorem recentlyAsked_iff {s : TurnClientState PeerId} {peer : PeerId} {now : ℕ} :
    s.recentlyAsked peer now = true ↔
      ∃ asked, s.requestedAt.lookup peer = some asked ∧ now - asked < requestCooldown := by
  unfold recentlyAsked
  rw [Option.any_eq_true]
  simp only [decide_eq_true_eq]

/-! ### What is remembered -/

/-- A request since the given time is remembered, or the peer will not be asked any more. -/
def Remembered (peer : PeerId) (since : ℕ) (s : TurnClientState PeerId) : Prop :=
  peer ∈ s.unsupported ∨ ∃ asked, s.requestedAt.lookup peer = some asked ∧ since ≤ asked

/-- **A request is remembered** until the peer is forgotten. -/
theorem remembered_step {s : TurnClientState PeerId} {peer : PeerId} {since : ℕ} {input : ClientInput PeerId Addr}
    (remembered : Remembered peer since s) (kept : input ≠ .forgetPeer peer)
    (later : ∀ now ∈ input.time, since ≤ now) : Remembered peer since (clientStep s input).2 := by
  cases input with
  | noteConnection other remote =>
    obtain ⟨peerHosts, same⟩ := s.noteConnection_eq other remote
    show Remembered peer since (s.noteConnection other remote)
    rw [same]
    exact remembered
  | forgetPeer other =>
    have different : peer ≠ other := fun same => kept (congrArg ClientInput.forgetPeer same.symm)
    refine remembered.imp_right ?_
    rintro ⟨asked, stored, after⟩
    refine ⟨asked, ?_, after⟩
    show (s.requestedAt.erase other).lookup peer = some asked
    rw [Table.lookup_erase_eq, if_neg different, stored]
  | shouldRequest other now =>
    show Remembered peer since (s.shouldRequest other now).2
    rcases shouldRequest_cases s other now with same | same
    · rw [same]
      exact remembered
    · rw [same]
      refine remembered.imp_right ?_
      rintro ⟨asked, stored, after⟩
      dsimp only
      rw [Table.lookup_insert_eq]
      split_ifs
      · exact ⟨now, rfl, later now rfl⟩
      · exact ⟨asked, stored, after⟩
  | markUnsupported other =>
    by_cases same : peer = other
    · exact .inl (same ▸ Finset.mem_insert_self _ _)
    · refine remembered.imp (Finset.mem_insert_of_mem ·) ?_
      rintro ⟨asked, stored, after⟩
      refine ⟨asked, ?_, after⟩
      show (s.requestedAt.erase other).lookup peer = some asked
      rw [Table.lookup_erase_eq, if_neg same, stored]
  | acceptFromBroker other credentials now =>
    show Remembered peer since (s.acceptFromBroker other credentials now).2
    rw [acceptFromBroker_eq]
    split_ifs
    · exact remembered
    · exact remembered
  | acceptFromEndpoint source credentials now => exact remembered
  | prune now => exact remembered

theorem remembered_final {s : TurnClientState PeerId} {peer : PeerId} {since : ℕ} (remembered : Remembered peer since s)
    {inputs : List (ClientInput PeerId Addr)} (kept : .forgetPeer peer ∉ inputs)
    (later : ∀ input ∈ inputs, ∀ now ∈ input.time, since ≤ now) :
    Remembered peer since (final clientStep s inputs) := by
  induction inputs generalizing s with
  | nil => exact remembered
  | cons input rest ih =>
    rw [List.mem_cons, not_or] at kept
    obtain ⟨first, others⟩ := List.forall_mem_cons.mp later
    exact ih (remembered_step remembered (Ne.symm kept.1) first) kept.2 others

theorem not_asked_of_remembered {s : TurnClientState PeerId} {peer : PeerId} {since now : ℕ}
    (remembered : Remembered peer since s) (soon : now < since + requestCooldown) :
    (s.shouldRequest peer now).1 ≠ true := by
  rw [Ne, shouldRequest_eq_true_iff]
  rintro ⟨_, supported, notAsked, _⟩
  rcases remembered with unsupported | ⟨asked, stored, after⟩
  · exact supported unsupported
  · have positive : 0 < requestCooldown := by decide
    have recent : s.recentlyAsked peer now = true := recentlyAsked_iff.mpr ⟨asked, stored, by omega⟩
    rw [notAsked] at recent
    exact Bool.false_ne_true recent

/-- **What is remembered** stood there before, or it was asked. -/
theorem requestedAt_step {s : TurnClientState PeerId} {input : ClientInput PeerId Addr} {peer : PeerId} {asked : ℕ}
    (stored : (clientStep s input).2.requestedAt.lookup peer = some asked) :
    s.requestedAt.lookup peer = some asked ∧ input ≠ .forgetPeer peer ∨
      input = .shouldRequest peer asked ∧ (s.shouldRequest peer asked).1 = true := by
  cases input with
  | noteConnection other remote =>
    obtain ⟨peerHosts, same⟩ := s.noteConnection_eq other remote
    change (s.noteConnection other remote).requestedAt.lookup peer = some asked at stored
    rw [same] at stored
    exact .inl ⟨stored, fun impossible => nomatch impossible⟩
  | forgetPeer other =>
    change (s.requestedAt.erase other).lookup peer = some asked at stored
    rw [Table.lookup_erase_eq] at stored
    split_ifs at stored with same
    refine .inl ⟨stored, fun forgotten => same ?_⟩
    cases forgotten
    rfl
  | shouldRequest other now =>
    change (s.shouldRequest other now).2.requestedAt.lookup peer = some asked at stored
    rcases shouldRequest_cases s other now with same | same
    · rw [same] at stored
      exact .inl ⟨stored, fun impossible => nomatch impossible⟩
    · rw [same, Table.lookup_insert_eq] at stored
      split_ifs at stored with mine
      · obtain rfl := Option.some.inj stored
        subst mine
        exact .inr ⟨rfl, by rw [same]⟩
      · exact .inl ⟨stored, fun impossible => nomatch impossible⟩
  | markUnsupported other =>
    change (s.requestedAt.erase other).lookup peer = some asked at stored
    rw [Table.lookup_erase_eq] at stored
    split_ifs at stored with same
    exact .inl ⟨stored, fun impossible => nomatch impossible⟩
  | acceptFromBroker other credentials now =>
    change (s.acceptFromBroker other credentials now).2.requestedAt.lookup peer = some asked at stored
    rw [acceptFromBroker_eq] at stored
    split_ifs at stored
    · exact .inl ⟨stored, fun impossible => nomatch impossible⟩
    · exact .inl ⟨stored, fun impossible => nomatch impossible⟩
  | acceptFromEndpoint source credentials now => exact .inl ⟨stored, fun impossible => nomatch impossible⟩
  | prune now => exact .inl ⟨stored, fun impossible => nomatch impossible⟩

/-- **What is remembered after a run** was there at its beginning and not forgotten, or it was asked in it. -/
theorem requestedAt_origin {s : TurnClientState PeerId} {inputs : List (ClientInput PeerId Addr)} {peer : PeerId}
    {asked : ℕ} (stored : (final clientStep s inputs).requestedAt.lookup peer = some asked) :
    .forgetPeer peer ∉ inputs ∨ ∃ before after, inputs = before ++ .shouldRequest peer asked :: after ∧
      ((final clientStep s before).shouldRequest peer asked).1 = true := by
  induction inputs using List.reverseRecOn with
  | nil => exact .inl List.not_mem_nil
  | append_singleton earlier input ih =>
    rw [final_concat] at stored
    rcases requestedAt_step stored with ⟨before, kept⟩ | ⟨rfl, yes⟩
    · rcases ih before with never | ⟨front, back, rfl, yes⟩
      · refine .inl ?_
        rw [List.mem_append, List.mem_singleton, not_or]
        exact ⟨never, Ne.symm kept⟩
      · exact .inr ⟨front, back ++ [input], by simp, yes⟩
    · exact .inr ⟨earlier, [], rfl, yes⟩

/-! ### Two requests -/

/-- If a peer is forgotten between two questions within a minute, of which nothing spoke against the first one, then
there is a reason other than the first one not to ask it. -/
def KeptInMind (cfg : TurnClientConfig) (inputs : List (ClientInput PeerId Addr)) : Prop :=
  ∀ before middle after peer first second,
    inputs = before ++ .shouldRequest peer first :: (middle ++ .shouldRequest peer second :: after) →
    Free (final clientStep (new PeerId cfg) before) peer first → second < first + requestCooldown →
    .forgetPeer peer ∈ middle →
    let s := final clientStep (new PeerId cfg) (before ++ .shouldRequest peer first :: middle)
    peer ∈ s.unsupported ∨ s.stillFresh peer second = true

theorem Clocked.le {before middle after : List (ClientInput PeerId Addr)} {first second : ClientInput PeerId Addr}
    (clock : Clocked (before ++ first :: (middle ++ second :: after))) {earlier later : ℕ} (one : earlier ∈ first.time)
    (two : later ∈ second.time) : earlier ≤ later := by
  have rest := (List.pairwise_append.mp clock).2.1
  have pair := (List.pairwise_cons.mp rest).1 second (List.mem_append_right _ (List.mem_cons_self ..))
  exact pair earlier one later two

theorem discovery_final (cfg : TurnClientConfig) (inputs : List (ClientInput PeerId Addr)) :
    (final clientStep (new PeerId cfg) inputs).discovery = cfg.discovery :=
  (justified_final cfg inputs).fixed.discovery

/-- **A minute between requests.** In a run whose clock does not go back, two requests to one peer are always a minute
apart exactly if the peer is not forgotten between a request and a question for it within the minute, or if it has been
marked as unsupported or its credentials are still fresh. -/
theorem spaced_iff (cfg : TurnClientConfig) {inputs : List (ClientInput PeerId Addr)} (clock : Clocked inputs) :
    Spaced cfg inputs ↔ KeptInMind cfg inputs := by
  constructor
  · rintro spaced before middle after peer first second rfl free soon forgotten s
    have yes : Asks cfg before peer first := shouldRequest_eq_true_iff.mpr free
    by_contra reason
    obtain ⟨supported, stale⟩ := not_or.mp reason
    have discovers : s.discovery ≠ none := by
      rw [discovery_final, ← discovery_final cfg before]
      exact free.1
    cases recent : s.recentlyAsked peer second with
    | false =>
      -- nothing speaks against a second request, which comes too soon
      have again : Asks cfg (before ++ .shouldRequest peer first :: middle) peer second :=
        shouldRequest_eq_true_iff.mpr ⟨discovers, supported, recent, Bool.eq_false_iff.mpr stale⟩
      have apart := spaced before middle after peer first second rfl yes again
      omega
    | true =>
      -- the request that is remembered was made after the peer was forgotten, and that one comes too soon
      obtain ⟨asked, stored, _⟩ := recentlyAsked_iff.mp recent
      have split : s = final clientStep (clientStep (final clientStep (new PeerId cfg) before)
          (.shouldRequest peer first : ClientInput PeerId Addr)).2 middle := final_append _ _ _ _
      rw [split] at stored
      rcases requestedAt_origin stored with never | ⟨front, back, rfl, again⟩
      · exact never forgotten
      · have between : Asks cfg (before ++ .shouldRequest peer first :: front) peer asked := by
          unfold Asks
          rw [final_append]
          exact again
        have apart := spaced before front (back ++ .shouldRequest peer second :: after) peer first asked (by simp) yes
          between
        have ordered : asked ≤ second := by
          have later : Clocked ((before ++ .shouldRequest peer first :: front) ++ .shouldRequest peer asked ::
              (back ++ .shouldRequest peer second :: after)) := by
            simpa using clock
          exact later.le rfl rfl
        omega
  · rintro kept before middle after peer first second rfl yes again
    by_contra close
    have soon : second < first + requestCooldown := Nat.lt_of_not_le close
    by_cases forgotten : .forgetPeer peer ∈ middle
    · obtain ⟨_, supported, _, stale⟩ := shouldRequest_eq_true_iff.mp again
      rcases kept before middle after peer first second rfl (shouldRequest_eq_true_iff.mp yes) soon forgotten with unsupported | fresh
      · exact supported unsupported
      · rw [stale] at fresh
        exact Bool.false_ne_true fresh
    · have asked : Remembered peer first (clientStep (final clientStep (new PeerId cfg) before)
          (.shouldRequest peer first : ClientInput PeerId Addr)).2 := by
        refine .inr ⟨first, ?_, le_rfl⟩
        show ((final clientStep (new PeerId cfg) before).shouldRequest peer first).2.requestedAt.lookup peer = _
        rcases shouldRequest_cases (final clientStep (new PeerId cfg) before) peer first with no | asks
        · unfold Asks at yes
          rw [no] at yes
          exact absurd yes Bool.false_ne_true
        · rw [asks]
          exact AList.lookup_insert _
      have remembered := remembered_final asked forgotten (by
        intro input member now reading
        obtain ⟨front, back, rfl⟩ := List.append_of_mem member
        have earlier : Clocked (before ++ .shouldRequest peer first ::
            (front ++ input :: (back ++ .shouldRequest peer second :: after))) := by
          simpa using clock
        exact earlier.le rfl reading)
      unfold Asks at again
      rw [final_append] at again
      exact not_asked_of_remembered remembered soon again

namespace Reconnect

/-- A request, the end of the last connection, and a question one second later. -/
def inputs : List (ClientInput KeyPeer TcpHost) :=
  [.noteConnection ⟨1⟩ ⟨7⟩, .shouldRequest ⟨1⟩ (secs 100), .forgetPeer ⟨1⟩, .noteConnection ⟨1⟩ ⟨7⟩,
    .shouldRequest ⟨1⟩ (secs 101)]

theorem clocked : Clocked inputs := by
  unfold Clocked inputs
  simp [ClientInput.time, secs]

/-- **Asked twice within a minute.** -/
theorem asked_twice : Clocked inputs ∧
    outputs clientStep (new KeyPeer .standard) inputs
      = [.none, .shouldRequest true, .none, .none, .shouldRequest true] ∧ ¬ Spaced .standard inputs := by
  refine ⟨clocked, by decide, fun spaced => ?_⟩
  have apart := spaced [.noteConnection ⟨1⟩ ⟨7⟩] [.forgetPeer ⟨1⟩, .noteConnection ⟨1⟩ ⟨7⟩] [] ⟨1⟩ (secs 100) (secs 101) rfl
    (by unfold Asks; decide) (by unfold Asks; decide)
  exact absurd apart (by decide)

/-- The same with a minute between the questions. -/
def later : List (ClientInput KeyPeer TcpHost) :=
  [.noteConnection ⟨1⟩ ⟨7⟩, .shouldRequest ⟨1⟩ (secs 100), .forgetPeer ⟨1⟩, .noteConnection ⟨1⟩ ⟨7⟩,
    .shouldRequest ⟨1⟩ (secs 160)]

theorem clocked_later : Clocked later := by
  unfold Clocked later
  simp [ClientInput.time, secs]

/-- **A minute apart.** -/
theorem spaced_later : Clocked later ∧ Spaced .standard later := by
  refine ⟨clocked_later, (spaced_iff .standard clocked_later).mpr ?_⟩
  intro before middle after peer first second split _ soon
  -- the only two questions are the ones at 100 and 160 seconds
  simp only [later, List.cons_eq_append_iff, List.cons.injEq, reduceCtorEq, false_and, and_false, false_or, exists_const,
    or_false, ClientInput.shouldRequest.injEq, List.nil_eq, List.append_eq_nil_iff] at split
  obtain ⟨_, _, _, ⟨_, rfl⟩, rest⟩ := split
  have asked : .shouldRequest peer second ∈ [ClientInput.forgetPeer (⟨1⟩ : KeyPeer), .noteConnection ⟨1⟩ (⟨7⟩ : TcpHost),
      .shouldRequest ⟨1⟩ (secs 160)] := by
    rw [← rest]
    exact List.mem_append_right _ (List.mem_cons_self ..)
  obtain ⟨_, rfl⟩ : peer = ⟨1⟩ ∧ second = secs 160 := by
    simpa using asked
  exact absurd soon (by decide)

end Reconnect

end P2pNet.Connectivity.Turn
