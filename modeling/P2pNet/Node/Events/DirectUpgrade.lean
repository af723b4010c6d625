/-
**Moving a browser's traffic to a direct path** (`crates/connectivity/direct_upgrade.rs`,
`crates/node/events/direct_upgrade.rs`).

Two browsers meet over a relay and then open a direct WebRTC connection. When the remote's Identify arrives
over it, the relayed connections of that peer are handed out to be closed.
-/

import P2pNet.Lib.Run
import P2pNet.Lib.Table
import P2pNet.Lib.Checked
import P2pNet.Common.Multiaddr
import P2pNet.Connectivity.Limits

set_option linter.unusedSectionVars false

namespace P2pNet.Node

open Lib PeerIdentity Connectivity

variable {PeerId Addr : Type} [PeerIdentity PeerId] [Multiaddr PeerId Addr]

/-! ### The state -/

/-- The loop of `is_direct_browser_webrtc`. -/
def directBrowserLoop : List (Protocol PeerId) → Bool → Bool
  | [], webrtc => webrtc
  | protocol :: rest, webrtc =>
    if protocol = .p2pCircuit ∨ protocol = .other "/webrtc-direct" then false
    else directBrowserLoop rest (if protocol = .other "/webrtc" then true else webrtc)

def isDirectBrowserWebrtc (addr : Addr) : Bool := directBrowserLoop (Multiaddr.iter addr) false

structure DirectUpgradeState (PeerId : Type) [PeerIdentity PeerId] where
  relayed : Table PeerId (List ConnectionId)
  pendingDirect : Table PeerId ConnectionId
  upgradesSucceeded : UInt64
  upgradesFailed : UInt64
  pathsMigrated : UInt64

structure DirectUpgradeSnapshot where
  upgradesSucceeded : UInt64
  upgradesFailed : UInt64
  pathsMigrated : UInt64
  relayedPeers : ℕ

namespace DirectUpgradeState

/-- `Default`. -/
def empty : DirectUpgradeState PeerId := ⟨∅, ∅, 0, 0, 0⟩

variable (state : DirectUpgradeState PeerId)

def relayedEstablished (peer : PeerId) (connection : ConnectionId) : DirectUpgradeState PeerId :=
  let connections := (state.relayed.lookup peer).getD []
  { state with
    relayed := state.relayed.insert peer
      (if connection ∈ connections then connections else connections ++ [connection]) }

def directEstablished (peer : PeerId) (connection : ConnectionId) : DirectUpgradeState PeerId :=
  { state with pendingDirect := state.pendingDirect.insert peer connection }

def takeRelayed (peer : PeerId) : List ConnectionId × DirectUpgradeState PeerId :=
  ((state.relayed.lookup peer).getD [], { state with relayed := state.relayed.erase peer })

/-- The relayed connections that a pending direct connection replaces. -/
def confirmDirect (peer : PeerId) (connection : ConnectionId) :
    Option (List ConnectionId) × DirectUpgradeState PeerId :=
  if state.pendingDirect.lookup peer ≠ some connection then (none, state)
  else
    let (replaced, state) := { state with pendingDirect := state.pendingDirect.erase peer }.takeRelayed peer
    (some replaced, state)

/-- The relayed connections without one that closed. -/
def relayedWithout (peer : PeerId) (connection : ConnectionId) : Table PeerId (List ConnectionId) :=
  match state.relayed.lookup peer with
  | none => state.relayed
  | some connections =>
    let left := connections.filter (· ≠ connection)
    if left = [] then state.relayed.erase peer else state.relayed.insert peer left

def connectionClosed (peer : PeerId) (connection : ConnectionId) : DirectUpgradeState PeerId :=
  { state with
    pendingDirect := if state.pendingDirect.lookup peer = some connection then state.pendingDirect.erase peer
      else state.pendingDirect
    relayed := state.relayedWithout peer connection }

def hasRelayed (peer : PeerId) : Bool := (state.relayed.lookup peer).isSome

def snapshot : DirectUpgradeSnapshot :=
  ⟨state.upgradesSucceeded, state.upgradesFailed, state.pathsMigrated, state.relayed.entries.length⟩

/-- The relayed connections of a peer. -/
def tracked (peer : PeerId) : List ConnectionId := (state.relayed.lookup peer).getD []

end DirectUpgradeState

/-! ### Events -/

/-- `SignalingEvent`; an error is its text, with outcome and state where the connectivity check failed. -/
inductive SignalingEvent (PeerId : Type)
  | signalingStarted (peer : PeerId) (initiator : Bool)
  | newWebRtcConnection (peer : PeerId)
  | webRtcConnectionError (peer : PeerId) (error : String) (iceCheck : Option (String × String))

inductive UpgradeEvent (PeerId Addr : Type)
  | established (peer : PeerId) (connection : ConnectionId) (remoteAddr : Addr) (relayed outgoing : Bool)
  | identified (peer : PeerId) (connection : ConnectionId)
  | closed (peer : PeerId) (connection : ConnectionId)
  | signaling (event : SignalingEvent PeerId)

/-- The connections that the swarm is told to close, and what is recorded: the counters and the lines. -/
structure UpgradeOutput where
  closes : List ConnectionId
  recorded : Option (DirectUpgradeSnapshot × List String)

def UpgradeOutput.quiet : UpgradeOutput := ⟨[], none⟩

def record (state : DirectUpgradeState PeerId) (closes : List ConnectionId) (lines : List String) :
    UpgradeOutput × DirectUpgradeState PeerId :=
  (⟨closes, some (state.snapshot, lines)⟩, state)

def onConnectionEstablished (state : DirectUpgradeState PeerId) (peer : PeerId) (connection : ConnectionId)
    (remoteAddr : Addr) (relayed outgoing : Bool) : UpgradeOutput × DirectUpgradeState PeerId :=
  if relayed then record (state.relayedEstablished peer connection) [] [s!"RELAY_CONNECT peer={toText peer}"]
  else if isDirectBrowserWebrtc remoteAddr then
    record { state.directEstablished peer connection with
      upgradesSucceeded := U64.saturatingAdd state.upgradesSucceeded 1 } []
      [s!"DIRECT_UPGRADE_SUCCESS peer={toText peer}"]
  else if outgoing then
    record state [] [s!"DIRECT_DIAL peer={toText peer} addr={Multiaddr.toText remoteAddr}"]
  else (.quiet, state)

def onIdentifyReceived (state : DirectUpgradeState PeerId) (peer : PeerId) (connection : ConnectionId) :
    UpgradeOutput × DirectUpgradeState PeerId :=
  match state.confirmDirect peer connection with
  | (none, state) => (.quiet, state)
  | (some replaced, state) =>
    record (if replaced ≠ [] then { state with pathsMigrated := U64.saturatingAdd state.pathsMigrated 1 } else state)
      replaced [s!"PATH_MIGRATED_TO_DIRECT peer={toText peer} relayed_closed={replaced.length}"]

def onSignalingEvent (state : DirectUpgradeState PeerId) (event : SignalingEvent PeerId) :
    UpgradeOutput × DirectUpgradeState PeerId :=
  match event with
  | .signalingStarted peer initiator => record state [] [s!"WEBRTC_SIGNALING peer={toText peer} initiator={initiator}"]
  | .newWebRtcConnection peer => record state [] [s!"ICE_CHECK peer={toText peer} outcome=connected"]
  | .webRtcConnectionError peer error iceCheck =>
    let checked := iceCheck.toList.map fun (outcome, iceState) =>
      s!"ICE_CHECK peer={toText peer} outcome={outcome} ice_state={iceState}"
    let fallback := if state.hasRelayed peer then [s!"RELAY_FALLBACK peer={toText peer}"] else []
    record { state with upgradesFailed := U64.saturatingAdd state.upgradesFailed 1 } []
      (checked ++ [s!"DIRECT_UPGRADE_FAILED peer={toText peer} error={error}"] ++ fallback)

def upgradeStep (state : DirectUpgradeState PeerId) : UpgradeEvent PeerId Addr →
    UpgradeOutput × DirectUpgradeState PeerId
  | .established peer connection remoteAddr relayed outgoing =>
    onConnectionEstablished state peer connection remoteAddr relayed outgoing
  | .identified peer connection => onIdentifyReceived state peer connection
  | .closed peer connection => (.quiet, state.connectionClosed peer connection)
  | .signaling event => onSignalingEvent state event

/-! ### What an event does -/

namespace UpgradeEvent

/-- The connection that an event establishes, with its peer. -/
def establishes : UpgradeEvent PeerId Addr → Option (ConnectionId × PeerId)
  | established peer connection _ _ _ => some (connection, peer)
  | _ => none

/-- The direct browser connection that an event establishes to a peer. -/
def opensDirect (peer : PeerId) : UpgradeEvent PeerId Addr → Option ConnectionId
  | established other connection remoteAddr relayed _ =>
    if other = peer ∧ relayed = false ∧ isDirectBrowserWebrtc remoteAddr then some connection else none
  | _ => none

def opensRelayed (peer : PeerId) : UpgradeEvent PeerId Addr → Option ConnectionId
  | established other connection _ relayed _ => if other = peer ∧ relayed then some connection else none
  | _ => none

def isIdentify (peer : PeerId) (connection : ConnectionId) : UpgradeEvent PeerId Addr → Bool
  | identified other via => other = peer ∧ via = connection
  | _ => false

def isClose (peer : PeerId) (connection : ConnectionId) : UpgradeEvent PeerId Addr → Bool
  | closed other gone => other = peer ∧ gone = connection
  | _ => false

end UpgradeEvent

/-- An event at which the relayed connections of a peer are handed out. -/
def DirectUpgradeState.migrates (state : DirectUpgradeState PeerId) (peer : PeerId) :
    UpgradeEvent PeerId Addr → Bool
  | .identified other connection => other = peer ∧ state.pendingDirect.lookup peer = some connection
  | _ => false

section Steps

variable (state : DirectUpgradeState PeerId) (event : UpgradeEvent PeerId Addr) (peer : PeerId)

theorem confirmDirect_pending {connection : ConnectionId} (pending : state.pendingDirect.lookup peer = some connection) :
    state.confirmDirect peer connection = (some (state.tracked peer),
      { state with pendingDirect := state.pendingDirect.erase peer, relayed := state.relayed.erase peer }) :=
  if_neg (not_not.mpr pending)

theorem confirmDirect_other {connection : ConnectionId}
    (other : state.pendingDirect.lookup peer ≠ some connection) : state.confirmDirect peer connection = (none, state) :=
  if_pos other

/-- What an Identify does, read at the fields. -/
theorem onIdentifyReceived_pending {connection : ConnectionId}
    (pending : state.pendingDirect.lookup peer = some connection) :
    (onIdentifyReceived state peer connection).1.closes = state.tracked peer ∧
      (onIdentifyReceived state peer connection).2.pendingDirect = state.pendingDirect.erase peer ∧
      (onIdentifyReceived state peer connection).2.relayed = state.relayed.erase peer := by
  unfold onIdentifyReceived
  rw [confirmDirect_pending state peer pending]
  dsimp only [record]
  split_ifs <;> exact ⟨rfl, rfl, rfl⟩

theorem onIdentifyReceived_other {connection : ConnectionId}
    (other : state.pendingDirect.lookup peer ≠ some connection) :
    onIdentifyReceived state peer connection = (.quiet, state) := by
  unfold onIdentifyReceived
  rw [confirmDirect_other state peer other]

theorem closes_onConnectionEstablished (opened : ConnectionId) (remoteAddr : Addr) (relayed outgoing : Bool) :
    (onConnectionEstablished state peer opened remoteAddr relayed outgoing).1.closes = [] := by
  unfold onConnectionEstablished
  split_ifs <;> rfl

theorem onConnectionEstablished_relayed (opened : ConnectionId) (remoteAddr : Addr) (outgoing : Bool) :
    (onConnectionEstablished state peer opened remoteAddr true outgoing).2 = state.relayedEstablished peer opened := rfl

theorem onConnectionEstablished_browser (opened : ConnectionId) {remoteAddr : Addr} (outgoing : Bool)
    (browser : isDirectBrowserWebrtc remoteAddr = true) :
    (onConnectionEstablished state peer opened remoteAddr false outgoing).2.pendingDirect
        = state.pendingDirect.insert peer opened ∧
      (onConnectionEstablished state peer opened remoteAddr false outgoing).2.relayed = state.relayed := by
  unfold onConnectionEstablished
  rw [if_neg Bool.false_ne_true, if_pos browser]
  exact ⟨rfl, rfl⟩

theorem onConnectionEstablished_plain (opened : ConnectionId) {remoteAddr : Addr} (outgoing : Bool)
    (browser : ¬ isDirectBrowserWebrtc remoteAddr = true) :
    (onConnectionEstablished state peer opened remoteAddr false outgoing).2 = state := by
  unfold onConnectionEstablished
  rw [if_neg Bool.false_ne_true, if_neg browser]
  split_ifs <;> rfl

theorem onSignalingEvent_tables (signal : SignalingEvent PeerId) :
    (onSignalingEvent state signal).1.closes = [] ∧
      (onSignalingEvent state signal).2.pendingDirect = state.pendingDirect ∧
      (onSignalingEvent state signal).2.relayed = state.relayed := by
  cases signal <;> exact ⟨rfl, rfl, rfl⟩

/-- **A pending connection after one event**: the direct one it establishes, or the one before it. -/
theorem lookup_pendingDirect_step (connection : ConnectionId) :
    (upgradeStep state event).2.pendingDirect.lookup peer = some connection ↔
      event.opensDirect peer = some connection ∨
        (state.pendingDirect.lookup peer = some connection ∧ event.opensDirect peer = none ∧
          event.isIdentify peer connection = false ∧ event.isClose peer connection = false) := by
  cases event with
  | established other opened remoteAddr relayed outgoing =>
    cases relayed with
    | true =>
      rw [upgradeStep, onConnectionEstablished_relayed]
      simp [DirectUpgradeState.relayedEstablished, UpgradeEvent.opensDirect, UpgradeEvent.isIdentify,
        UpgradeEvent.isClose]
    | false =>
      by_cases browser : isDirectBrowserWebrtc remoteAddr
      · rw [upgradeStep, (onConnectionEstablished_browser state other opened outgoing browser).1,
          Table.lookup_insert_eq]
        by_cases same : peer = other
        · simp [UpgradeEvent.opensDirect, browser, same]
        · simp [UpgradeEvent.opensDirect, UpgradeEvent.isIdentify, UpgradeEvent.isClose, same, Ne.symm same]
      · rw [upgradeStep, onConnectionEstablished_plain state other opened outgoing browser]
        simp [UpgradeEvent.opensDirect, UpgradeEvent.isIdentify, UpgradeEvent.isClose, browser]
  | identified other via =>
    by_cases pending : state.pendingDirect.lookup other = some via
    · rw [upgradeStep, (onIdentifyReceived_pending state other pending).2.1, Table.lookup_erase_eq]
      by_cases same : peer = other
      · subst same
        simpa [UpgradeEvent.opensDirect, UpgradeEvent.isIdentify, pending] using fun here other => absurd here other
      · simp [UpgradeEvent.opensDirect, UpgradeEvent.isIdentify, UpgradeEvent.isClose, same, Ne.symm same]
    · rw [upgradeStep, onIdentifyReceived_other state other pending]
      have keeps : state.pendingDirect.lookup peer = some connection → ¬ (other = peer ∧ via = connection) := by
        rintro found ⟨rfl, rfl⟩
        exact pending found
      simpa [UpgradeEvent.opensDirect, UpgradeEvent.isIdentify, UpgradeEvent.isClose] using keeps
  | closed other gone =>
    rw [upgradeStep, DirectUpgradeState.connectionClosed]
    by_cases pending : state.pendingDirect.lookup other = some gone
    · rw [if_pos pending, Table.lookup_erase_eq]
      by_cases same : peer = other
      · subst same
        simpa [UpgradeEvent.opensDirect, UpgradeEvent.isClose, pending] using fun here _ => here
      · simp [UpgradeEvent.opensDirect, UpgradeEvent.isIdentify, UpgradeEvent.isClose, same, Ne.symm same]
    · rw [if_neg pending]
      have keeps : state.pendingDirect.lookup peer = some connection → ¬ (other = peer ∧ gone = connection) := by
        rintro found ⟨rfl, rfl⟩
        exact pending found
      simpa [UpgradeEvent.opensDirect, UpgradeEvent.isIdentify, UpgradeEvent.isClose] using keeps
  | signaling signal =>
    rw [upgradeStep, (onSignalingEvent_tables state signal).2.1]
    simp [UpgradeEvent.opensDirect, UpgradeEvent.isIdentify, UpgradeEvent.isClose]

theorem tracked_relayedEstablished (other : PeerId) (opened : ConnectionId) :
    (state.relayedEstablished other opened).tracked peer = if peer = other then
      if opened ∈ state.tracked peer then state.tracked peer else state.tracked peer ++ [opened]
      else state.tracked peer := by
  unfold DirectUpgradeState.tracked DirectUpgradeState.relayedEstablished
  dsimp only
  rw [Table.lookup_insert_eq]
  by_cases same : peer = other
  · rw [if_pos same, if_pos same, same, Option.getD_some]
  · rw [if_neg same, if_neg same]

theorem tracked_connectionClosed (other : PeerId) (gone : ConnectionId) :
    (state.connectionClosed other gone).tracked peer
      = if peer = other then (state.tracked peer).filter (· ≠ gone) else state.tracked peer := by
  unfold DirectUpgradeState.tracked DirectUpgradeState.connectionClosed DirectUpgradeState.relayedWithout
  dsimp only
  cases found : state.relayed.lookup other with
  | none =>
    by_cases same : peer = other
    · rw [if_pos same, same, found]
      rfl
    · rw [if_neg same]
  | some connections =>
    dsimp only
    by_cases same : peer = other
    · rw [if_pos same, same, found, Option.getD_some]
      split_ifs with nothing
      · rw [AList.lookup_erase, nothing, Option.getD_none]
      · rw [AList.lookup_insert, Option.getD_some]
    · rw [if_neg same]
      split_ifs
      · rw [AList.lookup_erase_ne same]
      · rw [AList.lookup_insert_ne same]

/-- **A tracked connection after one event.** -/
theorem mem_tracked_step (connection : ConnectionId) :
    connection ∈ (upgradeStep state event).2.tracked peer ↔
      event.opensRelayed peer = some connection ∨
        (connection ∈ state.tracked peer ∧ state.migrates peer event = false ∧
          event.isClose peer connection = false) := by
  cases event with
  | established other opened remoteAddr relayed outgoing =>
    cases relayed with
    | true =>
      rw [upgradeStep, onConnectionEstablished_relayed, tracked_relayedEstablished]
      by_cases same : peer = other
      · rw [if_pos same]
        split_ifs with already
        · subst same
          have here : opened = connection → connection ∈ state.tracked peer := by
            rintro rfl
            exact already
          simpa [UpgradeEvent.opensRelayed, DirectUpgradeState.migrates, UpgradeEvent.isClose] using here
        · simp [UpgradeEvent.opensRelayed, DirectUpgradeState.migrates, UpgradeEvent.isClose, same, or_comm, eq_comm]
      · simp [UpgradeEvent.opensRelayed, DirectUpgradeState.migrates, UpgradeEvent.isClose, same, Ne.symm same]
    | false =>
      have same : (onConnectionEstablished state other opened remoteAddr false outgoing).2.relayed = state.relayed := by
        by_cases browser : isDirectBrowserWebrtc remoteAddr
        · exact (onConnectionEstablished_browser state other opened outgoing browser).2
        · rw [onConnectionEstablished_plain state other opened outgoing browser]
      simp [upgradeStep, DirectUpgradeState.tracked, same, UpgradeEvent.opensRelayed, DirectUpgradeState.migrates,
        UpgradeEvent.isClose]
  | identified other via =>
    by_cases pending : state.pendingDirect.lookup other = some via
    · rw [upgradeStep, DirectUpgradeState.tracked, (onIdentifyReceived_pending state other pending).2.2,
        Table.lookup_erase_eq]
      by_cases same : peer = other
      · subst same
        simp [UpgradeEvent.opensRelayed, DirectUpgradeState.migrates, pending]
      · simp [UpgradeEvent.opensRelayed, DirectUpgradeState.migrates, UpgradeEvent.isClose, same, Ne.symm same,
          DirectUpgradeState.tracked]
    · rw [upgradeStep, onIdentifyReceived_other state other pending]
      have stays : other = peer → state.pendingDirect.lookup peer ≠ some via := by
        rintro rfl
        exact pending
      simpa [UpgradeEvent.opensRelayed, DirectUpgradeState.migrates, UpgradeEvent.isClose] using fun _ => stays
  | closed other gone =>
    rw [upgradeStep, tracked_connectionClosed]
    by_cases same : peer = other
    · subst same
      simpa [UpgradeEvent.opensRelayed, DirectUpgradeState.migrates, UpgradeEvent.isClose]
        using fun _ => not_congr eq_comm
    · simp [UpgradeEvent.opensRelayed, DirectUpgradeState.migrates, UpgradeEvent.isClose, same, Ne.symm same]
  | signaling signal =>
    rw [upgradeStep, DirectUpgradeState.tracked, (onSignalingEvent_tables state signal).2.2]
    simp [UpgradeEvent.opensRelayed, DirectUpgradeState.migrates, UpgradeEvent.isClose, DirectUpgradeState.tracked]

/-- **What one event hands out** are the tracked connections of the peer that it migrates. -/
theorem mem_closes_step (connection : ConnectionId) :
    connection ∈ (upgradeStep state event).1.closes ↔
      ∃ peer, state.migrates peer event = true ∧ connection ∈ state.tracked peer := by
  cases event with
  | established other opened remoteAddr relayed outgoing =>
    rw [upgradeStep, closes_onConnectionEstablished]
    simp [DirectUpgradeState.migrates]
  | identified other via =>
    by_cases pending : state.pendingDirect.lookup other = some via
    · rw [upgradeStep, (onIdentifyReceived_pending state other pending).1]
      simp [DirectUpgradeState.migrates, and_assoc, pending]
    · rw [upgradeStep, onIdentifyReceived_other state other pending]
      simp [DirectUpgradeState.migrates, UpgradeOutput.quiet, and_assoc, pending]
  | closed other gone => simp [upgradeStep, UpgradeOutput.quiet, DirectUpgradeState.migrates]
  | signaling signal =>
    rw [upgradeStep, (onSignalingEvent_tables state signal).1]
    simp [DirectUpgradeState.migrates]
/-- The lists of the relayed connections have no repetitions, and none is empty. -/
structure DirectUpgradeState.Tidy (state : DirectUpgradeState PeerId) : Prop where
  nodup : ∀ peer, (state.tracked peer).Nodup
  nonempty : ∀ peer, state.relayed.lookup peer ≠ some []

variable {state} in
theorem DirectUpgradeState.Tidy.of_relayed_eq {other : DirectUpgradeState PeerId} (same : other.relayed = state.relayed) (tidy : state.Tidy) :
    other.Tidy := by
  constructor
  · intro peer
    rw [DirectUpgradeState.tracked, same]
    exact tidy.nodup peer
  · rw [same]
    exact tidy.nonempty

variable {state}

theorem tidy_relayedEstablished (opened : ConnectionId) (tidy : state.Tidy) :
    (state.relayedEstablished peer opened).Tidy := by
  constructor
  · intro other
    rw [tracked_relayedEstablished]
    split_ifs with same already
    · exact tidy.nodup other
    · exact List.nodup_append.mpr ⟨tidy.nodup other, List.nodup_singleton opened, fun connection tracked _ last same =>
        already (List.mem_singleton.mp last ▸ same ▸ tracked)⟩
    · exact tidy.nodup other
  · intro other
    unfold DirectUpgradeState.relayedEstablished
    dsimp only
    rw [Table.lookup_insert_eq]
    split_ifs with same already
    · intro empty
      exact absurd (Option.some_inj.mp empty ▸ already) List.not_mem_nil
    · simp
    · exact tidy.nonempty other

theorem tidy_erase (tidy : state.Tidy) {next : DirectUpgradeState PeerId}
    (erased : next.relayed = state.relayed.erase peer) : next.Tidy := by
  constructor
  · intro other
    rw [DirectUpgradeState.tracked, erased, Table.lookup_erase_eq]
    split_ifs
    · exact List.nodup_nil
    · exact tidy.nodup other
  · intro other
    rw [erased, Table.lookup_erase_eq]
    split_ifs
    · exact (Option.some_ne_none []).symm
    · exact tidy.nonempty other

theorem tidy_connectionClosed (gone : ConnectionId) (tidy : state.Tidy) : (state.connectionClosed peer gone).Tidy := by
  constructor
  · intro other
    rw [tracked_connectionClosed]
    split_ifs
    · exact (tidy.nodup other).filter _
    · exact tidy.nodup other
  · intro other
    unfold DirectUpgradeState.connectionClosed DirectUpgradeState.relayedWithout
    dsimp only
    cases state.relayed.lookup peer with
    | none => exact tidy.nonempty other
    | some connections =>
      dsimp only
      split_ifs with nothing
      · rw [Table.lookup_erase_eq]
        split_ifs
        · exact (Option.some_ne_none []).symm
        · exact tidy.nonempty other
      · rw [Table.lookup_insert_eq]
        split_ifs
        · exact fun same => nothing (Option.some_inj.mp same)
        · exact tidy.nonempty other

theorem tidy_step (tidy : state.Tidy) : (upgradeStep state event).2.Tidy := by
  cases event with
  | established other opened remoteAddr relayed outgoing =>
    cases relayed with
    | true => exact tidy_relayedEstablished other opened tidy
    | false =>
      by_cases browser : isDirectBrowserWebrtc remoteAddr
      · exact tidy.of_relayed_eq (onConnectionEstablished_browser state other opened outgoing browser).2
      · rw [upgradeStep, onConnectionEstablished_plain state other opened outgoing browser]
        exact tidy
  | identified other via =>
    by_cases pending : state.pendingDirect.lookup other = some via
    · exact tidy_erase other tidy (onIdentifyReceived_pending state other pending).2.2
    · rw [upgradeStep, onIdentifyReceived_other state other pending]
      exact tidy
  | closed other gone => exact tidy_connectionClosed other gone tidy
  | signaling signal => exact tidy.of_relayed_eq (onSignalingEvent_tables state signal).2.2

theorem nodup_closes_step (tidy : state.Tidy) : (upgradeStep state event).1.closes.Nodup := by
  cases event with
  | established other opened remoteAddr relayed outgoing =>
    rw [upgradeStep, closes_onConnectionEstablished]
    exact List.nodup_nil
  | identified other via =>
    by_cases pending : state.pendingDirect.lookup other = some via
    · rw [upgradeStep, (onIdentifyReceived_pending state other pending).1]
      exact tidy.nodup other
    · rw [upgradeStep, onIdentifyReceived_other state other pending]
      exact List.nodup_nil
  | closed other gone => exact List.nodup_nil
  | signaling signal =>
    rw [upgradeStep, (onSignalingEvent_tables state signal).1]
    exact List.nodup_nil

end Steps

/-! ### Runs -/

theorem UpgradeEvent.establishes_of_opensRelayed {event : UpgradeEvent PeerId Addr} {peer : PeerId}
    {connection : ConnectionId} (opens : event.opensRelayed peer = some connection) :
    event.establishes = some (connection, peer) := by
  cases event <;> simp_all [opensRelayed, establishes]

theorem UpgradeEvent.establishes_of_opensDirect {event : UpgradeEvent PeerId Addr} {peer : PeerId}
    {connection : ConnectionId} (opens : event.opensDirect peer = some connection) :
    event.establishes = some (connection, peer) := by
  cases event <;> simp_all [opensDirect, establishes]

theorem UpgradeEvent.eq_closed_of_isClose {event : UpgradeEvent PeerId Addr} {peer : PeerId} {connection : ConnectionId}
    (closes : event.isClose peer connection = true) : event = .closed peer connection := by
  cases event <;> simp_all [isClose]

/-- The connections that a run established, with their peers. -/
def establishments (run : List (UpgradeEvent PeerId Addr)) : List (ConnectionId × PeerId) :=
  run.filterMap UpgradeEvent.establishes

/-- A run established a relayed connection to a peer. -/
def Relays (run : List (UpgradeEvent PeerId Addr)) (peer : PeerId) (connection : ConnectionId) : Prop :=
  ∃ event ∈ run, event.opensRelayed peer = some connection

/-- A run established a direct browser connection to a peer. -/
def Directs (run : List (UpgradeEvent PeerId Addr)) (peer : PeerId) (connection : ConnectionId) : Prop :=
  ∃ event ∈ run, event.opensDirect peer = some connection

def Closes (run : List (UpgradeEvent PeerId Addr)) (connection : ConnectionId) : Prop :=
  ∃ peer, UpgradeEvent.closed peer connection ∈ run

/-- Connection ids are not used twice, and a connection that closes was established with that peer. -/
structure UniqueIds (run : List (UpgradeEvent PeerId Addr)) : Prop where
  ids : ((establishments run).map Prod.fst).Nodup
  closes : ∀ before peer connection after, run = before ++ UpgradeEvent.closed peer connection :: after →
    (connection, peer) ∈ establishments before

/-- The state after a run. -/
def upgraded (run : List (UpgradeEvent PeerId Addr)) : DirectUpgradeState PeerId := final upgradeStep .empty run

/-- The connections that a run handed out to be closed. -/
def handedOut (run : List (UpgradeEvent PeerId Addr)) : List ConnectionId :=
  (outputs upgradeStep .empty run).flatMap UpgradeOutput.closes

section Runs

variable {run : List (UpgradeEvent PeerId Addr)} {event : UpgradeEvent PeerId Addr} {peer : PeerId}
  {connection : ConnectionId}

theorem upgraded_concat : upgraded (run ++ [event]) = (upgradeStep (upgraded run) event).2 := final_concat ..

theorem handedOut_concat :
    handedOut (run ++ [event]) = handedOut run ++ (upgradeStep (upgraded run) event).1.closes := by
  unfold handedOut
  rw [outputs_concat, List.flatMap_append, List.flatMap_singleton]
  rfl

theorem relays_concat :
    Relays (run ++ [event]) peer connection ↔ Relays run peer connection ∨ event.opensRelayed peer = some connection := by
  unfold Relays
  simp only [List.mem_append, List.mem_singleton, or_and_right, exists_or, exists_eq_left]

theorem directs_concat :
    Directs (run ++ [event]) peer connection ↔ Directs run peer connection ∨ event.opensDirect peer = some connection := by
  unfold Directs
  simp only [List.mem_append, List.mem_singleton, or_and_right, exists_or, exists_eq_left]

theorem closes_concat :
    Closes (run ++ [event]) connection ↔ Closes run connection ∨ ∃ peer, event = .closed peer connection := by
  unfold Closes
  simp only [List.mem_append, List.mem_singleton, exists_or, eq_comm]

theorem Relays.established (relays : Relays run peer connection) : (connection, peer) ∈ establishments run := by
  obtain ⟨event, member, opens⟩ := relays
  exact List.mem_filterMap.mpr ⟨event, member, UpgradeEvent.establishes_of_opensRelayed opens⟩

theorem Directs.established (directs : Directs run peer connection) : (connection, peer) ∈ establishments run := by
  obtain ⟨event, member, opens⟩ := directs
  exact List.mem_filterMap.mpr ⟨event, member, UpgradeEvent.establishes_of_opensDirect opens⟩

namespace UniqueIds

theorem initial {rest : List (UpgradeEvent PeerId Addr)} (unique : UniqueIds (run ++ rest)) : UniqueIds run where
  ids := by
    have all := unique.ids
    rw [establishments, List.filterMap_append, List.map_append] at all
    exact (List.nodup_append.mp all).1
  closes before peer connection after split := by
    apply unique.closes before peer connection (after ++ rest)
    rw [split, List.append_assoc, List.cons_append]

theorem owner (unique : UniqueIds run) {other : PeerId} (first : (connection, peer) ∈ establishments run)
    (second : (connection, other) ∈ establishments run) : peer = other :=
  congrArg Prod.snd (List.inj_on_of_nodup_map unique.ids first second rfl)

/-- An id that is established now was not established before. -/
theorem fresh (unique : UniqueIds (run ++ [event])) (establishes : event.establishes = some (connection, peer))
    (other : PeerId) : (connection, other) ∉ establishments run := by
  intro earlier
  have all := unique.ids
  rw [establishments, List.filterMap_append, List.map_append] at all
  refine (List.nodup_append.mp all).2.2 connection (List.mem_map_of_mem earlier) connection ?_ rfl
  rw [List.filterMap_cons, establishes]
  exact List.mem_cons_self

theorem established_of_mem (unique : UniqueIds run) (closed : UpgradeEvent.closed peer connection ∈ run) :
    (connection, peer) ∈ establishments run := by
  obtain ⟨before, after, split⟩ := List.append_of_mem closed
  have earlier := unique.closes before peer connection after split
  rw [split, establishments, List.filterMap_append]
  exact List.mem_append_left _ earlier

/-- So it did not close before either. -/
theorem not_closes (unique : UniqueIds (run ++ [event])) (establishes : event.establishes = some (connection, peer)) :
    ¬ Closes run connection := by
  rintro ⟨other, closed⟩
  exact unique.fresh establishes other (unique.initial.established_of_mem closed)

/-- A run goes on with an event that uses a new id or closes a known connection. -/
theorem push (unique : UniqueIds run) (event : UpgradeEvent PeerId Addr)
    (new : ∀ established ∈ event.establishes, established.1 ∉ (establishments run).map Prod.fst)
    (known : ∀ peer connection, event = .closed peer connection → (connection, peer) ∈ establishments run) :
    UniqueIds (run ++ [event]) where
  ids := by
    rw [establishments, List.filterMap_append, List.map_append]
    refine List.nodup_append.mpr ⟨unique.ids, ?_, ?_⟩
    all_goals
      rw [List.filterMap_cons, List.filterMap_nil]
      cases establishes : event.establishes with
      | none => simp
      | some established => ?_
    · exact List.nodup_singleton _
    · rintro connection earlier _ now rfl
      exact new established establishes (List.mem_singleton.mp now ▸ earlier)
  closes before peer connection after split := by
    rcases List.eq_nil_or_concat after with rfl | ⟨after, last, rfl⟩
    · obtain ⟨rfl, same⟩ := List.append_inj' split rfl
      exact known peer connection (List.singleton_inj.mp same)
    · rw [List.concat_eq_append, ← List.cons_append, ← List.append_assoc] at split
      exact unique.closes before peer connection after (List.append_inj' split rfl).1

/-- A connection that closes now closes for the peer it was established with. -/
theorem closes_owner (unique : UniqueIds (run ++ [event])) {other : PeerId} (closed : event = .closed other connection)
    (established : (connection, peer) ∈ establishments run) : event.isClose peer connection = true := by
  subst closed
  have same := unique.initial.owner (unique.closes run other connection [] rfl) established
  simp [UpgradeEvent.isClose, same]

end UniqueIds

theorem tidy_upgraded (run : List (UpgradeEvent PeerId Addr)) : (upgraded run).Tidy := by
  induction run using List.reverseRecOn with
  | nil => exact ⟨fun _ => List.nodup_nil, fun _ => (Option.some_ne_none []).symm⟩
  | append_singleton run event ih =>
    rw [upgraded_concat]
    exact tidy_step event ih

theorem relays_of_tracked (tracked : connection ∈ (upgraded run).tracked peer) : Relays run peer connection := by
  induction run using List.reverseRecOn with
  | nil => exact absurd tracked List.not_mem_nil
  | append_singleton run event ih =>
    rw [upgraded_concat, mem_tracked_step] at tracked
    rw [relays_concat]
    rcases tracked with opens | ⟨earlier, -⟩
    · exact .inr opens
    · exact .inl (ih earlier)

theorem relays_of_handedOut (handed : connection ∈ handedOut run) : ∃ peer, Relays run peer connection := by
  induction run using List.reverseRecOn with
  | nil => exact absurd handed List.not_mem_nil
  | append_singleton run event ih =>
    rw [handedOut_concat, List.mem_append, mem_closes_step] at handed
    rcases handed with earlier | ⟨peer, -, tracked⟩
    · obtain ⟨peer, relays⟩ := ih earlier
      exact ⟨peer, relays_concat.mpr (.inl relays)⟩
    · exact ⟨peer, relays_concat.mpr (.inl (relays_of_tracked tracked))⟩

/-- **The tracked connections** are those that were established, did not close and were not handed out. -/
theorem tracked_iff (unique : UniqueIds run) : connection ∈ (upgraded run).tracked peer ↔
    Relays run peer connection ∧ ¬ Closes run connection ∧ connection ∉ handedOut run := by
  induction run using List.reverseRecOn with
  | nil => exact ⟨fun tracked => absurd tracked List.not_mem_nil, fun ⟨⟨_, member, _⟩, _⟩ => absurd member List.not_mem_nil⟩
  | append_singleton run event ih =>
    have earlier := ih unique.initial
    rw [upgraded_concat, mem_tracked_step, relays_concat, closes_concat, handedOut_concat, List.mem_append,
      mem_closes_step, not_or, not_or]
    constructor
    · rintro (opens | ⟨tracked, stays, goesOn⟩)
      · have establishes := UpgradeEvent.establishes_of_opensRelayed opens
        refine ⟨.inr opens, ⟨unique.not_closes establishes, ?_⟩, ?_, ?_⟩
        · rintro ⟨other, rfl⟩
          exact Option.some_ne_none _ opens.symm
        · intro handed
          obtain ⟨other, relays⟩ := relays_of_handedOut handed
          exact unique.fresh establishes other relays.established
        · rintro ⟨other, -, tracked⟩
          exact unique.fresh establishes other (relays_of_tracked tracked).established
      · obtain ⟨relays, unclosed, kept⟩ := earlier.mp tracked
        refine ⟨.inl relays, ⟨unclosed, ?_⟩, kept, ?_⟩
        · rintro ⟨other, closed⟩
          exact Bool.noConfusion ((unique.closes_owner closed relays.established).symm.trans goesOn)
        · rintro ⟨other, migrates, elsewhere⟩
          have same := unique.initial.owner (relays_of_tracked elsewhere).established relays.established
          exact Bool.noConfusion (migrates.symm.trans (same ▸ stays))
    · rintro ⟨relays | opens, ⟨unclosed, goesOn⟩, kept, stays⟩
      · have tracked := earlier.mpr ⟨relays, unclosed, kept⟩
        refine .inr ⟨tracked, ?_, ?_⟩
        · exact Bool.eq_false_iff.mpr fun migrates => stays ⟨peer, migrates, tracked⟩
        · exact Bool.eq_false_iff.mpr fun closes => goesOn ⟨peer, UpgradeEvent.eq_closed_of_isClose closes⟩
      · exact .inl opens

/-- A pending connection was established and is open. -/
theorem open_of_pending (unique : UniqueIds run) (pending : (upgraded run).pendingDirect.lookup peer = some connection) :
    Directs run peer connection ∧ ¬ Closes run connection := by
  induction run using List.reverseRecOn with
  | nil => exact absurd pending.symm (Option.some_ne_none _)
  | append_singleton run event ih =>
    rw [upgraded_concat, lookup_pendingDirect_step] at pending
    rw [directs_concat, closes_concat, not_or]
    rcases pending with opens | ⟨earlier, -, -, goesOn⟩
    · refine ⟨.inr opens, unique.not_closes (UpgradeEvent.establishes_of_opensDirect opens), ?_⟩
      rintro ⟨other, rfl⟩
      exact Option.some_ne_none _ opens.symm
    · obtain ⟨directs, unclosed⟩ := ih unique.initial earlier
      refine ⟨.inl directs, unclosed, ?_⟩
      rintro ⟨other, closed⟩
      exact Bool.noConfusion ((unique.closes_owner closed directs.established).symm.trans goesOn)

theorem nodup_handedOut (unique : UniqueIds run) : (handedOut run).Nodup := by
  induction run using List.reverseRecOn with
  | nil => exact List.nodup_nil
  | append_singleton run event ih =>
    rw [handedOut_concat]
    refine List.nodup_append.mpr ⟨ih unique.initial, nodup_closes_step event (tidy_upgraded run), ?_⟩
    rintro connection handed _ again rfl
    obtain ⟨peer, -, tracked⟩ := (mem_closes_step _ _ _).mp again
    exact ((tracked_iff unique.initial).mp tracked).2.2 handed

/-- **The pending connection of a peer** is the last direct one, neither identified nor closed since. -/
def Waiting (run : List (UpgradeEvent PeerId Addr)) (peer : PeerId) (connection : ConnectionId) : Prop :=
  ∃ before event after, run = before ++ event :: after ∧ event.opensDirect peer = some connection ∧
    ∀ later ∈ after, later.opensDirect peer = none ∧ later.isIdentify peer connection = false ∧
      later.isClose peer connection = false

theorem waiting_concat : Waiting (run ++ [event]) peer connection ↔
    event.opensDirect peer = some connection ∨ (Waiting run peer connection ∧ event.opensDirect peer = none ∧
      event.isIdentify peer connection = false ∧ event.isClose peer connection = false) := by
  constructor
  · rintro ⟨before, opener, after, split, opens, quiet⟩
    rcases List.eq_nil_or_concat after with rfl | ⟨after, last, rfl⟩
    · have same := (List.append_inj' split rfl).2
      exact .inl (List.singleton_inj.mp same ▸ opens)
    · rw [List.concat_eq_append, ← List.cons_append, ← List.append_assoc] at split
      obtain ⟨rfl, same⟩ := List.append_inj' split rfl
      obtain rfl := List.singleton_inj.mp same
      rw [List.concat_eq_append] at quiet
      exact .inr ⟨⟨before, opener, after, rfl, opens, fun later member => quiet later (List.mem_append_left _ member)⟩,
        quiet event (List.mem_append_right _ List.mem_cons_self)⟩
  · rintro (opens | ⟨⟨before, opener, after, rfl, opens, quiet⟩, calm⟩)
    · exact ⟨run, event, [], rfl, opens, fun _ member => absurd member List.not_mem_nil⟩
    · refine ⟨before, opener, after ++ [event], by simp, opens, ?_⟩
      intro later member
      rcases List.mem_append.mp member with earlier | last
      · exact quiet later earlier
      · exact List.mem_singleton.mp last ▸ calm

theorem pending_iff : (upgraded run).pendingDirect.lookup peer = some connection ↔ Waiting run peer connection := by
  induction run using List.reverseRecOn with
  | nil =>
    constructor
    · intro pending
      exact absurd pending.symm (Option.some_ne_none _)
    · rintro ⟨before, event, after, split, -⟩
      exact absurd split.symm (List.append_ne_nil_of_right_ne_nil _ (List.cons_ne_nil _ _))
  | append_singleton run event ih => rw [upgraded_concat, lookup_pendingDirect_step, waiting_concat, ih]

/-- No direct connection to the peer was established after one that was. -/
def LastDirect (run : List (UpgradeEvent PeerId Addr)) (peer : PeerId) (connection : ConnectionId) : Prop :=
  ∃ before event after, run = before ++ event :: after ∧ event.opensDirect peer = some connection ∧
    ∀ later ∈ after, later.opensDirect peer = none

theorem UpgradeEvent.eq_identified_of_isIdentify (identify : event.isIdentify peer connection = true) :
    event = .identified peer connection := by
  cases event <;> simp_all [isIdentify]

theorem waiting_iff_lastDirect (unclosed : ¬ Closes run connection)
    (first : UpgradeEvent.identified peer connection ∉ run) :
    Waiting run peer connection ↔ LastDirect run peer connection := by
  constructor
  · rintro ⟨before, event, after, split, opens, quiet⟩
    exact ⟨before, event, after, split, opens, fun later member => (quiet later member).1⟩
  · rintro ⟨before, event, after, rfl, opens, last⟩
    refine ⟨before, event, after, rfl, opens, fun later member => ⟨last later member, ?_, ?_⟩⟩
    all_goals
      have there : later ∈ before ++ event :: after := List.mem_append_right _ (List.mem_cons_of_mem _ member)
      rw [Bool.eq_false_iff]
      intro ends
    · exact first (UpgradeEvent.eq_identified_of_isIdentify ends ▸ there)
    · exact unclosed ⟨peer, UpgradeEvent.eq_closed_of_isClose ends ▸ there⟩

end Runs

/-! ### The path of a peer -/

/-- **Migration keeps a path**: relayed connections of a peer are handed out at an Identify over an open direct
browser connection of that peer, open ones that were not handed out before; and every state refers to
connections that are established and open. -/
theorem migration_keeps_a_path (run : List (UpgradeEvent PeerId Addr)) (unique : UniqueIds run) :
    (∀ before event after, run = before ++ event :: after →
      ∀ relayed ∈ (upgradeStep (upgraded before) event).1.closes, ∃ peer direct, event = .identified peer direct ∧
        (Directs before peer direct ∧ ¬ Closes before direct) ∧
        (Relays before peer relayed ∧ ¬ Closes before relayed ∧ relayed ∉ handedOut before)) ∧
    (handedOut run).Nodup ∧
    ∀ before after, run = before ++ after →
      (∀ peer direct, (upgraded before).pendingDirect.lookup peer = some direct →
        Directs before peer direct ∧ ¬ Closes before direct) ∧
      ∀ peer connections, (upgraded before).relayed.lookup peer = some connections → connections ≠ [] ∧
        ∀ relayed ∈ connections, Relays before peer relayed ∧ ¬ Closes before relayed := by
  refine ⟨?_, nodup_handedOut unique, ?_⟩
  · rintro before event after rfl relayed handed
    obtain ⟨peer, migrates, tracked⟩ := (mem_closes_step _ _ _).mp handed
    cases event with
    | identified other direct =>
      obtain ⟨rfl, pending⟩ := of_decide_eq_true migrates
      exact ⟨other, direct, rfl, open_of_pending unique.initial pending, (tracked_iff unique.initial).mp tracked⟩
    | established => exact Bool.noConfusion migrates
    | closed => exact Bool.noConfusion migrates
    | signaling => exact Bool.noConfusion migrates
  · rintro before after rfl
    refine ⟨fun peer direct => open_of_pending unique.initial, fun peer connections found => ⟨?_, ?_⟩⟩
    · rintro rfl
      exact (tidy_upgraded before).nonempty peer found
    · intro relayed member
      have tracked : relayed ∈ (upgraded before).tracked peer := by
        rw [DirectUpgradeState.tracked, found]
        exact member
      obtain ⟨relays, unclosed, -⟩ := (tracked_iff unique.initial).mp tracked
      exact ⟨relays, unclosed⟩

/-- **Migration completes** at the first Identify over an open direct connection exactly when that is the last
direct one, or when nothing is left to retire. -/
theorem migration_completes_iff (run : List (UpgradeEvent PeerId Addr)) (unique : UniqueIds run) (peer : PeerId)
    (direct : ConnectionId) (unclosed : ¬ Closes run direct) (first : UpgradeEvent.identified peer direct ∉ run) :
    (∀ relayed, Relays run peer relayed →
      relayed ∉ (upgraded (run ++ [UpgradeEvent.identified peer direct])).tracked peer) ↔
    LastDirect run peer direct ∨
      ∀ relayed, Relays run peer relayed → Closes run relayed ∨ relayed ∈ handedOut run := by
  have left : ∀ relayed, relayed ∈ (upgraded (run ++ [UpgradeEvent.identified peer direct])).tracked peer ↔
      (Relays run peer relayed ∧ ¬ Closes run relayed ∧ relayed ∉ handedOut run) ∧ ¬ LastDirect run peer direct := by
    intro relayed
    rw [upgraded_concat, mem_tracked_step, tracked_iff unique, ← waiting_iff_lastDirect unclosed first, ← pending_iff]
    simp [UpgradeEvent.opensRelayed, DirectUpgradeState.migrates, UpgradeEvent.isClose]
  constructor
  · intro retired
    by_cases last : LastDirect run peer direct
    · exact .inl last
    · refine .inr fun relayed relays => ?_
      by_contra stays
      obtain ⟨unclosed, kept⟩ := not_or.mp stays
      exact retired relayed relays ((left relayed).mpr ⟨⟨relays, unclosed, kept⟩, last⟩)
  · rintro exhausted relayed relays tracked
    obtain ⟨⟨-, unclosed, kept⟩, later⟩ := (left relayed).mp tracked
    rcases exhausted with last | nothing
    · exact later last
    · exact (nothing relayed relays).elim unclosed kept

/-! ### Two browsers -/

/-- A path to a seed: over a relay, or directly between browsers. -/
structure BrowserPath where
  peer : Seed
  circuit : Bool
  deriving DecidableEq

namespace BrowserPath

def text (path : BrowserPath) : String :=
  (if path.circuit then "/p2p-circuit" else "/webrtc") ++ "/p2p/" ++ path.peer.text

instance : Multiaddr Seed BrowserPath where
  toText := text
  parse written := match [⟨.nnoo, true⟩, ⟨.nnoo, false⟩, ⟨.qcu2, true⟩, ⟨.qcu2, false⟩].find? fun path : BrowserPath =>
      path.text = written with
    | some path => .ok path
    | none => .error "unknown protocol string"
  iter path := [if path.circuit then .p2pCircuit else .other "/webrtc", .p2p path.peer]

def relayed (connection : ConnectionId) : UpgradeEvent Seed BrowserPath :=
  .established .nnoo connection ⟨.nnoo, true⟩ true true

def direct (connection : ConnectionId) : UpgradeEvent Seed BrowserPath :=
  .established .nnoo connection ⟨.nnoo, false⟩ false true

/-- A relayed connection, then two direct ones. -/
def parallel : List (UpgradeEvent Seed BrowserPath) := [relayed 1, direct 2, direct 3]

theorem uniqueIds_nil : UniqueIds ([] : List (UpgradeEvent Seed BrowserPath)) :=
  ⟨List.nodup_nil, fun before _ _ _ split =>
    absurd split.symm (List.append_ne_nil_of_right_ne_nil before (List.cons_ne_nil _ _))⟩

theorem parallel_uniqueIds : UniqueIds parallel :=
  ((uniqueIds_nil.push (relayed 1) (by decide) nofun).push (direct 2) (by decide) nofun).push (direct 3) (by decide) nofun

/-- A relayed connection is handed out at the Identify over the direct one, and then closes. -/
theorem migration_keeps_a_path_once :
    handedOut [relayed 1, direct 2, .identified .nnoo 2, .closed .nnoo 1] = [1] ∧
    ((handedOut [relayed 1, direct 2, .identified .nnoo 2, .closed .nnoo 1]).Nodup) := by
  have unique : UniqueIds [relayed 1, direct 2, .identified .nnoo 2, .closed .nnoo 1] := by
    refine (((uniqueIds_nil.push (relayed 1) (by decide) nofun).push (direct 2) (by decide) nofun).push
      (.identified .nnoo 2) (by decide) nofun).push (.closed .nnoo 1) (by decide) ?_
    rintro peer connection ⟨⟩
    decide
  exact ⟨by decide, (migration_keeps_a_path _ unique).2.1⟩

/-- The Identify over the second of two direct connections retires the relayed path. -/
theorem migration_completes_last :
    ¬ Closes parallel 3 ∧ LastDirect parallel .nnoo 3 ∧
      ∀ relayed, Relays parallel .nnoo relayed →
        relayed ∉ (upgraded (parallel ++ [UpgradeEvent.identified .nnoo 3])).tracked .nnoo := by
  have unclosed : ¬ Closes parallel 3 := by
    rintro ⟨peer, closed⟩
    simp [parallel, relayed, direct] at closed
  have last : LastDirect parallel .nnoo 3 :=
    ⟨[relayed 1, direct 2], direct 3, [], rfl, by decide, fun _ member => absurd member List.not_mem_nil⟩
  exact ⟨unclosed, last, (migration_completes_iff parallel parallel_uniqueIds .nnoo 3 unclosed
    (by simp [parallel, relayed, direct])).mpr (.inl last)⟩

/-- **The Identify over the first of two direct connections retires nothing**, although that connection is open;
and when the second one closes, a later Identify over the first does not either. -/
theorem migration_stuck_on_first :
    UniqueIds parallel ∧ Directs parallel .nnoo 2 ∧ ¬ Closes parallel 2 ∧ Relays parallel .nnoo 1 ∧
    (∀ peer connection, UpgradeEvent.identified peer connection ∉ parallel) ∧
    (upgraded (parallel ++ [UpgradeEvent.identified .nnoo 2])).tracked .nnoo = [1] ∧
    (upgraded (parallel ++ [UpgradeEvent.identified .nnoo 2, .closed .nnoo 3, .identified .nnoo 2])).tracked .nnoo
      = [1] := by
  refine ⟨parallel_uniqueIds, ⟨direct 2, by simp [parallel], by decide⟩, ?_, ⟨relayed 1, by simp [parallel], by decide⟩,
    by simp [parallel, relayed, direct], by decide, by decide⟩
  rintro ⟨peer, closed⟩
  simp [parallel, relayed, direct] at closed

end BrowserPath

end P2pNet.Node
