/-
**Relay and mediator sections of the configuration** (`crates/connectivity/relay/config.rs`,
`crates/connectivity/relay/schedule.rs`, `crates/connectivity/mediator.rs`).

The relay section bounds reservations and circuits, all together and for each peer. The mediator section lowers
these bounds: its own limits those for all peers, the number of mediated peers those for one peer.
-/

import P2pNet.Lib.Text
import P2pNet.Common.Basic

namespace P2pNet.Connectivity

open Lib PeerIdentity

/-! ### The schedule -/

structure RelayWindow where
  days : List String
  start : String
  «end» : String

structure RelaySchedule where
  enabled : Bool
  windows : List RelayWindow

def validDays : List String :=
  ["all", "*", "sun", "sunday", "mon", "monday", "tue", "tues", "tuesday", "wed", "wednesday", "thu", "thur",
    "thurs", "thursday", "fri", "friday", "sat", "saturday"]

def isValidDay (raw : String) : Bool := validDays.any (· = Text.toAsciiLowercase (Text.trim raw))

/-- Minutes of the day. -/
def parseHhmm (value : String) : Option ℕ :=
  match Text.split value ':' with
  | [first, second] =>
    match Text.parseUnsigned 65535 first, Text.parseUnsigned 65535 second with
    | some hour, some minute => if hour ≥ 24 ∨ minute ≥ 60 then none else some (hour * 60 + minute)
    | _, _ => none
  | _ => none

example : ["00:00", "23:59", "24:00", "12:60", "7:05:00", "7"].map parseHhmm =
    [some 0, some 1439, none, none, none, none] := by
  decide

def RelayWindow.validate (window : RelayWindow) : Except NetError Unit := do
  rejectIf (window.days = []) (configError "relay.schedule.windows entries must include at least one day")
  window.days.forM fun day =>
    rejectIf (isValidDay day = false) (configError s!"relay.schedule.windows contains invalid day `{day}`")
  rejectIf (parseHhmm window.start = none)
    (configError s!"relay.schedule.windows contains invalid start time `{window.start}`")
  rejectIf (parseHhmm window.end = none)
    (configError s!"relay.schedule.windows contains invalid end time `{window.end}`")

def RelaySchedule.validate (schedule : RelaySchedule) : Except NetError Unit :=
  schedule.windows.forM RelayWindow.validate

/-! ### The relay section -/

inductive RelayAccess
  | allowAll
  | allowList
  | denyList
  deriving DecidableEq

structure RelayServiceConfig where
  enabled : Bool
  access : RelayAccess
  allowPeers : List String
  denyPeers : List String
  maxReservations : ℕ
  maxReservationsPerPeer : ℕ
  reservationDurationSecs : ℕ
  maxCircuits : ℕ
  maxCircuitsPerPeer : ℕ
  maxCircuitDurationSecs : ℕ
  maxCircuitBytes : ℕ
  schedule : RelaySchedule

/-- A bound for all peers and the bound for one of them. -/
def checkLimits (name : String) (limit perPeer : ℕ) : Except NetError Unit := do
  atLeastOne s!"relay.{name}" limit
  atLeastOne s!"relay.{name}_per_peer" perPeer
  rejectIf (perPeer > limit) (configError s!"relay.{name}_per_peer must be <= relay.{name}")

theorem checkLimits_ok_iff {name : String} {limit perPeer : ℕ} :
    checkLimits name limit perPeer = .ok () ↔ 1 ≤ perPeer ∧ perPeer ≤ limit := by
  unfold checkLimits
  rw [bind_unit_ok_iff, bind_unit_ok_iff, atLeastOne_ok_iff, atLeastOne_ok_iff, rejectIf_ok_iff]
  omega

namespace RelayServiceConfig

def default : RelayServiceConfig where
  enabled := false
  access := .allowAll
  allowPeers := []
  denyPeers := []
  maxReservations := 64
  maxReservationsPerPeer := 1
  reservationDurationSecs := 60 * 60
  maxCircuits := 128
  maxCircuitsPerPeer := 4
  maxCircuitDurationSecs := 2 * 60
  maxCircuitBytes := 100 * 1024 * 1024
  schedule := ⟨false, []⟩

variable (PeerId : Type) [PeerIdentity PeerId]

def validatePeerIds (field : String) (values : List String) : Except NetError Unit :=
  values.forM fun raw => match (parse raw : Except String PeerId) with
    | .ok _ => .ok ()
    | .error err => .error (configError s!"{field} contains invalid peer id `{raw}`: {err}")

variable (relay : RelayServiceConfig)

def validate : Except NetError Unit := do
  validatePeerIds PeerId "relay.allow_peers" relay.allowPeers
  validatePeerIds PeerId "relay.deny_peers" relay.denyPeers
  relay.schedule.validate
  checkLimits "max_reservations" relay.maxReservations relay.maxReservationsPerPeer
  checkLimits "max_circuits" relay.maxCircuits relay.maxCircuitsPerPeer
  atLeastOne "relay.reservation_duration_secs" relay.reservationDurationSecs
  atLeastOne "relay.max_circuit_duration_secs" relay.maxCircuitDurationSecs
  atLeastOne "relay.max_circuit_bytes" relay.maxCircuitBytes

/-- The limits are within each other. -/
def Limited : Prop :=
  (1 ≤ relay.maxReservationsPerPeer ∧ relay.maxReservationsPerPeer ≤ relay.maxReservations) ∧
    (1 ≤ relay.maxCircuitsPerPeer ∧ relay.maxCircuitsPerPeer ≤ relay.maxCircuits)

/-- What `validate` checks beside the limits. -/
structure Sound : Prop where
  allowPeers : validatePeerIds PeerId "relay.allow_peers" relay.allowPeers = .ok ()
  denyPeers : validatePeerIds PeerId "relay.deny_peers" relay.denyPeers = .ok ()
  schedule : relay.schedule.validate = .ok ()
  reservationDuration : 1 ≤ relay.reservationDurationSecs
  circuitDuration : 1 ≤ relay.maxCircuitDurationSecs
  circuitBytes : 1 ≤ relay.maxCircuitBytes

theorem validate_ok_iff : relay.validate PeerId = .ok () ↔ relay.Sound PeerId ∧ relay.Limited := by
  unfold validate Limited
  simp only [bind_unit_ok_iff, checkLimits_ok_iff, atLeastOne_ok_iff]
  constructor
  · rintro ⟨allow, deny, schedule, reservations, circuits, duration, circuitDuration, bytes⟩
    exact ⟨⟨allow, deny, schedule, duration, circuitDuration, bytes⟩, reservations, circuits⟩
  · rintro ⟨sound, reservations, circuits⟩
    exact ⟨sound.allowPeers, sound.denyPeers, sound.schedule, reservations, circuits, sound.reservationDuration,
      sound.circuitDuration, sound.circuitBytes⟩

end RelayServiceConfig

/-! ### The mediator section -/

structure MediatorConfig where
  enabled : Bool
  advertiseForDcutr : Bool
  allowReservations : Bool
  allowCircuits : Bool
  requireAuthenticatedPeers : Bool
  maxMediatedPeers : ℕ
  maxReservations : ℕ
  maxCircuits : ℕ

namespace MediatorConfig

def default : MediatorConfig where
  enabled := false
  advertiseForDcutr := true
  allowReservations := true
  allowCircuits := true
  requireAuthenticatedPeers := false
  maxMediatedPeers := 64
  maxReservations := 64
  maxCircuits := 128

def error (reason : String) : NetError := .config "<mediator>" reason

variable (mediator : MediatorConfig)

def validate (relay : RelayServiceConfig) : Except NetError Unit :=
  if !mediator.enabled then .ok ()
  else do
    rejectIf (mediator.allowReservations = false)
      (error "mediator.allow_reservations must be true while mediator.enabled is true")
    rejectIf (mediator.allowCircuits = false)
      (error "mediator.allow_circuits must be true while mediator.enabled is true")
    rejectIf (mediator.maxMediatedPeers = 0) (error "mediator.max_mediated_peers must be at least 1")
    rejectIf (mediator.maxReservations = 0) (error "mediator.max_reservations must be at least 1")
    rejectIf (mediator.maxCircuits = 0) (error "mediator.max_circuits must be at least 1")
    if mediator.requireAuthenticatedPeers then do
      rejectIf (relay.access ≠ .allowList)
        (error "mediator.require_authenticated_peers requires relay.access = allow_list")
      rejectIf (relay.allowPeers = [])
        (error "mediator.require_authenticated_peers requires relay.allow_peers to contain at least one trusted peer")
    else .ok ()

def applyToRelay (relay : RelayServiceConfig) : RelayServiceConfig :=
  if !mediator.enabled then relay
  else
    { relay with
      enabled := true
      maxReservations := min relay.maxReservations mediator.maxReservations
      maxCircuits := min relay.maxCircuits mediator.maxCircuits
      maxReservationsPerPeer := max (min relay.maxReservationsPerPeer mediator.maxMediatedPeers) 1
      maxCircuitsPerPeer := max (min relay.maxCircuitsPerPeer mediator.maxMediatedPeers) 1 }

/-- The part of an accepted section that is about numbers. -/
structure Positive : Prop where
  mediatedPeers : 1 ≤ mediator.maxMediatedPeers
  reservations : 1 ≤ mediator.maxReservations
  circuits : 1 ≤ mediator.maxCircuits

theorem positive_of_validate {mediator : MediatorConfig} {relay : RelayServiceConfig}
    (enabled : mediator.enabled = true) (valid : mediator.validate relay = .ok ()) : mediator.Positive := by
  unfold validate at valid
  rw [enabled] at valid
  simp only [Bool.not_true, Bool.false_eq_true, if_false, bind_unit_ok_iff, rejectIf_ok_iff] at valid
  obtain ⟨_, _, peers, reservations, circuits, _⟩ := valid
  exact ⟨Nat.one_le_iff_ne_zero.mpr peers, Nat.one_le_iff_ne_zero.mpr reservations,
    Nat.one_le_iff_ne_zero.mpr circuits⟩

/-- **The projected limits.** -/
theorem applyToRelay_limited_iff {relay : RelayServiceConfig} (enabled : mediator.enabled = true)
    (positive : mediator.Positive) (limited : relay.Limited) :
    (mediator.applyToRelay relay).Limited ↔
      min relay.maxReservationsPerPeer mediator.maxMediatedPeers ≤ mediator.maxReservations ∧
        min relay.maxCircuitsPerPeer mediator.maxMediatedPeers ≤ mediator.maxCircuits := by
  obtain ⟨⟨_, _⟩, _, _⟩ := limited
  obtain ⟨_, _, _⟩ := positive
  unfold applyToRelay RelayServiceConfig.Limited
  rw [enabled]
  simp only [Bool.not_true, Bool.false_eq_true, if_false]
  omega

/-- The bounds for one peer never become zero. -/
theorem applyToRelay_limited_iff_le (enabled : mediator.enabled = true) (relay : RelayServiceConfig) :
    (mediator.applyToRelay relay).Limited ↔
      (mediator.applyToRelay relay).maxReservationsPerPeer ≤ (mediator.applyToRelay relay).maxReservations ∧
        (mediator.applyToRelay relay).maxCircuitsPerPeer ≤ (mediator.applyToRelay relay).maxCircuits := by
  unfold applyToRelay RelayServiceConfig.Limited
  rw [enabled]
  simp only [Bool.not_true, Bool.false_eq_true, if_false]
  omega

theorem applyToRelay_sound_iff (PeerId : Type) [PeerIdentity PeerId] (relay : RelayServiceConfig) :
    (mediator.applyToRelay relay).Sound PeerId ↔ relay.Sound PeerId := by
  unfold applyToRelay
  split_ifs
  · rfl
  · exact ⟨fun sound => ⟨sound.1, sound.2, sound.3, sound.4, sound.5, sound.6⟩,
      fun sound => ⟨sound.1, sound.2, sound.3, sound.4, sound.5, sound.6⟩⟩

end MediatorConfig

end P2pNet.Connectivity
