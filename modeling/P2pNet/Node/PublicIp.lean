/-
**External addresses from the public IP** (`crates/node/public_ip.rs`, `crates/node/runtime_tasks.rs`).

The probe learns the public IP of the node. The listen addresses, with their IP replaced by it, are then
advertised as external ones.
-/

import P2pNet.Lib.Firsts
import P2pNet.Connectivity.Components

set_option linter.unusedSectionVars false

namespace P2pNet.Node

open Lib PeerIdentity Connectivity

variable {PeerId Addr : Type} [PeerIdentity PeerId] [DecidableEq Addr] [Multiaddr PeerId Addr] [BuildAddr PeerId Addr]
  (components : Components)

/-! ### Rewriting a listen address -/

/-- What `rewrite_listen_ip` has collected. -/
structure RewriteScan (PeerId : Type) where
  rewritten : List (Protocol PeerId)
  replacedIp : Bool
  webRtcDirect : Bool
  certhash : Bool

namespace RewriteScan

def start : RewriteScan PeerId := ⟨[], false, false, false⟩

def push (scan : RewriteScan PeerId) (protocol : Protocol PeerId) : RewriteScan PeerId :=
  { scan with rewritten := scan.rewritten ++ [protocol] }

/-- One component. An ephemeral port is only known after binding. -/
def next (publicIp : IpAddr) (scan : RewriteScan PeerId) (protocol : Protocol PeerId) : Option (RewriteScan PeerId) :=
  match components.of protocol with
  | .tcp port | .udp port => if port = 0 then none else some (scan.push protocol)
  | .webRtcDirect => some { scan.push protocol with webRtcDirect := true }
  | .certhash => some { scan.push protocol with certhash := true }
  | .ip listenIp =>
    if !listenIp.sameFamily publicIp || listenIp.isLoopback then none
    else some { scan.push (components.ip publicIp) with replacedIp := true }
  | .dns => none
  | .dnsaddr | .webTransport | .other => some (scan.push protocol)

end RewriteScan

def rewriteListenIp (addr : Addr) (publicIp : IpAddr) : Option Addr :=
  match (Multiaddr.iter addr).foldlM (RewriteScan.next components publicIp) .start with
  | none => none
  | some scan =>
    -- WebRTC-direct is only dialable with the listener's certificate hash
    if scan.replacedIp && (scan.certhash || !scan.webRtcDirect) then some (BuildAddr.ofProtocols scan.rewritten) else none

/-! ### Synthesized addresses -/

def synthesizeStep (ip : IpAddr) (addresses : List Addr) (raw : String) : List Addr :=
  match Multiaddr.parse raw with
  | .error _ => addresses
  | .ok (addr : Addr) =>
    match rewriteListenIp components addr ip with
    | none => addresses
    | some external =>
      if isPublicDirectAddr components.hostOf external && !addresses.contains external then addresses ++ [external]
      else addresses

def synthesizeExternalAddresses (ip : IpAddr) (listenAddresses : List String) : List Addr :=
  listenAddresses.foldl (synthesizeStep components ip) []

/-- The start of `apply_public_ip_probe_result`: the result of the probe, with what the bound listeners add. -/
def boundExternalAddresses (advertiseListenAddresses : Bool) (publicIp : Option IpAddr) (externalAddresses : List Addr)
    (bound : List String) : List Addr :=
  match advertiseListenAddresses, publicIp with
  | true, some ip =>
    (synthesizeExternalAddresses components ip bound).foldl pushUnique externalAddresses
  | _, _ => externalAddresses

/-! ### What the scan accepts -/

/-- The component does not end the scan. -/
def passesScan (publicIp : IpAddr) : Component → Bool
  | .tcp port | .udp port => port != 0
  | .ip listenIp => listenIp.sameFamily publicIp && !listenIp.isLoopback
  | .dns => false
  | .dnsaddr | .webRtcDirect | .certhash | .webTransport | .other => true

/-- **A listen address that the probe may rewrite**: it has an IP component, every one is of the probed family and
none is loopback, nothing has to be looked up, no port is ephemeral, and WebRTC-direct has its certificate hash. -/
structure Rewritable (publicIp : IpAddr) (addr : Addr) : Prop where
  passes : ∀ protocol ∈ Multiaddr.iter addr, passesScan publicIp (components.of protocol) = true
  hasIp : ∃ protocol ∈ Multiaddr.iter addr, (components.of protocol).isIp = true
  certified : (∃ protocol ∈ Multiaddr.iter addr, components.of protocol = .webRtcDirect) →
    ∃ protocol ∈ Multiaddr.iter addr, components.of protocol = .certhash

/-- Every IP component replaced by another IP. -/
def replaceIp (publicIp : IpAddr) (protocol : Protocol PeerId) : Protocol PeerId :=
  if (components.of protocol).isIp then components.ip publicIp else protocol

/-- The address with every IP component replaced. -/
def replaceIps (publicIp : IpAddr) (addr : Addr) : Addr :=
  BuildAddr.ofProtocols ((Multiaddr.iter addr).map (replaceIp components publicIp))

section Scan

variable (publicIp : IpAddr)

/-- The scan after one more component that it accepts. -/
def RewriteScan.after (scan : RewriteScan PeerId) (protocols : List (Protocol PeerId)) : RewriteScan PeerId where
  rewritten := scan.rewritten ++ protocols.map (replaceIp components publicIp)
  replacedIp := scan.replacedIp || protocols.any fun protocol => (components.of protocol).isIp
  webRtcDirect := scan.webRtcDirect || protocols.any fun protocol => components.of protocol = .webRtcDirect
  certhash := scan.certhash || protocols.any fun protocol => components.of protocol = .certhash

theorem RewriteScan.next_eq (scan : RewriteScan PeerId) (protocol : Protocol PeerId) :
    scan.next components publicIp protocol
      = if passesScan publicIp (components.of protocol) then some (scan.after components publicIp [protocol]) else none := by
  unfold RewriteScan.next RewriteScan.after replaceIp
  cases kind : components.of protocol with
  | ip listenIp =>
    cases family : listenIp.sameFamily publicIp <;> cases near : listenIp.isLoopback <;>
      simp [passesScan, Component.isIp, RewriteScan.push, kind, family, near]
  | tcp port => by_cases zero : port = 0 <;> simp [passesScan, Component.isIp, RewriteScan.push, kind, zero]
  | udp port => by_cases zero : port = 0 <;> simp [passesScan, Component.isIp, RewriteScan.push, kind, zero]
  | _ => simp [passesScan, Component.isIp, RewriteScan.push, kind]

theorem RewriteScan.after_after (scan : RewriteScan PeerId) (first second : List (Protocol PeerId)) :
    (scan.after components publicIp first).after components publicIp second
      = scan.after components publicIp (first ++ second) := by
  simp [RewriteScan.after, Bool.or_assoc]

/-- **The scan** accepts an address exactly when every component passes. -/
theorem RewriteScan.foldlM_eq (scan : RewriteScan PeerId) (protocols : List (Protocol PeerId)) :
    protocols.foldlM (RewriteScan.next components publicIp) scan
      = if ∀ protocol ∈ protocols, passesScan publicIp (components.of protocol) = true then
          some (scan.after components publicIp protocols)
        else none :=
  foldlM_guarded (fun scan => by simp [RewriteScan.after]) (next_eq components publicIp)
    (fun scan protocol rest => after_after components publicIp scan [protocol] rest) scan protocols

/-- **Rewriting a listen address** is decided by its components, and replaces the IP components. -/
theorem rewriteListenIp_eq_some_iff (addr external : Addr) :
    rewriteListenIp components addr publicIp = some external ↔
      Rewritable components publicIp addr ∧ external = replaceIps components publicIp addr := by
  unfold rewriteListenIp
  rw [RewriteScan.foldlM_eq]
  by_cases all : ∀ protocol ∈ Multiaddr.iter addr, passesScan publicIp (components.of protocol) = true
  · rw [if_pos all]
    dsimp only [RewriteScan.after, RewriteScan.start]
    rw [Option.ite_none_right_eq_some, Option.some_inj]
    refine and_congr ?_ eq_comm
    simp only [Bool.false_or, Bool.and_eq_true, Bool.or_eq_true, Bool.not_eq_true', List.any_eq_true, List.any_eq_false,
      decide_eq_true_eq]
    constructor
    · rintro ⟨hasIp, certified⟩
      refine ⟨all, hasIp, fun ⟨protocol, member, direct⟩ => ?_⟩
      exact certified.resolve_right fun plain => plain protocol member direct
    · rintro ⟨-, hasIp, certified⟩
      refine ⟨hasIp, ?_⟩
      by_cases direct : ∃ protocol ∈ Multiaddr.iter addr, components.of protocol = .webRtcDirect
      · exact .inl (certified direct)
      · exact .inr fun protocol member same => direct ⟨protocol, member, same⟩
  · rw [if_neg all]
    exact iff_of_false nofun fun both => all both.1.passes

end Scan

/-! ### Public addresses -/

/-- A circuit stays one. -/
theorem isP2pCircuitAddr_replaceIps (publicIp : IpAddr) (addr : Addr) :
    isP2pCircuitAddr (replaceIps components publicIp addr) = isP2pCircuitAddr addr := by
  unfold isP2pCircuitAddr replaceIps
  rw [BuildAddr.iter_ofProtocols, List.any_map]
  congr 1
  funext protocol
  cases protocol with
  | other text =>
    rw [Function.comp_apply, replaceIp]
    split_ifs <;> rfl
  | _ => rfl

section Public

variable {components} {publicIp : IpAddr} (readsBack : components.ReadsBack publicIp)

include readsBack

theorem of_replaceIp (protocol : Protocol PeerId) : components.of (replaceIp components publicIp protocol)
    = if (components.of protocol).isIp then .ip publicIp else components.of protocol := by
  unfold replaceIp
  split_ifs
  · exact readsBack
  · rfl

/-- **A rewritten address** is public exactly when the IP is. -/
theorem isPublicDirectAddr_replaceIps {addr : Addr} (rewritable : Rewritable components publicIp addr) :
    isPublicDirectAddr components.hostOf (replaceIps components publicIp addr) = publicIp.isPublic := by
  obtain ⟨here, member, isIp⟩ := rewritable.hasIp
  have replaced : components.hostOf (replaceIp components publicIp here) = some publicIp.toHost := by
    rw [Components.hostOf, of_replaceIp readsBack, if_pos isIp]
    rfl
  have inside : replaceIp components publicIp here ∈ Multiaddr.iter (replaceIps components publicIp addr) := by
    rw [replaceIps, BuildAddr.iter_ofProtocols]
    exact List.mem_map_of_mem member
  rw [Bool.eq_iff_iff, isPublicDirectAddr_iff]
  constructor
  · rintro ⟨-, distant⟩
    have near := List.any_eq_false.mp distant _ inside
    rw [replaced, Option.any_some, IpAddr.isLocalIp_toHost] at near
    simpa using near
  · intro isPublic
    refine ⟨⟨_, inside, by rw [replaced]; rfl⟩, List.any_eq_false.mpr ?_⟩
    intro protocol listed
    rw [replaceIps, BuildAddr.iter_ofProtocols] at listed
    obtain ⟨before, -, rfl⟩ := List.mem_map.mp listed
    rw [Components.hostOf, of_replaceIp readsBack]
    -- what is left of the hosts is the public IP, and names that are looked up
    cases components.of before with
    | ip listenIp => simp [Component.isIp, Component.host, IpAddr.isLocalIp_toHost, isPublic]
    | _ => simp [Component.isIp, Component.host, Host.isLocalIp]

end Public

/-! ### The result -/

instance (publicIp : IpAddr) : DecidablePred (Rewritable components publicIp : Addr → Prop) := fun addr =>
  decidable_of_iff
    ((∀ protocol ∈ Multiaddr.iter addr, passesScan publicIp (components.of protocol) = true) ∧
      (∃ protocol ∈ Multiaddr.iter addr, (components.of protocol).isIp = true) ∧
      ((∃ protocol ∈ Multiaddr.iter addr, components.of protocol = .webRtcDirect) →
        ∃ protocol ∈ Multiaddr.iter addr, components.of protocol = .certhash))
    ⟨fun ⟨passes, hasIp, certified⟩ => ⟨passes, hasIp, certified⟩,
      fun ⟨passes, hasIp, certified⟩ => ⟨passes, hasIp, certified⟩⟩

/-- **What is advertised from some of the listeners**: in the order of the listeners and without repetitions, those
that are accepted, with the public IP; nothing if the IP is not public. -/
def externalFrom (accepted : Addr → Prop) [DecidablePred accepted] (ip : IpAddr) (listenAddresses : List String) :
    List Addr :=
  if ip.isPublic then
    firstsBy id (((listenAddresses.filterMap fun raw => (Multiaddr.parse raw).toOption).filter accepted).map
      (replaceIps components ip))
  else []

section Result

variable {components} {ip : IpAddr} (readsBack : components.ReadsBack ip)

/-- The address that one listener adds. -/
def externalOf (components : Components) (ip : IpAddr) (addr : Addr) : Option Addr :=
  (rewriteListenIp components addr ip).filter (isPublicDirectAddr components.hostOf)

theorem synthesizeStep_eq (addresses : List Addr) (raw : String) :
    synthesizeStep components ip addresses raw
      = (((Multiaddr.parse raw).toOption.bind (externalOf components ip)).elim addresses (pushUnique addresses)) := by
  unfold synthesizeStep
  cases (Multiaddr.parse raw : Except String Addr) with
  | error message => rfl
  | ok addr =>
    dsimp only [Except.toOption, Option.bind_some, externalOf]
    cases rewriteListenIp components addr ip with
    | none => rfl
    | some external =>
      dsimp only
      cases reachable : isPublicDirectAddr components.hostOf external with
      | false => simp only [Option.filter_some, reachable, Bool.false_and, Bool.false_eq_true, if_false, Option.elim_none]
      | true =>
        simp only [Option.filter_some, reachable, if_true, Bool.true_and, Option.elim_some, pushUnique]
        cases addresses.contains external <;> rfl

theorem foldl_synthesizeStep (addresses : List Addr) (listenAddresses : List String) :
    listenAddresses.foldl (synthesizeStep components ip) addresses
      = ((listenAddresses.filterMap fun raw => (Multiaddr.parse raw).toOption).filterMap
          (externalOf components ip)).foldl pushUnique addresses := by
  induction listenAddresses generalizing addresses with
  | nil => rfl
  | cons raw rest ih =>
    rw [List.foldl_cons, ih, synthesizeStep_eq, List.filterMap_cons]
    cases (Multiaddr.parse raw : Except String Addr).toOption with
    | none => rfl
    | some addr =>
      rw [Option.bind_some, List.filterMap_cons]
      cases externalOf components ip addr with
      | none => rfl
      | some external => rfl

include readsBack

theorem externalOf_eq (addr : Addr) : externalOf components ip addr
    = if ip.isPublic = true ∧ Rewritable components ip addr then some (replaceIps components ip addr) else none := by
  unfold externalOf
  by_cases rewritable : Rewritable components ip addr
  · have rewritten := (rewriteListenIp_eq_some_iff components ip addr _).mpr ⟨rewritable, rfl⟩
    rw [rewritten, Option.filter_some, isPublicDirectAddr_replaceIps readsBack rewritable]
    simp only [rewritable, and_true]
  · rw [if_neg (fun both => rewritable both.2)]
    cases rewritten : rewriteListenIp components addr ip with
    | none => rfl
    | some external => exact absurd ((rewriteListenIp_eq_some_iff components ip addr external).mp rewritten).1 rewritable

/-- **The synthesized addresses** are those of all listeners that can be rewritten. -/
theorem synthesizeExternalAddresses_eq (listenAddresses : List String) :
    synthesizeExternalAddresses components ip listenAddresses
      = externalFrom components (Rewritable components ip : Addr → Prop) ip listenAddresses := by
  unfold synthesizeExternalAddresses externalFrom
  rw [foldl_synthesizeStep, foldl_pushUnique, List.nil_append, List.filter_eq_self.mpr (by simp)]
  generalize listenAddresses.filterMap _ = listeners
  have each : externalOf components ip = fun addr : Addr => _ := funext (externalOf_eq readsBack)
  rw [each]
  by_cases reachable : ip.isPublic = true
  · simp only [reachable, true_and, if_true]
    congr 1
    induction listeners with
    | nil => rfl
    | cons addr rest ih =>
      by_cases rewritable : Rewritable components ip addr
      · simp [rewritable, ih]
      · simp [rewritable, ih]
  · simp only [reachable, Bool.false_eq_true, false_and, if_false, List.filterMap_none]
    rfl

/-- **Only direct listeners are rewritten**, exactly when the IP is not public or no listener behind a relay can be
rewritten. -/
theorem synthesized_direct_iff (listenAddresses : List String) :
    synthesizeExternalAddresses components ip listenAddresses
        = externalFrom components (fun addr : Addr => Rewritable components ip addr ∧ isP2pCircuitAddr addr = false) ip
          listenAddresses ↔
      (ip.isPublic = true → ∀ raw ∈ listenAddresses, ∀ addr : Addr, Multiaddr.parse raw = .ok addr →
        Rewritable components ip addr → isP2pCircuitAddr addr = false) := by
  rw [synthesizeExternalAddresses_eq readsBack]
  unfold externalFrom
  by_cases reachable : ip.isPublic = true
  · simp only [reachable, if_true, true_implies]
    constructor
    · -- a rewritten circuit is among the addresses of all listeners, and not among those of the direct ones
      intro same raw listed addr parsed rewritable
      have member : addr ∈ listenAddresses.filterMap fun raw => (Multiaddr.parse raw : Except String Addr).toOption :=
        List.mem_filterMap.mpr ⟨raw, listed, by rw [parsed]; rfl⟩
      generalize listenAddresses.filterMap _ = listeners at same member
      have accepted : addr ∈ listeners.filter fun addr => Rewritable components ip addr :=
        List.mem_filter.mpr ⟨member, decide_eq_true rewritable⟩
      obtain ⟨first, inside, found⟩ := exists_mem_firstsBy id (List.mem_map_of_mem (f := replaceIps components ip) accepted)
      rw [same] at inside
      obtain ⟨other, direct, rewritten⟩ := List.mem_map.mp ((firstsBy_sublist id _).subset inside)
      have plain := (of_decide_eq_true (List.mem_filter.mp direct).2).2
      have external : replaceIps components ip other = replaceIps components ip addr := rewritten.trans found
      rw [← isP2pCircuitAddr_replaceIps components ip, ← external, isP2pCircuitAddr_replaceIps, plain]
    · intro direct
      congr 2
      refine List.filter_congr fun addr member => ?_
      obtain ⟨raw, listed, parsed⟩ := List.mem_filterMap.mp member
      cases read : (Multiaddr.parse raw : Except String Addr) with
      | error message =>
        rw [read] at parsed
        cases parsed
      | ok found =>
        rw [read] at parsed
        obtain rfl := Option.some_inj.mp parsed
        have plain := direct raw listed found read
        rw [decide_eq_decide]
        exact ⟨fun rewritable => ⟨rewritable, plain rewritable⟩, And.left⟩
  · exact iff_of_true (by simp only [reachable, Bool.false_eq_true, if_false]) fun yes => absurd yes reachable

end Result

namespace LanRelayListener

/-- A listener of the node, and the listener that its reservation at a relay of the local network opened. -/
def direct : SeedPath := .tcp "/ip4/192.168.0.5" []

def relayed : SeedPath := .tcp "/ip4/192.168.0.5" [.p2p .qcu2, .p2pCircuit]

theorem readsBack : SeedPath.components.ReadsBack (.v4 8 8 8 8) := by
  unfold Components.ReadsBack
  decide

theorem synthesized_direct_alone : SeedPath.components.ReadsBack (.v4 8 8 8 8) ∧
    synthesizeExternalAddresses SeedPath.components (.v4 8 8 8 8) [direct.text]
      = externalFrom SeedPath.components (fun addr : SeedPath =>
          Rewritable SeedPath.components (.v4 8 8 8 8) addr ∧ isP2pCircuitAddr addr = false) (.v4 8 8 8 8)
          [direct.text] := by
  refine ⟨readsBack, (synthesized_direct_iff readsBack [direct.text]).mpr ?_⟩
  intro _ raw listed addr parsed _
  obtain rfl := List.mem_singleton.mp listed
  have known : (Multiaddr.parse direct.text : Except String SeedPath) = .ok direct := by decide
  obtain rfl := Except.ok.inj (known.symm.trans parsed)
  decide

/-- **The relay's address is advertised with the node's own IP**, though the relay is not there. -/
theorem relay_rewritten :
    synthesizeExternalAddresses SeedPath.components (.v4 8 8 8 8) [direct.text, relayed.text]
        = [SeedPath.tcp "/ip4/8.8.8.8" [], SeedPath.tcp "/ip4/8.8.8.8" [.p2p .qcu2, .p2pCircuit]] ∧
      externalFrom SeedPath.components (fun addr : SeedPath =>
          Rewritable SeedPath.components (.v4 8 8 8 8) addr ∧ isP2pCircuitAddr addr = false) (.v4 8 8 8 8)
          [direct.text, relayed.text] = [SeedPath.tcp "/ip4/8.8.8.8" []] ∧
      boundExternalAddresses SeedPath.components true (some (.v4 8 8 8 8)) [] [relayed.text]
        = [SeedPath.tcp "/ip4/8.8.8.8" [.p2p .qcu2, .p2pCircuit]] := by
  refine ⟨by decide, by decide, by decide⟩

end LanRelayListener

end P2pNet.Node
