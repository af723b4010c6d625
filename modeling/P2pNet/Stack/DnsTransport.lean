/-
**Dialing a DNS name** (`crates/stack/dns_transport.rs`).

`OsDnsTransport` resolves the name of a `/dns`, `/dns4` or `/dns6` address with the resolver of the operating system, puts
the IP address in its place and dials. The loop of `dial` goes on to the next candidate when a dial fails, but the
resolving step passes on one candidate only, the first record of the family. `dial_fallsBack_iff`: the transport falls back
as its loop says exactly if there is nothing to fall back to or no need for it.
-/

import P2pNet.Connectivity.Components

namespace P2pNet.Stack

open Connectivity

/-- The protocols of an address that the transport looks at. -/
inductive DialProtocol
  | dns (name : String)
  | dns4 (name : String)
  | dns6 (name : String)
  | dnsaddr (name : String)
  | tcp (port : UInt16)
  | ip (address : IpAddr)
  | other (text : String)
  deriving DecidableEq

abbrev DialAddr := List DialProtocol

/-- `DnsTransportError`, over the errors of the inner transport. -/
inductive DnsTransportError (E : Type)
  | transport (err : E)
  | resolve (err : String)
  | noRecords (host : String)
  | dnsaddrRequiresConfiguredPreresolver (addr : DialAddr)
  | transportAddressUnsupported (addr : DialAddr)
  deriving DecidableEq

/-- `libp2p::core::transport::TransportError`. -/
inductive TransportError (E : Type)
  | multiaddrNotSupported (addr : DialAddr)
  | other (err : E)
  deriving DecidableEq

/-- What becomes of an inner dial: it is not begun, it fails, or it succeeds. -/
inductive InnerDial (E Output : Type)
  | unsupported (addr : DialAddr)
  | refused (err : E)
  | failed (err : E)
  | connected (output : Output)
  deriving DecidableEq

namespace OsDnsTransport

variable {E Output : Type}

def containsDns (addr : DialAddr) : Bool :=
  addr.any fun
    | .dns _ | .dns4 _ | .dns6 _ | .dnsaddr _ => true
    | _ => false

inductive DnsFamily
  | any
  | v4
  | v6

def DnsFamily.admits : DnsFamily → IpAddr → Bool
  | .any, _ | .v4, .v4 .. | .v6, .v6 _ => true
  | _, _ => false

/-- The loop of `resolve_ordinary_dns_addr`: the first name, its family and the last TCP port before it. -/
def findHost (tcpPort : UInt16) : DialAddr → Option (String × DnsFamily × UInt16)
  | [] => none
  | .dns name :: _ => some (name, .any, tcpPort)
  | .dns4 name :: _ => some (name, .v4, tcpPort)
  | .dns6 name :: _ => some (name, .v6, tcpPort)
  | .tcp port :: rest => findHost port rest
  | _ :: rest => findHost tcpPort rest

/-- The loop with its flag set copies the rest. -/
def replaceFirstPlainDns (replacement : DialProtocol) : DialAddr → DialAddr
  | [] => []
  | .dns _ :: rest | .dns4 _ :: rest | .dns6 _ :: rest => replacement :: rest
  | protocol :: rest => protocol :: replaceFirstPlainDns replacement rest

/-- `tokio::net::lookup_host` of a host and a port. -/
abbrev LookupHost := String → UInt16 → Except String (List (IpAddr × UInt16))

def resolveOrdinaryDnsAddr (text : DialAddr → String) (lookupHost : LookupHost) (addr : DialAddr) :
    Except (DnsTransportError E) DialAddr :=
  match findHost 0 addr with
  | none => .error (.noRecords (text addr))
  | some (host, family, tcpPort) =>
    match lookupHost host tcpPort with
    | .error err => .error (.resolve err)
    | .ok records =>
      match records.find? fun record => family.admits record.1 with
      | none => .error (.noRecords host)
      | some selected => .ok (replaceFirstPlainDns (.ip selected.1) addr)

def isDnsaddr : DialProtocol → Bool
  | .dnsaddr _ => true
  | _ => false

def resolveDnsAddr (text : DialAddr → String) (lookupHost : LookupHost) (addr : DialAddr) :
    Except (DnsTransportError E) (List DialAddr) :=
  if addr.any isDnsaddr then .error (.dnsaddrRequiresConfiguredPreresolver addr)
  else (resolveOrdinaryDnsAddr text lookupHost addr).map fun resolved => [resolved]

/-- The loop over the candidates, with what was dialed before and the last error. An inner dial may depend on all dials
before it. -/
def dialLoop (inner : List DialAddr → DialAddr → InnerDial E Output) (dialed : List DialAddr)
    (lastError : Option (DnsTransportError E)) :
    List DialAddr → List DialAddr × Except (DnsTransportError E) Output
  | [] => (dialed, .error (lastError.getD (.noRecords "no DNS candidates")))
  | candidate :: rest =>
    match inner dialed candidate with
    | .connected output => (dialed ++ [candidate], .ok output)
    | .failed err | .refused err => dialLoop inner (dialed ++ [candidate]) (some (.transport err)) rest
    | .unsupported addr => dialLoop inner (dialed ++ [candidate]) (some (.transportAddressUnsupported addr)) rest

/-- The dials made, and the result; an error of the future is an `other` one. -/
def dial (text : DialAddr → String) (lookupHost : LookupHost) (inner : List DialAddr → DialAddr → InnerDial E Output)
    (addr : DialAddr) : List DialAddr × Except (TransportError (DnsTransportError E)) Output :=
  if containsDns addr then
    match resolveDnsAddr text lookupHost addr with
    | .error err => ([], .error (.other err))
    | .ok resolved => (dialLoop inner [] none resolved).map id (Except.mapError .other)
  else
    ([addr], match inner [] addr with
      | .connected output => .ok output
      | .failed err | .refused err => .error (.other (.transport err))
      | .unsupported addr => .error (.multiaddrNotSupported addr))

/-! ### Falling back -/

/-- No dial of the candidates succeeds, one after the other. -/
def AllFail (inner : List DialAddr → DialAddr → InnerDial E Output) (dialed : List DialAddr) : List DialAddr → Prop
  | [] => True
  | candidate :: rest =>
    (∀ output, inner dialed candidate ≠ .connected output) ∧ AllFail inner (dialed ++ [candidate]) rest

/-- **The transport falls back**: candidates are dialed in turn until one succeeds, which is the result, and the dial
fails only if every one of them has failed. -/
def FallsBack {Err : Type} (inner : List DialAddr → DialAddr → InnerDial E Output) (candidates : List DialAddr)
    (outcome : List DialAddr × Except Err Output) : Prop :=
  (∃ before candidate after output, candidates = before ++ candidate :: after ∧ AllFail inner [] before ∧
    inner before candidate = .connected output ∧ outcome = (before ++ [candidate], .ok output)) ∨
  AllFail inner [] candidates ∧ outcome.1 = candidates ∧ ∃ err, outcome.2 = .error err

/-- The address with each record of the requested family in the place of the name. -/
def candidates (addr : DialAddr) (family : DnsFamily) (records : List (IpAddr × UInt16)) : List DialAddr :=
  (records.filter fun record => family.admits record.1).map fun record =>
    replaceFirstPlainDns (.ip record.1) addr

theorem containsDns_of_findHost {addr : DialAddr} {port : UInt16} (found : (findHost port addr).isSome) :
    containsDns addr = true := by
  induction addr generalizing port with
  | nil => simp [findHost] at found
  | cons protocol rest ih =>
    unfold containsDns at ih ⊢
    cases protocol with
    | dns _ | dns4 _ | dns6 _ | dnsaddr _ => simp
    | tcp _ | ip _ | other _ =>
      simp only [findHost] at found
      simpa using ih found

/-- **A resolved dial** is one dial, to the first candidate, or none. -/
theorem dial_resolved (text : DialAddr → String) {lookupHost : LookupHost}
    (inner : List DialAddr → DialAddr → InnerDial E Output) {addr : DialAddr} {host : String} {family : DnsFamily}
    {port : UInt16} {records : List (IpAddr × UInt16)} (ordinary : addr.any isDnsaddr = false)
    (named : findHost 0 addr = some (host, family, port)) (resolved : lookupHost host port = .ok records) :
    dial text lookupHost inner addr = match (candidates addr family records).head? with
      | none => ([], .error (.other (.noRecords host)))
      | some first => (dialLoop inner [] none [first]).map id (Except.mapError .other) := by
  have dns : containsDns addr = true := containsDns_of_findHost (by rw [named]; rfl)
  have head : (candidates addr family records).head? = (records.find? fun record => family.admits record.1).map
      fun record => replaceFirstPlainDns (.ip record.1) addr := by
    rw [candidates, List.head?_map, List.head?_filter]
  rw [head]
  simp only [dial, dns, if_true, resolveDnsAddr, ordinary, Bool.false_eq_true, if_false, resolveOrdinaryDnsAddr, named,
    resolved]
  cases records.find? fun record => family.admits record.1 <;> rfl

/-- A single candidate is dialed once. -/
theorem dialLoop_single (inner : List DialAddr → DialAddr → InnerDial E Output) (candidate : DialAddr) :
    (∃ output, inner [] candidate = .connected output ∧ dialLoop inner [] none [candidate] = ([candidate], .ok output)) ∨
      (∀ output, inner [] candidate ≠ .connected output) ∧
        ∃ err, dialLoop inner [] none [candidate] = ([candidate], .error err) := by
  cases outcome : inner [] candidate with
  | connected output => exact .inl ⟨output, rfl, by simp [dialLoop, outcome]⟩
  | failed err | refused err | unsupported addr => exact .inr ⟨by simp, _, by simp only [dialLoop, outcome]; rfl⟩

/-- The outcome of a dial to the first candidate is that of a dial to all if there is no other, or no need for it. -/
theorem first_fallsBack_iff {Err : Type} {inner : List DialAddr → DialAddr → InnerDial E Output} {first : DialAddr}
    {others : List DialAddr} {result : Except Err Output}
    (dialed : (∃ output, inner [] first = .connected output ∧ result = .ok output) ∨
      (∀ output, inner [] first ≠ .connected output) ∧ ∃ err, result = .error err) :
    FallsBack inner (first :: others) ([first], result) ↔
      others = [] ∨ ∃ output, inner [] first = .connected output := by
  rcases dialed with ⟨output, connected, rfl⟩ | ⟨fails, err, rfl⟩
  · refine iff_of_true (.inl ?_) (.inr ⟨output, connected⟩)
    exact ⟨[], first, others, output, rfl, trivial, connected, rfl⟩
  · constructor
    · rintro (⟨_, _, _, _, _, _, _, result⟩ | ⟨_, all, _⟩)
      · exact absurd (congrArg Prod.snd result) (by simp)
      · exact .inl (List.cons.inj all).2.symm
    · rintro (rfl | ⟨output, connected⟩)
      · exact .inr ⟨⟨fails, trivial⟩, rfl, err, rfl⟩
      · exact absurd connected (fails output)

/-- **When the transport falls back.** For an address with a name and whatever its resolver returns, every record of the
family is tried in turn until one succeeds exactly if there are fewer than two of them or the dial of the first one
succeeds. -/
theorem dial_fallsBack_iff (text : DialAddr → String) (lookupHost : LookupHost)
    (inner : List DialAddr → DialAddr → InnerDial E Output) (addr : DialAddr) (host : String) (family : DnsFamily)
    (port : UInt16) (records : List (IpAddr × UInt16)) (ordinary : addr.any isDnsaddr = false)
    (named : findHost 0 addr = some (host, family, port)) (resolved : lookupHost host port = .ok records) :
    FallsBack inner (candidates addr family records) (dial text lookupHost inner addr) ↔
      (candidates addr family records).length < 2 ∨
        ∃ first ∈ (candidates addr family records).head?, ∃ output, inner [] first = .connected output := by
  rw [dial_resolved text inner ordinary named resolved]
  cases candidates addr family records with
  | nil =>
    refine iff_of_true (.inr ⟨trivial, rfl, _, rfl⟩) (.inl ?_)
    decide
  | cons first others =>
    have few : (first :: others).length < 2 ↔ others = [] := by
      rw [List.length_cons, ← List.length_eq_zero_iff]
      omega
    rw [few]
    simp only [List.head?_cons, Option.mem_some_iff, exists_eq_left']
    rcases dialLoop_single inner first with ⟨output, connected, outcome⟩ | ⟨fails, err, outcome⟩
    · rw [outcome]
      exact first_fallsBack_iff (.inl ⟨output, connected, rfl⟩)
    · rw [outcome]
      exact first_fallsBack_iff (.inr ⟨fails, _, rfl⟩)

/-! ### A dead first record -/

/-- A host with an IPv6 and an IPv4 record. -/
def twoRecords : LookupHost := fun _ port => .ok [(.v6 fun _ => 1, port), (.v4 192 0 2 1, port)]

/-- IPv6 is unreachable. -/
def onlyIpv4 (_ : List DialAddr) (addr : DialAddr) : InnerDial Unit Unit :=
  if (.ip (.v4 192 0 2 1)) ∈ addr then .connected () else .failed ()

def seedName : DialAddr := [.dns "seed.example", .tcp 443, .other "wss"]

/-- The condition is met where one record is left. -/
theorem dial_fallsBack_iff_ipv4 :
    findHost 0 ([.dns4 "seed.example", .tcp 443, .other "wss"] : DialAddr) = some ("seed.example", .v4, 0) ∧
      FallsBack onlyIpv4 (candidates [.dns4 "seed.example", .tcp 443, .other "wss"] .v4
        [(.v6 fun _ => 1, 0), (.v4 192 0 2 1, 0)])
        (dial (fun _ => "") twoRecords onlyIpv4 [.dns4 "seed.example", .tcp 443, .other "wss"]) := by
  refine ⟨rfl, (dial_fallsBack_iff (fun _ => "") twoRecords onlyIpv4 _ "seed.example" .v4 0 _ rfl rfl rfl).mpr ?_⟩
  exact .inl (by decide)

/-- **The second record is never tried**: the dial fails although the address of the second record can be dialed. -/
theorem dead_first_record :
    dial (fun _ => "") twoRecords onlyIpv4 seedName
        = ([[.ip (.v6 fun _ => 1), .tcp 443, .other "wss"]], .error (.other (.transport ()))) ∧
      onlyIpv4 [[.ip (.v6 fun _ => 1), .tcp 443, .other "wss"]] [.ip (.v4 192 0 2 1), .tcp 443, .other "wss"]
        = .connected () := by
  decide

end OsDnsTransport

end P2pNet.Stack
