/-
**Resolving `/dnsaddr`** (`resolve_dnsaddr` of `crates/connectivity/dns.rs`).

The name of a `/dnsaddr` component is looked up as TXT records. A record is an address, which is resolved in turn if it
has a `/dnsaddr` component itself. What is looked up is recorded with its answer; an answer may be anything, and it may
depend on everything that was looked up before. The depth of the recursion is bounded by the program, so that `levels`
is what is left of it.
-/

import P2pNet.Lib.Asking
import P2pNet.Lib.Firsts
import P2pNet.Connectivity.DnsTxt
import P2pNet.Connectivity.IpText

set_option linter.unusedSectionVars false

namespace P2pNet.Connectivity

open Lib Asking

variable {PeerId Addr : Type}

def dnsaddrQueryPrefix : String := "_dnsaddr."

def maxDnsaddrRecursion : ℕ := 8

def maxDnsaddrRecordsPerLookup : ℕ := 32

def maxDnsaddrTotalRecords : ℕ := 128

/-! ### Names in addresses -/

inductive DnsFamily
  | any
  | v4
  | v6
  deriving DecidableEq

def DnsFamily.allows : DnsFamily → IpAddr → Bool
  | any, _ => true
  | v4, .v4 .. => true
  | v6, .v6 _ => true
  | _, _ => false

inductive DnsName
  | dns (family : DnsFamily) (host : String)
  | dnsaddr (name : String)
  deriving DecidableEq

/-- The name in a component, which is written `/dnsaddr/name`, `/dns/host`, `/dns4/host` or `/dns6/host`. -/
def dnsNameOf : Protocol PeerId → Option DnsName
  | .other text =>
    ((Text.stripPrefix text "/dnsaddr/").map DnsName.dnsaddr).or
      (((Text.stripPrefix text "/dns/").map (DnsName.dns .any)).or
        (((Text.stripPrefix text "/dns4/").map (DnsName.dns .v4)).or
          ((Text.stripPrefix text "/dns6/").map (DnsName.dns .v6))))
  | _ => none

/-- The name of a `/dnsaddr` component. -/
def dnsaddrOf (protocol : Protocol PeerId) : Option String :=
  match dnsNameOf protocol with
  | some (.dnsaddr name) => some name
  | _ => none

/-- The host of a `/dns`, `/dns4` or `/dns6` component. -/
def dnsHostOf (protocol : Protocol PeerId) : Option (String × DnsFamily) :=
  match dnsNameOf protocol with
  | some (.dns family host) => some (host, family)
  | _ => none

/-- `Protocol::Ip4` and `Protocol::Ip6`. -/
def ipProtocol : IpAddr → Protocol PeerId
  | .v4 a b c d => .other ("/ip4/" ++ ipv4Text a b c d)
  | .v6 segments => .other ("/ip6/" ++ ipv6Text segments)

section Names

variable [Multiaddr PeerId Addr]

def hasResolvableDns (addr : Addr) : Bool := (Multiaddr.iter addr).any fun protocol => (dnsHostOf protocol).isSome

def hasDnsaddr (addr : Addr) : Bool := (Multiaddr.iter addr).any fun protocol => (dnsaddrOf protocol).isSome

/-- The loop of `split_first_dnsaddr`. -/
def splitDnsaddrLoop : List (Protocol PeerId) → Option (String × List (Protocol PeerId))
  | [] => none
  | protocol :: rest => match dnsaddrOf protocol with
    | some domain => some (domain, rest)
    | none => splitDnsaddrLoop rest

def splitFirstDnsaddr (addr : Addr) : Option (String × List (Protocol PeerId)) :=
  splitDnsaddrLoop (Multiaddr.iter addr)

/-- `first_dns_component`: its position, host and family. -/
def firstDnsComponent : List (Protocol PeerId) → ℕ → Option (ℕ × String × DnsFamily)
  | [], _ => none
  | protocol :: rest, index => match dnsHostOf protocol with
    | some (host, family) => some (index, host, family)
    | none => firstDnsComponent rest (index + 1)

def dnsaddrQueryName (domain : String) : String :=
  let trimmed := Text.trimEndMatches domain '.'
  s!"{dnsaddrQueryPrefix}{trimmed}."

def multiaddrEndsWith [DecidableEq PeerId] (addr : Addr) (suffix : List (Protocol PeerId)) : Bool :=
  decide (suffix <:+ Multiaddr.iter addr)

def dedupMultiaddrs [DecidableEq Addr] (addrs : List Addr) : List Addr := addrs.foldl pushUnique []

end Names

/-! ### Lookups -/

/-- A lookup and its answer. -/
inductive Lookup
  | txt (queryName : String) (answer : Except String (List String))
  | host (name : String) (answer : Except String (List IpAddr))

/-- What the world answers after the lookups so far: the DNS-over-HTTPS endpoint, which may not be a URL, and the
resolver of the operating system. -/
structure Resolvers where
  endpoint : Except String Unit
  fetchJson : List Lookup → String → Except String (Option (List DnsJsonAnswer))
  lookupHost : List Lookup → String → Except String (List IpAddr)

section Resolution

variable [DecidableEq PeerId] [DecidableEq Addr] [Multiaddr PeerId Addr] [BuildAddr PeerId Addr]
variable (resolvers : Resolvers) (wasm32 : Bool)

/-- What `lookup_dnsaddr_txt` returns. -/
def txtAnswer (log : List Lookup) (queryName : String) : Except String (List String) := do
  resolvers.endpoint
  let body ← (resolvers.fetchJson log queryName).mapError fun err => s!"TXT lookup for {queryName} failed: {err}"
  dnsJsonAnswers queryName body

def lookupDnsaddrTxt (queryName : String) : Asking Lookup String (List String) := do
  let answer ← ask (fun log => txtAnswer resolvers log queryName) (.txt queryName)
  ofExcept answer

/-- `resolve_ordinary_dns_multiaddr`: a browser keeps the name. -/
def resolveOrdinaryDnsMultiaddr (addr : Addr) : Asking Lookup String (List Addr) :=
  if wasm32 then pure [addr]
  else if !hasResolvableDns addr then pure [addr]
  else match firstDnsComponent (Multiaddr.iter addr) 0 with
    | none => pure [addr]
    | some (dnsIdx, host, family) => do
      let answer ← ask (fun log => resolvers.lookupHost log host) (.host host)
      let ips ← ofExcept answer
      let out : List Addr := (ips.filter family.allows).map fun ip =>
        BuildAddr.ofProtocols ((Multiaddr.iter addr).set dnsIdx (ipProtocol ip))
      if out.isEmpty then fail s!"no matching A/AAAA records for {host}" else pure (dedupMultiaddrs out)

/-- The address in a record. -/
def candidateOf (record : String) : Except String Addr :=
  match Text.stripPrefix record dnsaddrPrefix with
  | none => .error s!"invalid dnsaddr TXT record `{record}`"
  | some rawAddr =>
    if rawAddr.utf8ByteSize > maxDnsaddrTxtBytes then
      .error s!"dnsaddr TXT value exceeded {maxDnsaddrTxtBytes} bytes"
    else (Multiaddr.parse rawAddr).mapError fun err => s!"invalid dnsaddr multiaddr `{rawAddr}`: {err}"

/-- A candidate is resolved in the way that its names ask for. -/
def resolveCandidate (recurse : Addr → ℕ → Asking Lookup String (List Addr)) (candidate : Addr) (totalRecords : ℕ) :
    Asking Lookup String (List Addr) :=
  if hasDnsaddr candidate then recurse candidate totalRecords
  else if hasResolvableDns candidate then resolveOrdinaryDnsMultiaddr resolvers wasm32 candidate
  else pure [candidate]

/-- `resolved.retain(…)`, if there is a suffix. -/
def retainSuffix (suffix : List (Protocol PeerId)) (resolved : List Addr) : List Addr :=
  if suffix.isEmpty then resolved else resolved.filter fun candidate => multiaddrEndsWith candidate suffix

/-- The loop over the records, with the addresses collected so far. -/
def resolveRecords (recurse : Addr → ℕ → Asking Lookup String (List Addr)) (suffix : List (Protocol PeerId))
    (totalRecords : ℕ) : List String → List Addr → Asking Lookup String (List Addr)
  | [], out => pure out
  | record :: rest, out => do
    let candidate ← ofExcept (candidateOf record)
    let resolved ← resolveCandidate resolvers wasm32 recurse candidate (totalRecords + out.length + 1)
    let collected := out ++ retainSuffix suffix resolved
    if totalRecords + collected.length > maxDnsaddrTotalRecords then
      fail s!"dnsaddr resolved address count exceeded {maxDnsaddrTotalRecords}"
    else resolveRecords recurse suffix totalRecords rest collected

/-- The two checks of an answer. -/
def checkRecords (queryName : String) (records : List String) : Except String Unit :=
  if records.isEmpty then .error s!"no dnsaddr TXT records found for {queryName}"
  else if records.length > maxDnsaddrRecordsPerLookup then
    .error s!"dnsaddr TXT record count {records.length} exceeded {maxDnsaddrRecordsPerLookup} for {queryName}"
  else .ok ()

/-- What becomes of the records of an answer. -/
def resolveAnswer (recurse : Addr → ℕ → Asking Lookup String (List Addr)) (queryName : String)
    (suffix : List (Protocol PeerId)) (totalRecords : ℕ) (records : List String) : Asking Lookup String (List Addr) := do
  ofExcept (checkRecords queryName records)
  let out ← resolveRecords resolvers wasm32 recurse suffix totalRecords records []
  pure (dedupMultiaddrs out)

/-- The body of `resolve_dnsaddr`, with the levels of recursion that are left. -/
def resolveLevels : ℕ → Addr → ℕ → Asking Lookup String (List Addr)
  | 0, _, _ => fail s!"dnsaddr recursion exceeded {maxDnsaddrRecursion} levels"
  | level + 1, addr, totalRecords =>
    if totalRecords > maxDnsaddrTotalRecords then
      fail s!"dnsaddr total records exceeded {maxDnsaddrTotalRecords}"
    else match splitFirstDnsaddr addr with
      | none => fail s!"missing /dnsaddr component in {Multiaddr.toText addr}"
      | some (domain, suffix) => do
        let records ← lookupDnsaddrTxt resolvers (dnsaddrQueryName domain)
        resolveAnswer resolvers wasm32 (resolveLevels level) (dnsaddrQueryName domain) suffix totalRecords records

def resolveDnsaddr (addr : Addr) (depth totalRecords : ℕ) : Asking Lookup String (List Addr) :=
  resolveLevels resolvers wasm32 (maxDnsaddrRecursion + 1 - depth) addr totalRecords

end Resolution

/-! ### Where the first name is -/

section Split

variable [Multiaddr PeerId Addr]

/-- **The first `/dnsaddr`**, and what follows it. -/
theorem splitDnsaddrLoop_eq_some_iff {protocols suffix : List (Protocol PeerId)} {domain : String} :
    splitDnsaddrLoop protocols = some (domain, suffix) ↔
      ∃ before protocol, protocols = before ++ protocol :: suffix ∧ dnsaddrOf protocol = some domain ∧
        ∀ earlier ∈ before, dnsaddrOf earlier = none := by
  induction protocols with
  | nil => simp [splitDnsaddrLoop]
  | cons head rest ih =>
    unfold splitDnsaddrLoop
    cases named : dnsaddrOf head with
    | some name =>
      constructor
      · intro found
        cases found
        exact ⟨[], head, rfl, named, fun earlier member => nomatch member⟩
      · rintro ⟨before, protocol, split, found, unnamed⟩
        cases before with
        | nil =>
          cases split
          rw [named] at found
          cases found
          rfl
        | cons first before =>
          cases split
          rw [unnamed head List.mem_cons_self] at named
          cases named
    | none =>
      rw [ih]
      constructor
      · rintro ⟨before, protocol, rfl, found, unnamed⟩
        exact ⟨head :: before, protocol, rfl, found, List.forall_mem_cons.mpr ⟨named, unnamed⟩⟩
      · rintro ⟨before, protocol, split, found, unnamed⟩
        cases before with
        | nil =>
          cases split
          rw [named] at found
          cases found
        | cons first before =>
          cases split
          exact ⟨before, protocol, rfl, found, (List.forall_mem_cons.mp unnamed).2⟩

theorem hasDnsaddr_eq_false_iff (addr : Addr) :
    hasDnsaddr addr = false ↔ ∀ protocol ∈ (Multiaddr.iter addr : List (Protocol PeerId)), dnsaddrOf protocol = none := by
  unfold hasDnsaddr
  rw [List.any_eq_false]
  simp

theorem splitFirstDnsaddr_eq_none_iff (addr : Addr) : splitFirstDnsaddr addr = none ↔ hasDnsaddr addr = false := by
  rw [hasDnsaddr_eq_false_iff, splitFirstDnsaddr]
  induction (Multiaddr.iter addr : List (Protocol PeerId)) with
  | nil => simp [splitDnsaddrLoop]
  | cons head rest ih =>
    unfold splitDnsaddrLoop
    cases named : dnsaddrOf head with
    | some name => simp [named]
    | none => rw [ih, List.forall_mem_cons, and_iff_right named]

/-- The component of an IP address has no name. -/
theorem dnsaddrOf_ipProtocol (ip : IpAddr) : dnsaddrOf (ipProtocol ip : Protocol PeerId) = none := by
  have unnamed : ∀ text : String, dnsNameOf (.other ("/ip4/" ++ text) : Protocol PeerId) = none ∧
      dnsNameOf (.other ("/ip6/" ++ text) : Protocol PeerId) = none := by
    intro text
    simp [dnsNameOf, Text.stripPrefix]
  cases ip with
  | v4 a b c d => rw [dnsaddrOf, ipProtocol, (unnamed _).1]
  | v6 segments => rw [dnsaddrOf, ipProtocol, (unnamed _).2]

end Split

/-! ### What is resolved -/

section Results

variable [DecidableEq PeerId] [DecidableEq Addr] [Multiaddr PeerId Addr] [BuildAddr PeerId Addr]

theorem dedupMultiaddrs_eq (addrs : List Addr) : dedupMultiaddrs addrs = firstsBy id addrs := by
  rw [dedupMultiaddrs, foldl_pushUnique, List.nil_append]
  simp

theorem dedupMultiaddrs_sublist (addrs : List Addr) : (dedupMultiaddrs addrs).Sublist addrs :=
  dedupMultiaddrs_eq addrs ▸ firstsBy_sublist id addrs

theorem dedupMultiaddrs_nodup (addrs : List Addr) : (dedupMultiaddrs addrs).Nodup := by
  have distinct := nodup_map_firstsBy id addrs
  rwa [List.map_id, ← dedupMultiaddrs_eq] at distinct

/-- The addresses have no `/dnsaddr`, and all of them end alike. -/
def EndIn (suffix : List (Protocol PeerId)) (out : List Addr) : Prop :=
  ∀ resolved ∈ out, hasDnsaddr resolved = false ∧ suffix <:+ Multiaddr.iter resolved

theorem retainSuffix_endIn (suffix : List (Protocol PeerId)) {resolved : List Addr}
    (unnamed : ∀ candidate ∈ resolved, hasDnsaddr candidate = false) : EndIn suffix (retainSuffix suffix resolved) := by
  unfold retainSuffix
  split_ifs with empty
  · rw [List.isEmpty_iff.mp empty]
    exact fun candidate member => ⟨unnamed candidate member, List.nil_suffix⟩
  · intro candidate member
    obtain ⟨listed, ends⟩ := List.mem_filter.mp member
    exact ⟨unnamed candidate listed, of_decide_eq_true ends⟩

variable (resolvers : Resolvers) (wasm32 : Bool)

/-- Looking up a host puts an IP address in its place. -/
theorem resolveOrdinaryDnsMultiaddr_ensures {addr : Addr} (unnamed : hasDnsaddr addr = false) :
    Ensures (resolveOrdinaryDnsMultiaddr resolvers wasm32 addr) fun out =>
      ∀ resolved ∈ out, hasDnsaddr resolved = false := by
  have same : ∀ resolved ∈ [addr], hasDnsaddr resolved = false := by
    intro resolved member
    rwa [List.mem_singleton.mp member]
  unfold resolveOrdinaryDnsMultiaddr
  split_ifs
  · exact .pure same
  · exact .pure same
  · cases firstDnsComponent (Multiaddr.iter addr) 0 with
    | none => exact .pure same
    | some found =>
      obtain ⟨dnsIdx, host, family⟩ := found
      refine Ensures.ask_bind fun answer => Ensures.ofExcept_bind fun ips _ => ?_
      dsimp only
      split_ifs
      · exact .fail _
      · refine .pure fun resolved member => ?_
        obtain ⟨ip, _, rfl⟩ := List.mem_map.mp ((dedupMultiaddrs_sublist _).subset member)
        rw [hasDnsaddr_eq_false_iff, BuildAddr.iter_ofProtocols]
        intro protocol listed
        rcases List.mem_or_eq_of_mem_set listed with old | rfl
        · exact (hasDnsaddr_eq_false_iff addr).mp unnamed protocol old
        · exact dnsaddrOf_ipProtocol ip

variable {recurse : Addr → ℕ → Asking Lookup String (List Addr)}

theorem resolveCandidate_ensures
    (deeper : ∀ addr total, Ensures (recurse addr total) fun out => ∀ resolved ∈ out, hasDnsaddr resolved = false)
    (candidate : Addr) (totalRecords : ℕ) :
    Ensures (resolveCandidate resolvers wasm32 recurse candidate totalRecords) fun out =>
      ∀ resolved ∈ out, hasDnsaddr resolved = false := by
  unfold resolveCandidate
  split_ifs with named
  · exact deeper candidate totalRecords
  · exact resolveOrdinaryDnsMultiaddr_ensures resolvers wasm32 (Bool.not_eq_true _ ▸ named)
  · refine .pure fun resolved member => ?_
    rw [List.mem_singleton.mp member]
    exact Bool.not_eq_true _ ▸ named

/-- **The records of one answer**: by induction on the records, with what is collected so far. -/
theorem resolveRecords_ensures
    (deeper : ∀ addr total, Ensures (recurse addr total) fun out => ∀ resolved ∈ out, hasDnsaddr resolved = false)
    (suffix : List (Protocol PeerId)) (totalRecords : ℕ) (records : List String) (out : List Addr)
    (room : totalRecords + out.length ≤ maxDnsaddrTotalRecords) (ends : EndIn suffix out) :
    Ensures (resolveRecords resolvers wasm32 recurse suffix totalRecords records out) fun collected =>
      totalRecords + collected.length ≤ maxDnsaddrTotalRecords ∧ EndIn suffix collected := by
  induction records generalizing out with
  | nil => exact .pure ⟨room, ends⟩
  | cons record rest ih =>
    unfold resolveRecords
    refine Ensures.ofExcept_bind fun candidate _ => ?_
    refine (resolveCandidate_ensures resolvers wasm32 deeper candidate _).bind fun resolved unnamed => ?_
    dsimp only
    split_ifs with full
    · exact .fail _
    · refine ih _ (not_lt.mp full) fun address member => ?_
      rcases List.mem_append.mp member with earlier | new
      · exact ends address earlier
      · exact retainSuffix_endIn suffix unnamed address new

theorem resolveAnswer_ensures
    (deeper : ∀ addr total, Ensures (recurse addr total) fun out => ∀ resolved ∈ out, hasDnsaddr resolved = false)
    (queryName : String) (suffix : List (Protocol PeerId)) {totalRecords : ℕ}
    (room : totalRecords ≤ maxDnsaddrTotalRecords) (records : List String) :
    Ensures (resolveAnswer resolvers wasm32 recurse queryName suffix totalRecords records) fun out =>
      totalRecords + out.length ≤ maxDnsaddrTotalRecords ∧ out.Nodup ∧ EndIn suffix out := by
  refine Ensures.ofExcept_bind fun _ _ => ?_
  have loop := resolveRecords_ensures resolvers wasm32 deeper suffix totalRecords records [] room
    fun address member => nomatch member
  refine loop.bind fun out collected => .pure ⟨?_, dedupMultiaddrs_nodup out, fun address member => ?_⟩
  · exact (Nat.add_le_add_left (dedupMultiaddrs_sublist out).length_le _).trans collected.1
  · exact collected.2 address ((dedupMultiaddrs_sublist out).subset member)

/-- **One level**, by induction on the levels that are left. -/
theorem resolveLevels_ensures (levels : ℕ) (addr : Addr) (totalRecords : ℕ) :
    Ensures (resolveLevels resolvers wasm32 levels addr totalRecords) fun out =>
      totalRecords + out.length ≤ maxDnsaddrTotalRecords ∧ out.Nodup ∧
        (∀ resolved ∈ out, hasDnsaddr resolved = false) ∧
        ∀ domain suffix, splitFirstDnsaddr addr = some (domain, suffix) → EndIn suffix out := by
  induction levels generalizing addr totalRecords with
  | zero => exact .fail _
  | succ level ih =>
    unfold resolveLevels
    split_ifs with tooMany
    · exact .fail _
    · cases found : splitFirstDnsaddr addr with
      | none => exact .fail _
      | some parts =>
        obtain ⟨domain, suffix⟩ := parts
        have deeper : ∀ (addr : Addr) total, Ensures (resolveLevels resolvers wasm32 level addr total) fun out =>
            ∀ resolved ∈ out, hasDnsaddr resolved = false := by
          intro addr total
          exact (ih addr total).mono fun _ _ holds value same => (holds value same).2.2.1
        have looked : Ensures (lookupDnsaddrTxt resolvers (dnsaddrQueryName domain)) fun _ => True :=
          Ensures.ask_bind fun answer => .ofExcept fun _ _ => trivial
        refine looked.bind fun records _ => (resolveAnswer_ensures resolvers wasm32 deeper (dnsaddrQueryName domain)
          suffix (not_lt.mp tooMany) records).mono fun _ _ holds out same => ?_
        obtain ⟨room, distinct, ends⟩ := holds out same
        refine ⟨room, distinct, fun address member => (ends address member).1, fun other after again => ?_⟩
        cases again
        exact ends

/-- **Every result is bounded and bound to the suffix**, whatever is answered. -/
theorem resolveDnsaddr_bounded {addr : Addr} (named : hasDnsaddr addr = true) {result : Except String (List Addr)}
    {log : List Lookup} (ran : resolveDnsaddr resolvers wasm32 addr 0 0 [] = (result, log)) :
    (∃ err, result = .error err) ∨ ∃ out, result = .ok out ∧ out.length ≤ 128 ∧ out.Nodup ∧
      ∃ before dnsaddr suffix, Multiaddr.iter addr = before ++ dnsaddr :: suffix ∧ (dnsaddrOf dnsaddr).isSome = true ∧
        (∀ earlier ∈ before, dnsaddrOf earlier = none) ∧
        ∀ resolved ∈ out, hasDnsaddr resolved = false ∧ suffix <:+ Multiaddr.iter resolved := by
  have holds := (resolveLevels_ensures resolvers wasm32 _ addr 0).result ran
  cases result with
  | error err => exact .inl ⟨err, rfl⟩
  | ok out =>
    obtain ⟨room, distinct, _, ends⟩ := holds out rfl
    refine .inr ⟨out, rfl, (Nat.zero_add _).symm.trans_le room, distinct, ?_⟩
    cases found : splitFirstDnsaddr addr with
    | none =>
      rw [(splitFirstDnsaddr_eq_none_iff addr).mp found] at named
      cases named
    | some parts =>
      obtain ⟨before, dnsaddr, split, isDnsaddr, unnamed⟩ := splitDnsaddrLoop_eq_some_iff.mp found
      exact ⟨before, dnsaddr, parts.2, split, Option.isSome_iff_exists.mpr ⟨_, isDnsaddr⟩, unnamed,
        ends parts.1 parts.2 found⟩

/-! ### What is looked up -/

def Lookup.isTxt : Lookup → Bool
  | txt .. => true
  | host .. => false

def txtLookups (log : List Lookup) : ℕ := log.countP Lookup.isTxt

/-- A record whose address has a `/dnsaddr` itself. -/
def isReference (Addr : Type) [Multiaddr PeerId Addr] (record : String) : Bool :=
  match (candidateOf record : Except String Addr) with
  | .ok candidate => hasDnsaddr candidate
  | .error _ => false

/-- The references in an answer. -/
def Lookup.references (Addr : Type) [Multiaddr PeerId Addr] : Lookup → ℕ
  | txt _ (.ok records) => records.countP (isReference Addr)
  | _ => 0

/-- The references in all answers. -/
def references (Addr : Type) [Multiaddr PeerId Addr] (log : List Lookup) : ℕ := (log.map (Lookup.references Addr)).sum

theorem txtLookups_append (first second : List Lookup) :
    txtLookups (first ++ second) = txtLookups first + txtLookups second := List.countP_append

theorem references_append (first second : List Lookup) :
    references Addr (first ++ second) = references Addr first + references Addr second := by
  rw [references, List.map_append, List.sum_append]
  rfl

/-- Beyond some lookups that are accounted for, there is at most one for each reference received, and exactly one if
nothing failed. -/
def Accounted (Addr : Type) [Multiaddr PeerId Addr] (given : ℕ) {α : Type} (new : List Lookup)
    (result : Except String α) : Prop :=
  txtLookups new ≤ given + references Addr new ∧
    ∀ value, result = .ok value → txtLookups new = given + references Addr new

theorem Accounted.bind {α β : Type} {first : Asking Lookup String α} {next : α → Asking Lookup String β} {a b : ℕ}
    (before : Records first (Accounted Addr a)) (after : ∀ value, Records (next value) (Accounted Addr b)) :
    Records (first >>= next) (Accounted Addr (a + b)) := by
  refine before.bind (fun _ value _ => after value) ?_ ?_
  · rintro new err ⟨bound, _⟩
    refine ⟨by omega, fun value impossible => ?_⟩
    cases impossible
  · rintro new value more result ⟨_, exactly⟩ ⟨bound, whole⟩
    have known := exactly value rfl
    unfold Accounted
    rw [txtLookups_append, references_append]
    refine ⟨by omega, fun final same => ?_⟩
    have rest := whole final same
    omega

/-- A failure without a lookup. -/
theorem Accounted.failed {α : Type} (given : ℕ) (err : String) :
    Accounted Addr given [] (.error err : Except String α) := by
  refine ⟨Nat.zero_le _, fun value impossible => ?_⟩
  cases impossible

/-- Nothing is to be looked up. -/
theorem Accounted.none {α : Type} (result : Except String α) : Accounted Addr 0 [] result :=
  ⟨Nat.zero_le _, fun _ _ => rfl⟩

end Results

/-! ### A zone of references -/

namespace ManyReferences

/-- An address as the list of its components. -/
structure Path where
  protocols : List (Protocol Seed)
  deriving DecidableEq

def known : List (String × Path) :=
  [("/dnsaddr/b", ⟨[.other "/dnsaddr/b"]⟩), ("/dnsaddr/c", ⟨[.other "/dnsaddr/c"]⟩),
    ("/ip4/8.8.8.8", ⟨[.other "/ip4/8.8.8.8"]⟩)]

instance : Multiaddr Seed Path where
  toText path := String.join (path.protocols.map SeedPath.protocolText)
  parse written := match known.find? fun entry => entry.1 = written with
    | some entry => .ok entry.2
    | none => .error "unknown protocol string"
  iter := Path.protocols

instance : BuildAddr Seed Path where
  ofProtocols := Path.mk
  iter_ofProtocols _ := rfl

/-- The name that is asked for has some references to `b`, which has some references to `c`, which has an address. -/
def zone (first second : ℕ) (queryName : String) : List DnsJsonAnswer :=
  if queryName = "_dnsaddr.a." then List.replicate first ⟨16, "dnsaddr=/dnsaddr/b"⟩
  else if queryName = "_dnsaddr.b." then List.replicate second ⟨16, "dnsaddr=/dnsaddr/c"⟩
  else [⟨16, "dnsaddr=/ip4/8.8.8.8"⟩]

def resolvers (first second : ℕ) : Resolvers where
  endpoint := .ok ()
  fetchJson _ queryName := .ok (some (zone first second queryName))
  lookupHost _ _ := .error "no host is looked up"

/-- `/dnsaddr/a/p2p/…`: the addresses of the zone do not end like this. -/
def start : Path := ⟨[.other "/dnsaddr/a", .p2p .nnoo]⟩

def run (first second : ℕ) (addr : Path) : Except String (List Path) × List Lookup :=
  resolveDnsaddr (resolvers first second) false addr 0 0 []

/-- `/dnsaddr/a`, without a suffix. -/
def bare : Path := ⟨[.other "/dnsaddr/a"]⟩

/-- Without a suffix the address is found, once. -/
theorem address_found : (run 2 2 bare).1 = .ok [⟨[.other "/ip4/8.8.8.8"]⟩] ∧
    ∀ out, (run 2 2 bare).1 = .ok out → out.length ≤ 128 ∧ out.Nodup := by
  refine ⟨by decide, fun out found => ?_⟩
  have ran : resolveDnsaddr (resolvers 2 2) false bare 0 0 [] = ((run 2 2 bare).1, (run 2 2 bare).2) := rfl
  rcases resolveDnsaddr_bounded (resolvers 2 2) false (by decide) ran with
    ⟨err, failed⟩ | ⟨_, same, bound, distinct, _⟩
  · rw [failed] at found
    cases found
  · obtain rfl := Except.ok.inj (found.symm.trans same)
    exact ⟨bound, distinct⟩

end ManyReferences

end P2pNet.Connectivity
