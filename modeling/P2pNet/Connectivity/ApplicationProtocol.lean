/-
**The application compatibility proof** (`application_protocol_version` of `crates/connectivity/discovery.rs`).

Nodes compare a hash of the network and of the sorted namespaces, each with a null byte before it. Derived namespaces
have no null in them. The operator may choose any text of at most 255 bytes, and one that has nulls in it can read
like several derived namespaces.

The hash is not injective. What is assumed is that the two materials do not collide.
-/

import P2pNet.Connectivity.NamespaceSeparation
import P2pNet.Connectivity.DiscoveryConfig

namespace P2pNet.Connectivity

open Lib

def applicationCompatibilityContext : String := "p2p-net.application.compatibility.v1"

/-- `sort_unstable` and `dedup`: strings are compared by their code points, as their bytes are. -/
def canonicalNamespaces (namespaces : List String) : List String :=
  (namespaces.insertionSort (· ≤ ·)).destutter (· ≠ ·)

/-- What `application_protocol_version` hashes. -/
def applicationMaterial (networkId : UInt32) (namespaces : List String) : List UInt8 :=
  Text.bytes applicationCompatibilityContext ++ BigEndian.write 4 networkId.toNat
    ++ namespaces.flatMap fun name => 0 :: Text.bytes name

/-- The version of canonical namespaces. -/
def versionOf (blake3 : Blake3) (networkId : UInt32) (namespaces : List String) : String :=
  let fingerprint := Hex.encode (blake3 (applicationMaterial networkId namespaces)).toList
  s!"/p2p-net/net-{networkId}/app-{fingerprint}/1.0.0"

def DiscoveryConfig.applicationProtocolVersion (discovery : DiscoveryConfig) (blake3 : Blake3)
    (networkId : UInt32) : Except NetError String := do
  let namespaces ← discovery.rendezvousNamespaces blake3 networkId
  return versionOf blake3 networkId (canonicalNamespaces namespaces)

/-! ### Canonical namespaces -/

section Canonical

variable {names names' : List String}

theorem canonicalNamespaces_eq (distinct : names.Nodup) :
    canonicalNamespaces names = names.insertionSort (· ≤ ·) := by
  have sorted : (names.insertionSort (· ≤ ·)).Nodup := (List.perm_insertionSort _ names).nodup_iff.mpr distinct
  exact List.destutter_of_isChain _ _ sorted.isChain

theorem canonicalNamespaces_singleton (name : String) : canonicalNamespaces [name] = [name] := rfl

theorem mem_canonicalNamespaces (distinct : names.Nodup) {name : String} :
    name ∈ canonicalNamespaces names ↔ name ∈ names := by
  rw [canonicalNamespaces_eq distinct, List.mem_insertionSort]

theorem length_canonicalNamespaces (distinct : names.Nodup) :
    (canonicalNamespaces names).length = names.length := by
  rw [canonicalNamespaces_eq distinct, List.length_insertionSort]

/-- The canonical list tells the set. -/
theorem canonicalNamespaces_inj (distinct : names.Nodup) (distinct' : names'.Nodup) :
    canonicalNamespaces names = canonicalNamespaces names' ↔ ∀ name, name ∈ names ↔ name ∈ names' := by
  constructor
  · intro same name
    rw [← mem_canonicalNamespaces distinct, same, mem_canonicalNamespaces distinct']
  · intro same
    have permuted := (List.perm_ext_iff_of_nodup distinct distinct').mpr same
    rw [canonicalNamespaces_eq distinct, canonicalNamespaces_eq distinct']
    refine List.Perm.eq_of_pairwise' (List.pairwise_insertionSort (· ≤ ·) names)
      (List.pairwise_insertionSort (· ≤ ·) names') ?_
    exact (List.perm_insertionSort _ names).trans (permuted.trans (List.perm_insertionSort _ names').symm)

end Canonical

/-! ### The material of a version -/

section Material

variable {network network' : UInt32} {names names' : List String}

theorem applicationMaterial_eq_iff : applicationMaterial network names = applicationMaterial network' names' ↔
    network = network' ∧
      framed '\x00' (names.map String.toList) = framed '\x00' (names'.map String.toList) := by
  unfold applicationMaterial
  rw [List.append_assoc, List.append_assoc, List.append_cancel_left_eq, Text.flatMap_bytes, Text.flatMap_bytes]
  constructor
  · intro same
    obtain ⟨number, text⟩ := List.append_inj same (by simp)
    exact ⟨write_networkId_inj.mp number, String.ofList_injective (Text.bytes_injective text)⟩
  · rintro ⟨rfl, same⟩
    rw [same]

/-- **The version tells the material.** -/
theorem versionOf_eq_iff {blake3 : Blake3}
    (separate : Set.InjOn blake3 {applicationMaterial network names, applicationMaterial network' names'}) :
    versionOf blake3 network names = versionOf blake3 network' names' ↔
      applicationMaterial network names = applicationMaterial network' names' := by
  constructor
  · intro same
    have chars := congrArg String.toList same
    unfold versionOf at chars
    simp only [String.toList_append] at chars
    -- the last six characters are fixed, and the sixty-four before them are the fingerprint
    have front := List.append_cancel_right chars
    have hex := (List.append_inj' front ((length_hex_digest _).trans (length_hex_digest _).symm)).2
    have digests := Hex.encode_injective (String.toList_injective hex)
    exact separate (.inl rfl) (.inr rfl) (Subtype.ext digests)
  · intro same
    obtain ⟨rfl, _⟩ := applicationMaterial_eq_iff.mp same
    unfold versionOf
    rw [same]

end Material

/-! ### Names that imitate others -/

/-- The operator's name of the first configuration reads like the namespaces of the other, of which there are
several. -/
def ImitatesNamespaces (blake3 : Blake3) (networkId : UInt32) (discovery other : DiscoveryConfig) : Prop :=
  discovery.namespaces.tags = [] ∧ ∃ names, other.rendezvousNamespaces blake3 networkId = .ok names ∧
    2 ≤ names.length ∧ discovery.rendezvous.name = "\x00".intercalate (canonicalNamespaces names)

section Imitation

variable {blake3 : Blake3} {network : UInt32} {first second : DiscoveryConfig} {names names' : List String}

/-- What is read back, or a single name. -/
theorem readable_of_derived (derived : first.rendezvousNamespaces blake3 network = .ok names) :
    (∀ part ∈ (canonicalNamespaces names).map String.toList, '\x00' ∉ part) ∨
      ∃ whole, (canonicalNamespaces names).map String.toList = [whole] := by
  have distinct := DiscoveryConfig.rendezvousNamespaces_nodup blake3 derived
  rcases DiscoveryConfig.rendezvousNamespaces_origin blake3 derived with ⟨_, rfl⟩ | ⟨_, path⟩
  · exact .inr ⟨_, rfl⟩
  · left
    intro part member nul
    obtain ⟨name, listed, rfl⟩ := List.mem_map.mp member
    have chars := path name ((mem_canonicalNamespaces distinct).mp listed) '\x00' nul
    exact absurd chars (by decide)

theorem canonical_ne_nil (derived : first.rendezvousNamespaces blake3 network = .ok names) :
    (canonicalNamespaces names).map String.toList ≠ [] := by
  have distinct := DiscoveryConfig.rendezvousNamespaces_nodup blake3 derived
  rw [Ne, List.map_eq_nil_iff, ← List.length_eq_zero_iff, length_canonicalNamespaces distinct,
    List.length_eq_zero_iff]
  exact DiscoveryConfig.rendezvousNamespaces_ne_nil blake3 derived

/-- A text with a null in it is kept as the operator wrote it. -/
theorem rendezvousNamespaces_of_nul (blake3 : Blake3) (network : UInt32) (untagged : first.namespaces.tags = [])
    (nul : '\x00' ∈ first.rendezvous.name.toList) :
    first.rendezvousNamespaces blake3 network = .ok [first.rendezvous.name] := by
  unfold DiscoveryConfig.rendezvousNamespaces
  have disabled : ¬ first.namespaces.isEnabled = true := by simp [DiscoveryNamespaceConfig.isEnabled, untagged]
  have changed : first.rendezvous.name ≠ RendezvousConfig.defaultName := by
    intro same
    rw [same] at nul
    exact absurd nul (by decide)
  rw [if_neg disabled, if_neg changed]

/-- **Imitation** is a matter of the operator's name alone. -/
theorem imitates_iff (derived : first.rendezvousNamespaces blake3 network = .ok names)
    (derived' : second.rendezvousNamespaces blake3 network = .ok names') :
    Imitates '\x00' ((canonicalNamespaces names).map String.toList)
        ((canonicalNamespaces names').map String.toList) ↔ ImitatesNamespaces blake3 network first second := by
  have distinct := DiscoveryConfig.rendezvousNamespaces_nodup blake3 derived
  have distinct' := DiscoveryConfig.rendezvousNamespaces_nodup blake3 derived'
  constructor
  · rintro ⟨several, single⟩
    have mark : '\x00' ∈ ['\x00'].intercalate ((canonicalNamespaces names').map String.toList) :=
      mark_mem_intercalate several
    rcases DiscoveryConfig.rendezvousNamespaces_origin blake3 derived with ⟨untagged, rfl⟩ | ⟨_, path⟩
    · rw [List.length_map, length_canonicalNamespaces distinct'] at several
      refine ⟨untagged, names', derived', several, String.toList_injective ?_⟩
      rw [String.toList_intercalate]
      exact (List.cons.inj single).1
    · have listed : ['\x00'].intercalate ((canonicalNamespaces names').map String.toList) ∈
          (canonicalNamespaces names).map String.toList := single ▸ List.mem_cons_self
      obtain ⟨name, member, same⟩ := List.mem_map.mp listed
      have chars := path name ((mem_canonicalNamespaces distinct).mp member) '\x00' (same ▸ mark)
      exact absurd chars (by decide)
  · rintro ⟨untagged, others, found, several, text⟩
    obtain rfl := Except.ok.inj (found.symm.trans derived')
    have counted : 2 ≤ ((canonicalNamespaces others).map String.toList).length := by
      rwa [List.length_map, length_canonicalNamespaces distinct']
    have chars : first.rendezvous.name.toList =
        ['\x00'].intercalate ((canonicalNamespaces others).map String.toList) := by
      rw [text, String.toList_intercalate]
      rfl
    have kept := rendezvousNamespaces_of_nul blake3 network untagged (chars ▸ mark_mem_intercalate counted)
    obtain rfl := Except.ok.inj (derived.symm.trans kept)
    exact ⟨counted, by rw [canonicalNamespaces_singleton, List.map_singleton, chars]⟩

theorem different_of_imitates (derived : first.rendezvousNamespaces blake3 network = .ok names)
    (derived' : second.rendezvousNamespaces blake3 network = .ok names')
    (imitates : ImitatesNamespaces blake3 network first second) : ¬ ∀ name, name ∈ names ↔ name ∈ names' := by
  intro same
  have distinct := DiscoveryConfig.rendezvousNamespaces_nodup blake3 derived
  have distinct' := DiscoveryConfig.rendezvousNamespaces_nodup blake3 derived'
  refine ((imitates_iff derived derived').mpr imitates).ne ?_
  rw [(canonicalNamespaces_inj distinct distinct').mpr same]

/-- **What the framed namespaces tell**: the set, unless one configuration imitates the other. -/
theorem framed_canonical_iff (derived : first.rendezvousNamespaces blake3 network = .ok names)
    (derived' : second.rendezvousNamespaces blake3 network = .ok names') :
    framed '\x00' ((canonicalNamespaces names).map String.toList) =
        framed '\x00' ((canonicalNamespaces names').map String.toList) ↔
      (∀ name, name ∈ names ↔ name ∈ names') ∨ ImitatesNamespaces blake3 network first second ∨
        ImitatesNamespaces blake3 network second first := by
  have distinct := DiscoveryConfig.rendezvousNamespaces_nodup blake3 derived
  have distinct' := DiscoveryConfig.rendezvousNamespaces_nodup blake3 derived'
  rw [framed_eq_iff (canonical_ne_nil derived) (canonical_ne_nil derived') (readable_of_derived derived)
    (readable_of_derived derived'), imitates_iff derived derived', imitates_iff derived' derived,
    List.map_inj_right fun _ _ => String.toList_injective, canonicalNamespaces_inj distinct distinct']

end Imitation

/-- **The compatibility proof is exact** for two validated configurations and two networks, exactly when the networks
differ or neither configuration imitates the other. -/
theorem applicationProtocolVersion_exact_iff {blake3 : Blake3} {first second : DiscoveryConfig}
    (valid : first.validate blake3 = .ok ()) (valid' : second.validate blake3 = .ok ()) (network network' : UInt32) :
    ∃ names names' version version', first.rendezvousNamespaces blake3 network = .ok names ∧
      second.rendezvousNamespaces blake3 network' = .ok names' ∧
      first.applicationProtocolVersion blake3 network = .ok version ∧
      second.applicationProtocolVersion blake3 network' = .ok version' ∧
      (Set.InjOn blake3 {applicationMaterial network (canonicalNamespaces names),
          applicationMaterial network' (canonicalNamespaces names')} →
        ((version = version' ↔ network = network' ∧ ∀ name, name ∈ names ↔ name ∈ names') ↔
          ¬ (network = network' ∧ (ImitatesNamespaces blake3 network first second ∨
            ImitatesNamespaces blake3 network second first)))) := by
  obtain ⟨_, zero, _⟩ := DiscoveryConfig.rendezvousNamespaces_of_validate blake3 valid
  obtain ⟨_, zero', _⟩ := DiscoveryConfig.rendezvousNamespaces_of_validate blake3 valid'
  obtain ⟨names, derived⟩ := DiscoveryConfig.rendezvousNamespaces_succeeds blake3 zero network
  obtain ⟨names', derived'⟩ := DiscoveryConfig.rendezvousNamespaces_succeeds blake3 zero' network'
  refine ⟨names, names', _, _, derived, derived', bind_ok_iff.mpr ⟨names, derived, rfl⟩,
    bind_ok_iff.mpr ⟨names', derived', rfl⟩, fun separate => ?_⟩
  rw [versionOf_eq_iff separate, applicationMaterial_eq_iff]
  by_cases same : network = network'
  · subst same
    rw [framed_canonical_iff derived derived']
    constructor
    · rintro exactly ⟨_, imitates⟩
      have equal := (exactly.mp ⟨rfl, .inr imitates⟩).2
      rcases imitates with imitates | imitates
      · exact different_of_imitates derived derived' imitates equal
      · exact different_of_imitates derived' derived imitates fun name => (equal name).symm
    · intro plain
      constructor
      · rintro ⟨_, equal | imitates⟩
        · exact ⟨rfl, equal⟩
        · exact absurd ⟨rfl, imitates⟩ plain
      · rintro ⟨_, equal⟩
        exact ⟨rfl, .inl equal⟩
  · simp only [same, false_and, not_false_eq_true]

/-! ### An ambiguous name -/

namespace AmbiguousName

/-- BLAKE3 at the one material of the configurations below. Readable names have no hash in them. -/
def blake3 : Blake3 := fun _ => ⟨[145, 64, 30, 207, 115, 112, 203, 236, 193, 48, 67, 205, 4, 77, 17, 103, 91, 52, 136, 233, 41, 83, 28, 28, 223,
  164, 210, 233, 220, 161, 95, 148], rfl⟩

def tagged : DiscoveryConfig := .plain ⟨"app", ["a", "b"], .readableUnsafe, true⟩ "p2p-net"

/-- The same tags in another order, one of them twice. -/
def shuffled : DiscoveryConfig := .plain ⟨"app", ["b", "a", "b"], .readableUnsafe, true⟩ "p2p-net"

def imitation : DiscoveryConfig :=
  .plain ⟨"app", [], .hashed, false⟩ "p2p-net/7/app/a\x00p2p-net/7/app/b"

/-- **One version for different namespaces.** -/
theorem same_version : tagged.validate blake3 = .ok () ∧ imitation.validate blake3 = .ok () ∧
    tagged.rendezvousNamespaces blake3 7 = .ok ["p2p-net/7/app/a", "p2p-net/7/app/b"] ∧
    imitation.rendezvousNamespaces blake3 7 = .ok ["p2p-net/7/app/a\x00p2p-net/7/app/b"] ∧
    applicationMaterial 7 ["p2p-net/7/app/a", "p2p-net/7/app/b"] =
      applicationMaterial 7 ["p2p-net/7/app/a\x00p2p-net/7/app/b"] ∧
    tagged.applicationProtocolVersion blake3 7 = imitation.applicationProtocolVersion blake3 7 := by
  decide

theorem tagged_names : tagged.rendezvousNamespaces blake3 7 = .ok ["p2p-net/7/app/a", "p2p-net/7/app/b"] := by
  decide

theorem shuffled_names : shuffled.rendezvousNamespaces blake3 7 = .ok ["p2p-net/7/app/b", "p2p-net/7/app/a"] := by
  decide

/-- The order of the tags and their repetition do not matter. -/
theorem shuffled_version :
    tagged.applicationProtocolVersion blake3 7 = shuffled.applicationProtocolVersion blake3 7 := by
  obtain ⟨names, names', version, version', derived, derived', computed, computed', exactly⟩ :=
    applicationProtocolVersion_exact_iff (show tagged.validate blake3 = .ok () by decide)
      (show shuffled.validate blake3 = .ok () by decide) 7 7
  obtain rfl := Except.ok.inj (derived.symm.trans tagged_names)
  obtain rfl := Except.ok.inj (derived'.symm.trans shuffled_names)
  have separate : Set.InjOn blake3 {applicationMaterial 7 (canonicalNamespaces ["p2p-net/7/app/a", "p2p-net/7/app/b"]),
      applicationMaterial 7 (canonicalNamespaces ["p2p-net/7/app/b", "p2p-net/7/app/a"])} := by
    rw [show canonicalNamespaces ["p2p-net/7/app/b", "p2p-net/7/app/a"] =
      canonicalNamespaces ["p2p-net/7/app/a", "p2p-net/7/app/b"] by decide]
    simp
  have plain : ¬ (ImitatesNamespaces blake3 7 tagged shuffled ∨ ImitatesNamespaces blake3 7 shuffled tagged) := by
    rintro (imitates | imitates)
    · exact absurd imitates.1 (by decide)
    · exact absurd imitates.1 (by decide)
  have same := ((exactly separate).mpr fun imitates => plain imitates.2).mpr ⟨rfl, by simp [or_comm]⟩
  rw [computed, computed', same]

end AmbiguousName

end P2pNet.Connectivity
