/-
**Names that are too long for a rendezvous point** (`DiscoveryConfig::validate`, `build_discovery_namespace` and
`refresh_rendezvous`).

A namespace of a rendezvous point has at most 255 bytes. The configuration is checked with the names of the network 0,
and a name has the number of the network in it. With hashed tags there is room for every number; with readable tags
a name may fit for the network 0 only.
-/

import P2pNet.Connectivity.NamespaceSeparation
import P2pNet.Stack.RendezvousRefresh

namespace P2pNet.Connectivity

open Lib

/-! ### Sizes -/

theorem utf8Size_of_isSegmentChar {char : Char} (fits : isSegmentChar char = true) : char.utf8Size = 1 := by
  have small : char.toNat ≤ 127 := by
    unfold isSegmentChar at fits
    rcases of_decide_eq_true fits with ⟨_, high⟩ | ⟨_, high⟩ | rfl | rfl | rfl
    · exact le_trans (show char.toNat ≤ 122 from high) (by decide)
    · exact le_trans (show char.toNat ≤ 57 from high) (by decide)
    · decide
    · decide
    · decide
  exact Char.utf8Size_eq_one_iff.mpr (UInt32.le_iff_toNat_le.mpr small)

theorem utf8ByteSize_of_segment {segment : String} (chars : ∀ char ∈ segment.toList, isSegmentChar char = true) :
    segment.utf8ByteSize = segment.toList.length := by
  have size := utf8ByteSize_ofList fun char member => utf8Size_of_isSegmentChar (chars char member)
  rwa [String.ofList_toList] at size

theorem collapse_length_le (rounds : ℕ) (out : List Char) : (collapse rounds out).length ≤ out.length := by
  induction rounds generalizing out with
  | zero => exact le_rfl
  | succ rounds ih =>
    unfold collapse
    split_ifs
    · exact (ih _).trans (replaceDouble_length_le out)
    · exact le_rfl

/-- **A normalised segment is not longer** than the text it comes from. -/
theorem normalizeNamespaceSegment_size {value segment : String}
    (normalized : normalizeNamespaceSegment value = .ok segment) :
    segment.utf8ByteSize ≤ (Text.trim value).utf8ByteSize := by
  rw [utf8ByteSize_of_segment (normalizeNamespaceSegment_chars normalized)]
  refine le_trans ?_ (Text.length_le_utf8ByteSize _)
  unfold normalizeNamespaceSegment at normalized
  rw [bind_unit_ok_iff, bind_unit_ok_iff] at normalized
  obtain ⟨_, _, returned⟩ := normalized
  rw [← Except.ok.inj returned, String.toList_ofList]
  calc _ ≤ _ := (List.rdropWhile_prefix _ _).length_le
    _ ≤ _ := (List.dropWhile_suffix _).length_le
    _ ≤ _ := collapse_length_le _ _
    _ = _ := List.length_map _

theorem validateAppId_size {value field : String} (checked : validateAppId value field = .ok ()) :
    (Text.trim value).utf8ByteSize ≤ 64 := by
  unfold validateAppId checkText at checked
  rw [bind_unit_ok_iff, rejectIf_ok_iff, rejectIf_ok_iff] at checked
  exact Nat.le_of_not_lt checked.2

/-- The number of a network has at most ten digits. -/
theorem networkId_size (networkId : UInt32) : (toString networkId).utf8ByteSize ≤ 10 := by
  have chars : ∀ char ∈ (toString networkId).toList, isSegmentChar char = true := decimal_chars networkId.toNat
  rw [utf8ByteSize_of_segment chars, String.length_toList]
  exact Nat.repr_length networkId.toNat 10 (by decide) (lt_trans networkId.toNat_lt (by decide))

section Built

variable {blake3 : Blake3} {networkId : UInt32} {appId tag : String} {privacy : DiscoveryNamespacePrivacy}
  {allowReadableTags : Bool} {derived : DiscoveryNamespace}

/-- **The size of a derived name**: seven bytes of prefix, three slashes, the number, and the two segments. -/
theorem buildDiscoveryNamespace_size
    (built : buildDiscoveryNamespace blake3 networkId appId tag privacy allowReadableTags = .ok derived) :
    ∃ app segment, normalizeNamespaceSegment appId = .ok app ∧
      tagSegment privacy (discoveryTagHashHex blake3 networkId app tag) tag = .ok segment ∧
      derived.name.utf8ByteSize =
        10 + (toString networkId).utf8ByteSize + app.utf8ByteSize + segment.utf8ByteSize := by
  obtain ⟨_, _, _, app, segment, normalized, chosen, rfl⟩ := buildDiscoveryNamespace_ok_iff.mp built
  refine ⟨app, segment, normalized, chosen, ?_⟩
  have fixed : (toString discoveryNamespacePrefix).utf8ByteSize = 7 ∧ (toString "/").utf8ByteSize = 1 := by decide
  simp only [String.utf8ByteSize_append, fixed]
  show 7 + 1 + _ + 1 + app.utf8ByteSize + 1 + segment.utf8ByteSize = _
  omega

/-- **With hashed tags** there is room for every network. -/
theorem hashed_name_short
    (built : buildDiscoveryNamespace blake3 networkId appId tag .hashed allowReadableTags = .ok derived) :
    derived.name.utf8ByteSize ≤ 255 := by
  obtain ⟨app, segment, normalized, chosen, size⟩ := buildDiscoveryNamespace_size built
  have first := normalizeNamespaceSegment_size normalized
  have checked := validateAppId_size (buildDiscoveryNamespace_ok_iff.mp built).1
  have number := networkId_size networkId
  have digest : segment.utf8ByteSize = 64 := by
    rw [← Except.ok.inj chosen, discoveryTagHashHex, Hex.utf8ByteSize_encode, List.Vector.toList_length]
  omega

end Built

/-! ### Usable names -/

/-- Every readable name has room for the number of the network. -/
def DiscoveryConfig.ReadableFits (discovery : DiscoveryConfig) (networkId : UInt32) : Prop :=
  discovery.namespaces.privacy = .readableUnsafe → ∀ tag ∈ discovery.namespaces.tags, ∀ app segment,
    normalizeNamespaceSegment discovery.namespaces.appId = .ok app → normalizeNamespaceSegment tag = .ok segment →
    10 + (toString networkId).utf8ByteSize + app.utf8ByteSize + segment.utf8ByteSize ≤ 255

namespace DiscoveryConfig

variable {discovery : DiscoveryConfig} {blake3 : Blake3} {networkId : UInt32} {names : List String}

theorem rendezvous_name_short (valid : discovery.validate blake3 = .ok ()) :
    discovery.rendezvous.name.utf8ByteSize ≤ 255 := by
  unfold validate at valid
  simp only [bind_unit_ok_iff] at valid
  obtain ⟨_, _, _, _, _, _, _, _, _, _, rendezvous, _⟩ := valid
  unfold RendezvousConfig.validate at rendezvous
  rw [bind_unit_ok_iff, bind_ok_iff] at rendezvous
  obtain ⟨_, name, checked, _⟩ := rendezvous
  unfold RendezvousConfig.checkName at checked
  have accepted := mapError_ok_iff.mp checked
  by_contra long
  rw [rendezvousNamespace, if_pos (Nat.lt_of_not_le long)] at accepted
  cases accepted

theorem readableFits_of_untagged (untagged : discovery.namespaces.tags = []) : discovery.ReadableFits networkId := by
  intro _ tag listed
  rw [untagged] at listed
  cases listed

/-- The derived names are all short exactly when the name of every tag is. -/
theorem derived_short_iff {namespaces : List DiscoveryNamespace}
    (derived : discovery.namespaces.derivedNamespaces blake3 networkId = .ok namespaces) :
    (∀ name ∈ namespaces.map (·.name), name.utf8ByteSize ≤ 255) ↔ discovery.ReadableFits networkId := by
  obtain ⟨_, all, mapped, rfl⟩ := DiscoveryNamespaceConfig.derivedNamespaces_ok_iff.mp derived
  constructor
  · intro short readable tag listed app segment normalized chosen
    obtain ⟨item, built⟩ := mapM_succeeds_iff.mp ⟨all, mapped⟩ tag listed
    have member := mem_of_mapM_ok mapped listed built
    obtain ⟨kept, inside, same⟩ := exists_mem_firstsBy (·.name) member
    have size := short kept.name (List.mem_map_of_mem inside)
    obtain ⟨app', segment', normalized', chosen', exact_⟩ := buildDiscoveryNamespace_size built
    rw [readable] at chosen'
    obtain rfl := Except.ok.inj (normalized'.symm.trans normalized)
    obtain rfl := Except.ok.inj (chosen'.symm.trans chosen)
    rw [← exact_, ← same]
    exact size
  · intro fits name member
    obtain ⟨item, kept, rfl⟩ := List.mem_map.mp member
    obtain ⟨tag, listed, built⟩ := mapM_ok_mem mapped ((firstsBy_sublist _ all).subset kept)
    cases privacy : discovery.namespaces.privacy with
    | hashed =>
      rw [privacy] at built
      exact hashed_name_short built
    | readableUnsafe =>
      obtain ⟨app, segment, normalized, chosen, size⟩ := buildDiscoveryNamespace_size built
      rw [privacy] at chosen
      rw [size]
      exact fits privacy tag listed app segment normalized chosen

theorem names_short_iff (valid : discovery.validate blake3 = .ok ())
    (found : discovery.rendezvousNamespaces blake3 networkId = .ok names) :
    (∀ name ∈ names, name.utf8ByteSize ≤ 255) ↔ discovery.ReadableFits networkId := by
  unfold rendezvousNamespaces at found
  split_ifs at found with tagged unchanged
  · rw [bind_ok_iff] at found
    obtain ⟨namespaces, derived, returned⟩ := found
    rw [← Except.ok.inj returned]
    exact derived_short_iff derived
  · have untagged : discovery.namespaces.tags = [] := by simpa [DiscoveryNamespaceConfig.isEnabled] using tagged
    rw [bind_ok_iff] at found
    obtain ⟨item, built, returned⟩ := found
    rw [← Except.ok.inj returned]
    refine iff_of_true (fun name member => ?_) (readableFits_of_untagged untagged)
    rw [List.mem_singleton.mp member]
    exact hashed_name_short built
  · have untagged : discovery.namespaces.tags = [] := by simpa [DiscoveryNamespaceConfig.isEnabled] using tagged
    rw [← Except.ok.inj found]
    refine iff_of_true (fun name member => ?_) (readableFits_of_untagged untagged)
    rw [List.mem_singleton.mp member]
    exact rendezvous_name_short valid

end DiscoveryConfig

end P2pNet.Connectivity

namespace P2pNet.Stack

open Lib Connectivity

theorem rendezvousNamespace_ok_iff {name : String} :
    rendezvousNamespace name = .ok name ↔ name.utf8ByteSize ≤ 255 := by
  unfold rendezvousNamespace
  split_ifs with long
  · exact iff_of_false (fun accepted => nomatch accepted) (Nat.not_le.mpr long)
  · exact iff_of_true rfl (Nat.le_of_not_lt long)

/-- **The names of a validated configuration are usable** on a network, and a refresh drops none of them, exactly
when its readable names have room for the number of the network. -/
theorem rendezvousNames_usable_iff {blake3 : Blake3} {discovery : DiscoveryConfig}
    (valid : discovery.validate blake3 = .ok ()) (networkId : UInt32) :
    ∃ names, discovery.rendezvousNamespaces blake3 networkId = .ok names ∧
      ((∀ name ∈ names, rendezvousNamespace name = .ok name) ↔ discovery.ReadableFits networkId) ∧
      (usableNamespaces names = (names, []) ↔ discovery.ReadableFits networkId) := by
  obtain ⟨_, zero, _⟩ := DiscoveryConfig.rendezvousNamespaces_of_validate blake3 valid
  obtain ⟨names, derived⟩ := DiscoveryConfig.rendezvousNamespaces_succeeds blake3 zero networkId
  have short := DiscoveryConfig.names_short_iff valid derived
  refine ⟨names, derived, ?_, ?_⟩
  · simp only [rendezvousNamespace_ok_iff]
    exact short
  · rw [usableNamespaces_eq_iff]
    exact short

namespace LongTag

/-- Readable names have no hash in them. -/
def blake3 : Blake3 := fun _ => List.Vector.replicate 32 0

/-- A readable tag of 243 characters. -/
def tag : String := String.ofList (List.replicate 243 't')

def config : DiscoveryNamespaceConfig := ⟨"a", [tag], .readableUnsafe, true⟩

def discovery : DiscoveryConfig := .plain config "p2p-net"

theorem tag_chars : tag.toList = List.replicate 243 't' := String.toList_ofList

theorem tag_size : tag.utf8ByteSize = 243 := by
  unfold tag
  rw [utf8ByteSize_ofList fun char member => by rw [List.eq_of_mem_replicate member]; rfl, List.length_replicate]

theorem tag_ne_empty : tag ≠ "" := by
  intro same
  have size := tag_size
  rw [same] at size
  cases size

theorem trim_tag : Text.trim tag = tag := by
  have ends : ((List.replicate 243 't').dropWhile Text.isWhitespace).rdropWhile Text.isWhitespace =
      List.replicate 243 't' := by decide +kernel
  unfold Text.trim
  rw [tag_chars, ends]
  rfl

theorem tag_normalized : normalizeNamespaceSegment tag = .ok tag := by
  unfold normalizeNamespaceSegment
  have kept : ((collapse 243 (List.replicate 243 't')).dropWhile (· = '-')).rdropWhile (· = '-') =
      List.replicate 243 't' := by decide +kernel
  have mapped : tag.toList.map segmentChar = List.replicate 243 't' := by
    rw [tag_chars, List.map_replicate]
    rfl
  rw [bind_unit_ok_iff, bind_unit_ok_iff, trim_tag, mapped, List.length_replicate, kept]
  exact ⟨rejectIf_neg tag_ne_empty _, rejectIf_neg (by decide) _, rfl⟩

theorem tag_checked (field : String) : validateTag tag field = .ok () := by
  unfold validateTag checkText
  rw [bind_unit_ok_iff, trim_tag, tag_size]
  exact ⟨rejectIf_neg tag_ne_empty _, rejectIf_neg (by decide) _⟩

theorem config_valid : config.validate = .ok () := by
  unfold DiscoveryNamespaceConfig.validate
  rw [bind_unit_ok_iff, bind_unit_ok_iff, bind_unit_ok_iff]
  exact ⟨by decide, by decide, by decide, forM_ok_iff.mpr fun entry listed => by
    rw [List.mem_singleton.mp listed]
    exact tag_checked _⟩

/-- The name that is derived. -/
def name (network : UInt32) : String :=
  s!"{discoveryNamespacePrefix}/{network}/{config.appId}/{tag}"

theorem names_derived (network : UInt32) : discovery.rendezvousNamespaces blake3 network = .ok [name network] := by
  have built : config.namespaceOf blake3 network tag = .ok
      ⟨network, "a", name network, discoveryTagHashHex blake3 network "a" tag, .readableUnsafe⟩ :=
    buildDiscoveryNamespace_ok_iff.mpr
      ⟨by decide, tag_checked _, by decide, "a", tag, by decide, tag_normalized, rfl⟩
  have derived := DiscoveryNamespaceConfig.derivedNamespaces_ok_iff.mpr
    ⟨config_valid, _, mapM_ok_iff.mpr (.cons built .nil), rfl⟩
  unfold DiscoveryConfig.rendezvousNamespaces
  exact bind_ok_iff.mpr ⟨_, derived, rfl⟩

theorem name_size (network : UInt32) : (name network).utf8ByteSize = 254 + (toString network).utf8ByteSize := by
  have fixed : (toString discoveryNamespacePrefix).utf8ByteSize = 7 ∧ (toString "/").utf8ByteSize = 1 ∧
      (toString config.appId).utf8ByteSize = 1 := by decide
  have last : (toString tag).utf8ByteSize = 243 := tag_size
  unfold name
  simp only [String.utf8ByteSize_append, fixed, last]
  omega

theorem valid : discovery.validate blake3 = .ok () := by
  unfold DiscoveryConfig.validate
  simp only [bind_unit_ok_iff]
  refine ⟨by decide, by decide, by decide, by decide, by decide, config_valid, by decide, by decide, by decide, by decide,
    by decide, bind_ok_iff.mpr ⟨_, names_derived 0, forM_ok_iff.mpr fun item listed => ?_⟩⟩
  obtain rfl := List.mem_singleton.mp listed
  have size : (name 0).utf8ByteSize = 255 := name_size 0
  rw [rendezvousNamespace, size]
  rfl

/-- **A name that is dropped**: it has 255 bytes for the network 0, and 256 for the network 10. -/
theorem dropped : discovery.validate blake3 = .ok () ∧
    discovery.rendezvousNamespaces blake3 10 = .ok [name 10] ∧ (name 10).utf8ByteSize = 256 ∧
    rendezvousNamespace (name 10) = .error "Namespace is too long" ∧ (usableNamespaces [name 10]).1 = [] := by
  have size : (name 10).utf8ByteSize = 256 := name_size 10
  refine ⟨valid, names_derived 10, size, ?_, ?_⟩
  · rw [rendezvousNamespace, size]
    rfl
  · rw [usableNamespaces_fst]
    simp [size]

/-- On the network 9 the name is used. -/
theorem used : ∃ names, discovery.rendezvousNamespaces blake3 9 = .ok names ∧ usableNamespaces names = (names, []) := by
  obtain ⟨names, derived, _, usable⟩ := rendezvousNames_usable_iff valid 9
  refine ⟨names, derived, usable.mpr ?_⟩
  intro _ member listed app segment normalized chosen
  obtain rfl : member = tag := List.mem_singleton.mp listed
  have first : normalizeNamespaceSegment discovery.namespaces.appId = .ok "a" := by decide
  obtain rfl := Except.ok.inj (first.symm.trans normalized)
  obtain rfl := Except.ok.inj (tag_normalized.symm.trans chosen)
  rw [tag_size]
  decide

end LongTag

end P2pNet.Stack
