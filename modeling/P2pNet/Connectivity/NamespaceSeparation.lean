/-
**Namespaces of different networks, applications and tags** (`crates/connectivity/namespace.rs`).

The fingerprint of a tag is the hash of a context, the network, the application and the tag, with null bytes between
the last three. The network has four bytes and a normalised application has no null in it, so that the material
tells all three (`namespaceMaterial_inj`), whatever characters the tag has.

The hash is not injective. What is assumed is that the materials in question do not collide.
-/

import P2pNet.Lib.Framed
import P2pNet.Connectivity.Namespace

namespace P2pNet.Connectivity

open Lib

/-! ### The material of a fingerprint -/

/-- What `discovery_tag_hash_hex` hashes. -/
def namespaceMaterial (networkId : UInt32) (appId tag : String) : List UInt8 :=
  Text.bytes discoveryNamespaceHashContext ++ BigEndian.write 4 networkId.toNat ++ [0]
    ++ Text.bytes appId ++ [0] ++ Text.bytes tag

theorem discoveryTagHashHex_eq (blake3 : Blake3) (networkId : UInt32) (appId tag : String) :
    discoveryTagHashHex blake3 networkId appId tag =
      Hex.encode (blake3 (namespaceMaterial networkId appId tag)).toList := rfl

theorem write_networkId_inj {first second : UInt32} :
    BigEndian.write 4 first.toNat = BigEndian.write 4 second.toNat ↔ first = second := by
  constructor
  · intro same
    have numbers := congrArg BigEndian.read same
    rw [BigEndian.read_write, BigEndian.read_write] at numbers
    have small : first.toNat < 2 ^ 32 := first.toNat_lt
    have small' : second.toNat < 2 ^ 32 := second.toNat_lt
    exact UInt32.toNat_inj.mp (by omega)
  · rintro rfl
    rfl

/-- What follows the context: four bytes of the network, and a text. -/
theorem namespaceMaterial_eq (networkId : UInt32) (appId tag : String) : namespaceMaterial networkId appId tag =
    Text.bytes discoveryNamespaceHashContext
      ++ (BigEndian.write 4 networkId.toNat ++ 0 :: Text.bytes (appId ++ "\x00" ++ tag)) := by
  simp [namespaceMaterial, Text.bytes_append, Text.bytes_nul]

section Material

variable {network network' : UInt32} {app app' tag tag' : String}

/-- **The material tells the network, the application and the tag.** -/
theorem namespaceMaterial_inj (absent : '\x00' ∉ app.toList) (absent' : '\x00' ∉ app'.toList) :
    namespaceMaterial network app tag = namespaceMaterial network' app' tag' ↔
      network = network' ∧ app = app' ∧ tag = tag' := by
  constructor
  · intro same
    rw [namespaceMaterial_eq, namespaceMaterial_eq] at same
    obtain ⟨number, text⟩ := List.append_inj (List.append_cancel_left same) (by simp)
    have chars := congrArg String.toList (Text.bytes_injective (List.cons.inj text).2)
    simp only [String.toList_append, List.append_assoc] at chars
    -- the application ends at the first null, and the tag may have more of them
    obtain ⟨first, second⟩ := (append_mark_inj absent absent').mp chars
    exact ⟨write_networkId_inj.mp number, String.toList_injective first, String.toList_injective second⟩
  · rintro ⟨rfl, rfl, rfl⟩
    rfl

theorem discoveryTagHashHex_eq_iff {blake3 : Blake3}
    (separate : Set.InjOn blake3 {namespaceMaterial network app tag, namespaceMaterial network' app' tag'})
    (absent : '\x00' ∉ app.toList) (absent' : '\x00' ∉ app'.toList) :
    discoveryTagHashHex blake3 network app tag = discoveryTagHashHex blake3 network' app' tag' ↔
      network = network' ∧ app = app' ∧ tag = tag' := by
  rw [← namespaceMaterial_inj absent absent', discoveryTagHashHex_eq, discoveryTagHashHex_eq]
  constructor
  · intro same
    have digests := Hex.encode_injective same
    exact separate (.inl rfl) (.inr rfl) (Subtype.ext digests)
  · intro same
    rw [same]

end Material

theorem length_hex_digest (digest : ByteArrayOf 32) : (Hex.encode digest.toList).toList.length = 64 := by
  rw [Hex.encode, String.toList_ofList, Hex.length_flatMap_encodeByte, List.Vector.toList_length]

theorem normalizeNamespaceSegment_no_nul {value segment : String}
    (normalized : normalizeNamespaceSegment value = .ok segment) : '\x00' ∉ segment.toList := by
  intro nul
  exact absurd (normalizeNamespaceSegment_chars normalized '\x00' nul) (by decide)

/-! ### Hashed tags -/

section Hashed

variable {blake3 : Blake3} {network network' : UInt32} {app app' tag tag' : String} {allow allow' : Bool}
  {first second : DiscoveryNamespace}

/-- A success with hashed tags. -/
theorem buildDiscoveryNamespace_hashed
    (built : buildDiscoveryNamespace blake3 network app tag .hashed allow = .ok first) :
    normalizeNamespaceSegment app = .ok first.appId ∧
      first.tagFingerprintHex = discoveryTagHashHex blake3 network first.appId tag ∧
      first = ⟨network, first.appId,
        s!"{discoveryNamespacePrefix}/{network}/{first.appId}/{first.tagFingerprintHex}",
        first.tagFingerprintHex, .hashed⟩ := by
  obtain ⟨_, _, _, normal, segment, normalized, chosen, rfl⟩ := buildDiscoveryNamespace_ok_iff.mp built
  obtain rfl := Except.ok.inj chosen
  exact ⟨normalized, rfl, rfl⟩

/-- The fingerprint is the end of the name. -/
theorem fingerprint_of_name (built : buildDiscoveryNamespace blake3 network app tag .hashed allow = .ok first)
    (built' : buildDiscoveryNamespace blake3 network' app' tag' .hashed allow' = .ok second)
    (same : first.name = second.name) : first.tagFingerprintHex = second.tagFingerprintHex := by
  obtain ⟨_, hash, shape⟩ := buildDiscoveryNamespace_hashed built
  obtain ⟨_, hash', shape'⟩ := buildDiscoveryNamespace_hashed built'
  have chars := congrArg String.toList same
  rw [shape, shape'] at chars
  simp only [String.toList_append] at chars
  have lengths : (toString first.tagFingerprintHex).toList.length =
      (toString second.tagFingerprintHex).toList.length := by
    rw [hash, hash', discoveryTagHashHex_eq, discoveryTagHashHex_eq]
    exact (length_hex_digest _).trans (length_hex_digest _).symm
  exact String.toList_injective (List.append_inj' chars lengths).2

/-- **Namespaces with hashed tags** are equal for the same network, application and tag only. -/
theorem hashedNamespace_eq_iff (built : buildDiscoveryNamespace blake3 network app tag .hashed allow = .ok first)
    (built' : buildDiscoveryNamespace blake3 network' app' tag' .hashed allow' = .ok second)
    (separate : Set.InjOn blake3
      {namespaceMaterial network first.appId tag, namespaceMaterial network' second.appId tag'}) :
    first.name = second.name ↔ network = network' ∧
      normalizeNamespaceSegment app = normalizeNamespaceSegment app' ∧ tag = tag' := by
  obtain ⟨normalized, hash, shape⟩ := buildDiscoveryNamespace_hashed built
  obtain ⟨normalized', hash', shape'⟩ := buildDiscoveryNamespace_hashed built'
  rw [normalized, normalized', Except.ok.injEq]
  constructor
  · intro same
    have fingerprints := fingerprint_of_name built built' same
    rw [hash, hash'] at fingerprints
    exact (discoveryTagHashHex_eq_iff separate (normalizeNamespaceSegment_no_nul normalized)
      (normalizeNamespaceSegment_no_nul normalized')).mp fingerprints
  · rintro ⟨rfl, apps, rfl⟩
    rw [shape, shape', hash, hash', apps]

end Hashed

/-! ### Derived namespaces -/

namespace DiscoveryNamespaceConfig

/-- No two tags have materials that collide. -/
def Collisionless (cfg : DiscoveryNamespaceConfig) (blake3 : Blake3) (networkId : UInt32) : Prop :=
  ∀ app, normalizeNamespaceSegment cfg.appId = .ok app →
    Set.InjOn blake3 {material | ∃ tag ∈ cfg.tags, material = namespaceMaterial networkId app tag}

variable {cfg : DiscoveryNamespaceConfig} {blake3 : Blake3} {networkId : UInt32}

/-- The namespace of a tag of the configuration. -/
def namespaceOf (cfg : DiscoveryNamespaceConfig) (blake3 : Blake3) (networkId : UInt32) (tag : String) :
    Except NetError DiscoveryNamespace :=
  buildDiscoveryNamespace blake3 networkId cfg.appId tag cfg.privacy cfg.allowReadableTags

theorem tag_of_name (hashed : cfg.privacy = .hashed) (separate : cfg.Collisionless blake3 networkId)
    {tag tag' : String} {derived derived' : DiscoveryNamespace}
    (found : tag ∈ cfg.tags ∧ cfg.namespaceOf blake3 networkId tag = .ok derived)
    (found' : tag' ∈ cfg.tags ∧ cfg.namespaceOf blake3 networkId tag' = .ok derived') :
    tag = tag' ↔ derived.name = derived'.name := by
  obtain ⟨listed, built⟩ := found
  obtain ⟨listed', built'⟩ := found'
  unfold namespaceOf at built built'
  rw [hashed] at built built'
  have normalized := (buildDiscoveryNamespace_hashed built).1
  have apps : derived.appId = derived'.appId :=
    Except.ok.inj (normalized.symm.trans (buildDiscoveryNamespace_hashed built').1)
  have pair : Set.InjOn blake3
      {namespaceMaterial networkId derived.appId tag, namespaceMaterial networkId derived'.appId tag'} := by
    refine (separate derived.appId normalized).mono ?_
    rintro material (rfl | rfl)
    · exact ⟨tag, listed, rfl⟩
    · exact ⟨tag', listed', by rw [apps]⟩
  rw [hashedNamespace_eq_iff built built' pair]
  exact ⟨fun same => ⟨rfl, rfl, same⟩, fun same => same.2.2⟩

/-- **The derived namespaces with hashed tags** are those of the tags without repetitions, in the order of the
tags. -/
theorem derivedNamespaces_hashed (hashed : cfg.privacy = .hashed) (separate : cfg.Collisionless blake3 networkId)
    {namespaces : List DiscoveryNamespace} : cfg.derivedNamespaces blake3 networkId = .ok namespaces ↔
      cfg.validate = .ok () ∧ (firstsBy id cfg.tags).mapM (cfg.namespaceOf blake3 networkId) = .ok namespaces := by
  have kept : ∀ all, cfg.tags.mapM (cfg.namespaceOf blake3 networkId) = .ok all →
      (firstsBy id cfg.tags).mapM (cfg.namespaceOf blake3 networkId) = .ok (firstsBy (·.name) all) := by
    intro all mapped
    have related := (List.forall₂_and_left _ _).mpr ⟨fun tag listed => listed, mapM_ok_iff.mp mapped⟩
    refine mapM_ok_iff.mpr (((List.forall₂_and_left _ _).mp (forall₂_firstsBy id related ?_)).2)
    intro tag tag' derived derived' found found'
    exact tag_of_name hashed separate found found'
  rw [derivedNamespaces_ok_iff]
  constructor
  · rintro ⟨valid, all, mapped, rfl⟩
    exact ⟨valid, kept all mapped⟩
  · rintro ⟨valid, mapped⟩
    -- every tag is among the first ones, so that all of them give a namespace
    have each : ∀ tag ∈ cfg.tags, ∃ derived, cfg.namespaceOf blake3 networkId tag = .ok derived := by
      intro tag listed
      obtain ⟨chosen, member, same⟩ := exists_mem_firstsBy id listed
      obtain rfl : chosen = tag := same
      exact mapM_succeeds_iff.mp ⟨namespaces, mapped⟩ chosen member
    obtain ⟨all, collected⟩ := mapM_succeeds_iff.mpr each
    exact ⟨valid, all, collected, Except.ok.inj (mapped.symm.trans (kept all collected))⟩

end DiscoveryNamespaceConfig

/-- **Hashed namespaces separate networks, applications and tags**, and what is derived keeps the order of the tags:
each namespace stands where it is derived first, and with hashed tags that is where its tag stands first. -/
theorem hashed_namespaces_separate (blake3 : Blake3) :
    (∀ (network network' : UInt32) (app app' tag tag' : String) (allow allow' : Bool)
      (first second : DiscoveryNamespace),
      buildDiscoveryNamespace blake3 network app tag .hashed allow = .ok first →
      buildDiscoveryNamespace blake3 network' app' tag' .hashed allow' = .ok second →
      Set.InjOn blake3
        {namespaceMaterial network first.appId tag, namespaceMaterial network' second.appId tag'} →
      (first.name = second.name ↔ network = network' ∧
        normalizeNamespaceSegment app = normalizeNamespaceSegment app' ∧ tag = tag')) ∧
    (∀ (cfg : DiscoveryNamespaceConfig) (networkId : UInt32), cfg.validate = .ok () →
      (∀ tag ∈ cfg.tags, ∃ derived, cfg.namespaceOf blake3 networkId tag = .ok derived) →
      ∃ all, cfg.tags.mapM (cfg.namespaceOf blake3 networkId) = .ok all ∧
        cfg.derivedNamespaces blake3 networkId = .ok (firstsBy (·.name) all) ∧
        (cfg.privacy = .hashed → cfg.Collisionless blake3 networkId →
          (firstsBy id cfg.tags).mapM (cfg.namespaceOf blake3 networkId) = .ok (firstsBy (·.name) all))) := by
  constructor
  · intro network network' app app' tag tag' allow allow' first second built built' separate
    exact hashedNamespace_eq_iff built built' separate
  · intro cfg networkId valid each
    obtain ⟨all, mapped⟩ := mapM_succeeds_iff.mpr each
    have derived := DiscoveryNamespaceConfig.derivedNamespaces_ok_iff.mpr ⟨valid, all, mapped, rfl⟩
    refine ⟨all, mapped, derived, fun hashed separate => ?_⟩
    exact ((DiscoveryNamespaceConfig.derivedNamespaces_hashed hashed separate).mp derived).2

/-! ### Two tags of one application -/

namespace InviteTags

/-- BLAKE3 at the materials of the two tags. -/
def blake3 : Blake3 := fun material =>
  if material = namespaceMaterial 7 "hydra-msg" "invite" then
    ⟨[93, 132, 71, 60, 236, 220, 143, 52, 127, 4, 81, 243, 201, 155, 210, 195, 125, 252, 204, 214, 244, 151, 103, 186,
      202, 1, 208, 145, 242, 152, 101, 119], rfl⟩
  else
    ⟨[82, 92, 164, 202, 204, 127, 145, 253, 14, 62, 130, 116, 16, 169, 230, 203, 165, 90, 50, 50, 137, 61, 71, 88, 82,
      7, 254, 165, 1, 195, 139, 49], rfl⟩

def config : DiscoveryNamespaceConfig := ⟨"Hydra-msg", ["invite", "family", "invite"], .hashed, false⟩

theorem normalized : normalizeNamespaceSegment "Hydra-msg" = .ok "hydra-msg" := by decide

def network : UInt32 := 7

def app : String := "hydra-msg"

def fingerprint (tag : String) : String := discoveryTagHashHex blake3 network app tag

def derived (tag : String) : DiscoveryNamespace :=
  ⟨network, app, s!"{discoveryNamespacePrefix}/{network}/{app}/{fingerprint tag}", fingerprint tag, .hashed⟩

theorem built {tag : String} (checked : validateTag tag "tag" = .ok ()) :
    buildDiscoveryNamespace blake3 7 "Hydra-msg" tag .hashed false = .ok (derived tag) := by
  rw [buildDiscoveryNamespace_ok_iff]
  exact ⟨by decide, checked, by decide, "hydra-msg", fingerprint tag, normalized, rfl, rfl⟩

theorem invite_built : buildDiscoveryNamespace blake3 7 "Hydra-msg" "invite" .hashed false = .ok (derived "invite") :=
  built (by decide)

theorem family_built : buildDiscoveryNamespace blake3 7 "Hydra-msg" "family" .hashed false = .ok (derived "family") :=
  built (by decide)

/-- The two materials have different digests. -/
theorem separate : Set.InjOn blake3
    {namespaceMaterial 7 "hydra-msg" "invite", namespaceMaterial 7 "hydra-msg" "family"} := by
  rw [Set.injOn_pair]
  intro same
  revert same
  decide

theorem collisionless : config.Collisionless blake3 7 := by
  intro app found
  obtain rfl := Except.ok.inj (normalized.symm.trans found)
  refine separate.mono ?_
  rintro material ⟨tag, listed, rfl⟩
  have cases : tag = "invite" ∨ tag = "family" ∨ tag = "invite" := by simpa [config] using listed
  rcases cases with rfl | rfl | rfl
  · exact .inl rfl
  · exact .inr rfl
  · exact .inl rfl

/-- The two tags have different namespaces, and the tag that is given twice has one. -/
theorem invite_and_family : (derived "invite").name ≠ (derived "family").name ∧
    ∃ all, config.derivedNamespaces blake3 7 = .ok (firstsBy (·.name) all) ∧
      ["invite", "family"].mapM (config.namespaceOf blake3 7) = .ok (firstsBy (·.name) all) := by
  constructor
  · intro same
    have tags := ((hashed_namespaces_separate blake3).1 7 7 "Hydra-msg" "Hydra-msg" "invite" "family" false false _ _
      invite_built family_built separate).mp same
    exact absurd tags.2.2 (by decide)
  · obtain ⟨all, _, returned, kept⟩ := (hashed_namespaces_separate blake3).2 config 7 (by decide) (by
      intro tag listed
      have cases : tag = "invite" ∨ tag = "family" ∨ tag = "invite" := by simpa [config] using listed
      rcases cases with rfl | rfl | rfl
      · exact ⟨_, invite_built⟩
      · exact ⟨_, family_built⟩
      · exact ⟨_, invite_built⟩)
    exact ⟨all, returned, kept rfl collisionless⟩

end InviteTags

/-! ### Readable tags -/

namespace ReadableTags

/-- BLAKE3 at the materials of the two tags. -/
def blake3 : Blake3 := fun material =>
  if material = namespaceMaterial 7 "hydra-msg" "Joe" then
    ⟨[6, 91, 35, 43, 17, 222, 118, 212, 125, 243, 106, 95, 91, 33, 193, 125, 52, 235, 131, 159, 198, 158, 192, 215,
      58, 93, 57, 209, 143, 253, 245, 160], rfl⟩
  else
    ⟨[134, 20, 165, 5, 33, 50, 41, 225, 72, 151, 73, 47, 200, 66, 107, 132, 253, 137, 144, 112, 23, 91, 213, 170,
      158, 165, 184, 24, 76, 249, 239, 63], rfl⟩

def config : DiscoveryNamespaceConfig := ⟨"hydra-msg", ["Joe", "joe"], .readableUnsafe, true⟩

/-- The namespace of a spelling of the tag. -/
def derived (tag : String) : DiscoveryNamespace :=
  ⟨7, "hydra-msg", "p2p-net/7/hydra-msg/joe", discoveryTagHashHex blake3 7 "hydra-msg" tag, .readableUnsafe⟩

theorem built {tag : String} (checked : validateTag tag "tag" = .ok ())
    (normalized : normalizeNamespaceSegment tag = .ok "joe") :
    config.namespaceOf blake3 7 tag = .ok (derived tag) := by
  have app : normalizeNamespaceSegment "hydra-msg" = .ok "hydra-msg" := by decide
  refine buildDiscoveryNamespace_ok_iff.mpr ⟨by decide, checked, by decide, "hydra-msg", "joe", app, normalized, ?_⟩
  unfold derived
  congr 1

theorem joe_built : config.namespaceOf blake3 7 "Joe" = .ok (derived "Joe") ∧
    config.namespaceOf blake3 7 "joe" = .ok (derived "joe") :=
  ⟨built (by decide) (by decide), built (by decide) (by decide)⟩

/-- **Different tags, one namespace**: neither tag is a repetition, and the namespace of the second is left out. -/
theorem different_tags_merged : config.validate = .ok () ∧ config.tags.Nodup ∧
    config.tags.mapM (config.namespaceOf blake3 7) = .ok [derived "Joe", derived "joe"] ∧
    config.derivedNamespaces blake3 7 = .ok [derived "Joe"] := by
  have mapped : config.tags.mapM (config.namespaceOf blake3 7) = .ok [derived "Joe", derived "joe"] :=
    mapM_ok_iff.mpr (.cons joe_built.1 (.cons joe_built.2 .nil))
  refine ⟨by decide, by decide, mapped, ?_⟩
  exact DiscoveryNamespaceConfig.derivedNamespaces_ok_iff.mpr ⟨by decide, _, mapped, rfl⟩

end ReadableTags

end P2pNet.Connectivity
