/-
**Discovery namespaces** (`crates/connectivity/namespace.rs`).

Every tag of an application gives a namespace: prefix, network, application and either a hash of the tag or, for
debugging, the tag itself, made fit for a path.
-/

import P2pNet.Lib.Text
import P2pNet.Lib.Bytes
import P2pNet.Lib.Firsts
import P2pNet.Common.Basic

namespace P2pNet.Connectivity

open Lib

def discoveryNamespacePrefix : String := "p2p-net"

def discoveryNamespaceHashContext : String := "p2p-net.discovery.namespace.v1"

def defaultDiscoveryTag : String := "__default_application_mesh__"

def maxDiscoveryAppIdLen : ℕ := 64

def maxDiscoveryTagLen : ℕ := 256

def maxDiscoveryTags : ℕ := 64

/-! ### Segments -/

/-- A character of a segment: lower case, and a hyphen for everything that does not belong in a path. -/
def segmentChar (char : Char) : Char :=
  if 'a' ≤ char ∧ char ≤ 'z' ∨ '0' ≤ char ∧ char ≤ '9' then char
  else if 'A' ≤ char ∧ char ≤ 'Z' then Char.ofNat (char.toNat + 32)
  else if char = '-' ∨ char = '_' ∨ char = '.' then char
  else '-'

/-- `replace("--", "-")`. -/
def replaceDouble : List Char → List Char
  | '-' :: '-' :: rest => '-' :: replaceDouble rest
  | char :: rest => char :: replaceDouble rest
  | [] => []

/-- `while out.contains("--")`, with as many rounds as there are characters. -/
def collapse : ℕ → List Char → List Char
  | 0, out => out
  | rounds + 1, out => if ['-', '-'] <:+: out then collapse rounds (replaceDouble out) else out

def normalizeNamespaceSegment (value : String) : Except NetError String := do
  let trimmed := Text.trim value
  rejectIf (trimmed = "") (configError "namespace segment must not be empty")
  let mapped := trimmed.toList.map segmentChar
  let collapsed := collapse mapped.length mapped
  let out := (collapsed.dropWhile (· = '-')).rdropWhile (· = '-')
  rejectIf (out = []) (configError "namespace segment must contain at least one alphanumeric character")
  return String.ofList out

example : normalizeNamespaceSegment " My  App/v1 - " = .ok "my-app-v1" := by
  decide

theorem replaceDouble_length_le (out : List Char) : (replaceDouble out).length ≤ out.length := by
  fun_induction replaceDouble out with
  | case1 rest ih => simp only [List.length_cons]; omega
  | case2 char rest _ ih => simp only [List.length_cons]; omega
  | case3 => exact le_rfl

theorem mem_of_mem_replaceDouble {out : List Char} {char : Char} (member : char ∈ replaceDouble out) :
    char ∈ out := by
  fun_induction replaceDouble out with
  | case1 rest ih =>
    rcases List.mem_cons.mp member with rfl | later
    · exact List.mem_cons_self
    · exact List.mem_cons_of_mem _ (List.mem_cons_of_mem _ (ih later))
  | case2 first rest _ ih =>
    rcases List.mem_cons.mp member with rfl | later
    · exact List.mem_cons_self
    · exact List.mem_cons_of_mem _ (ih later)
  | case3 => exact member

theorem mem_of_mem_collapse {rounds : ℕ} {out : List Char} {char : Char} (member : char ∈ collapse rounds out) :
    char ∈ out := by
  induction rounds generalizing out with
  | zero => exact member
  | succ rounds ih =>
    unfold collapse at member
    split_ifs at member
    · exact mem_of_mem_replaceDouble (ih member)
    · exact member

/-- The characters that a segment is made of. -/
def isSegmentChar (char : Char) : Bool :=
  'a' ≤ char ∧ char ≤ 'z' ∨ '0' ≤ char ∧ char ≤ '9' ∨ char = '-' ∨ char = '_' ∨ char = '.'

theorem isSegmentChar_segmentChar (char : Char) : isSegmentChar (segmentChar char) = true := by
  unfold segmentChar
  split_ifs with kept upper special
  · unfold isSegmentChar
    exact decide_eq_true (kept.elim Or.inl fun digit => .inr (.inl digit))
  · have bounds : 65 ≤ char.toNat ∧ char.toNat ≤ 90 := upper
    have code : (Char.ofNat (char.toNat + 32)).toNat = char.toNat + 32 := by
      rw [Char.toNat_ofNat, if_pos (Or.inl (by omega))]
    have low : 97 ≤ (Char.ofNat (char.toNat + 32)).toNat := by omega
    have high : (Char.ofNat (char.toNat + 32)).toNat ≤ 122 := by omega
    unfold isSegmentChar
    exact decide_eq_true (.inl ⟨low, high⟩)
  · unfold isSegmentChar
    exact decide_eq_true (.inr (.inr special))
  · rfl

theorem normalizeNamespaceSegment_chars {value segment : String}
    (normalized : normalizeNamespaceSegment value = .ok segment) :
    ∀ char ∈ segment.toList, isSegmentChar char = true := by
  unfold normalizeNamespaceSegment at normalized
  rw [bind_unit_ok_iff, bind_unit_ok_iff] at normalized
  obtain ⟨_, _, returned⟩ := normalized
  rw [← Except.ok.inj returned, String.toList_ofList]
  intro char member
  have undropped := (List.dropWhile_suffix _).subset ((List.rdropWhile_prefix _ _).subset member)
  obtain ⟨original, _, same⟩ := List.mem_map.mp (mem_of_mem_collapse undropped)
  exact same ▸ isSegmentChar_segmentChar original

/-! ### The shape of a segment -/

/-- The characters that survive in a segment: ASCII letters and digits, `_` and `.`. -/
def isSolid (char : Char) : Bool :=
  'a' ≤ char ∧ char ≤ 'z' ∨ 'A' ≤ char ∧ char ≤ 'Z' ∨ '0' ≤ char ∧ char ≤ '9' ∨ char = '_' ∨ char = '.'

theorem segmentChar_eq_hyphen_iff (char : Char) : segmentChar char = '-' ↔ isSolid char = false := by
  unfold segmentChar isSolid
  split_ifs with kept upper special
  · rw [decide_eq_false_iff_not]
    constructor
    · rintro rfl
      revert kept
      decide
    · tauto
  · have bounds : 65 ≤ char.toNat ∧ char.toNat ≤ 90 := upper
    have code : (Char.ofNat (char.toNat + 32)).toNat = char.toNat + 32 := by
      rw [Char.toNat_ofNat, if_pos (Or.inl (by omega))]
    rw [decide_eq_false_iff_not]
    constructor
    · intro same
      rw [same] at code
      have hyphen : '-'.toNat = 45 := rfl
      omega
    · tauto
  · rw [decide_eq_false_iff_not]
    rcases special with rfl | rfl | rfl <;> decide
  · rw [decide_eq_false_iff_not]
    tauto

theorem segmentChar_of_isSegmentChar {char : Char} (fits : isSegmentChar char = true) : segmentChar char = char := by
  have cases := of_decide_eq_true fits
  unfold segmentChar
  split_ifs with kept upper special
  · rfl
  · have bounds : 65 ≤ char.toNat ∧ char.toNat ≤ 90 := upper
    have codes : '-'.toNat = 45 ∧ '_'.toNat = 95 ∧ '.'.toNat = 46 := ⟨rfl, rfl, rfl⟩
    rcases cases with letter | digit | rfl | rfl | rfl
    · exact absurd (.inl letter) kept
    · exact absurd (.inr digit) kept
    all_goals omega
  · rfl
  · tauto

theorem visible_of_isSegmentChar {char : Char} (fits : isSegmentChar char = true) :
    33 ≤ char.toNat ∧ char.toNat ≤ 126 := by
  rcases of_decide_eq_true fits with ⟨low, high⟩ | ⟨low, high⟩ | rfl | rfl | rfl
  · exact ⟨le_trans (by decide) low, le_trans high (by decide)⟩
  · exact ⟨le_trans (by decide) low, le_trans high (by decide)⟩
  all_goals decide

theorem visible_of_isSolid {char : Char} (solid : isSolid char = true) : 33 ≤ char.toNat ∧ char.toNat ≤ 126 := by
  rcases of_decide_eq_true solid with ⟨low, high⟩ | ⟨low, high⟩ | ⟨low, high⟩ | rfl | rfl
  · exact ⟨le_trans (by decide) low, le_trans high (by decide)⟩
  · exact ⟨le_trans (by decide) low, le_trans high (by decide)⟩
  · exact ⟨le_trans (by decide) low, le_trans high (by decide)⟩
  all_goals decide

/-! One round of `replace` makes a text with `--` shorter, so the loop ends. -/

theorem replaceDouble_length_lt {out : List Char} (double : ['-', '-'] <:+: out) :
    (replaceDouble out).length < out.length := by
  fun_induction replaceDouble out with
  | case1 rest ih =>
    have shorter := replaceDouble_length_le rest
    simp only [List.length_cons]
    omega
  | case2 char rest other ih =>
    rcases List.infix_cons_iff.mp double with first | later
    · obtain ⟨tail, split⟩ := first
      cases split
      exact absurd rfl (other tail rfl)
    · simpa using ih later
  | case3 => simp at double

theorem mem_replaceDouble {out : List Char} {char : Char} (solid : char ≠ '-') (member : char ∈ out) :
    char ∈ replaceDouble out := by
  fun_induction replaceDouble out with
  | case1 rest ih => simp_all
  | case2 first rest _ ih =>
    rcases List.mem_cons.mp member with rfl | later
    · exact List.mem_cons_self
    · exact List.mem_cons_of_mem _ (ih later)
  | case3 => exact member

/-- **The loop ends** after at most as many rounds as there are characters, at the first text without `--`. -/
theorem collapse_eq_iterate {rounds : ℕ} {out : List Char} (enough : out.length ≤ rounds) :
    ∃ count ≤ rounds, collapse rounds out = replaceDouble^[count] out ∧
      ¬ ['-', '-'] <:+: replaceDouble^[count] out ∧
      ∀ earlier < count, ['-', '-'] <:+: replaceDouble^[earlier] out := by
  induction rounds generalizing out with
  | zero =>
    rw [List.length_eq_zero_iff.mp (Nat.le_zero.mp enough)]
    exact ⟨0, le_rfl, rfl, by simp, by simp⟩
  | succ rounds ih =>
    unfold collapse
    split_ifs with double
    · have shorter := replaceDouble_length_lt double
      obtain ⟨count, within, same, single, doubles⟩ := ih (show (replaceDouble out).length ≤ rounds by omega)
      refine ⟨count + 1, by omega, same, single, fun earlier before => ?_⟩
      cases earlier with
      | zero => exact double
      | succ earlier => exact doubles earlier (by omega)
    · exact ⟨0, Nat.zero_le _, rfl, double, by simp⟩

theorem mem_collapse {rounds : ℕ} {out : List Char} {char : Char} (solid : char ≠ '-') (member : char ∈ out) :
    char ∈ collapse rounds out := by
  induction rounds generalizing out with
  | zero => exact member
  | succ rounds ih =>
    unfold collapse
    split_ifs
    · exact ih (mem_replaceDouble solid member)
    · exact member

/-- `trim_matches('-')`. -/
def trimHyphens (out : List Char) : List Char := (out.dropWhile (· = '-')).rdropWhile (· = '-')

theorem infix_of_trimHyphens (out : List Char) : trimHyphens out <:+: out :=
  (List.rdropWhile_prefix _ _).isInfix.trans (List.dropWhile_suffix _).isInfix

theorem trimHyphens_eq_nil_iff {out : List Char} : trimHyphens out = [] ↔ ∀ char ∈ out, char = '-' := by
  unfold trimHyphens
  rw [List.rdropWhile_eq_nil_iff]
  constructor
  · intro hyphens
    rw [← List.takeWhile_append_dropWhile (p := (· = '-')) (l := out)]
    intro char member
    rcases List.mem_append.mp member with early | late
    · simpa using List.mem_takeWhile_imp early
    · simpa using hyphens char late
  · intro hyphens char member
    simpa using hyphens char ((List.dropWhile_suffix _).subset member)

theorem getLast?_trimHyphens (out : List Char) : (trimHyphens out).getLast? ≠ some '-' := by
  intro last
  have nonempty : trimHyphens out ≠ [] := by
    intro none
    simp [none] at last
  have different := List.rdropWhile_last_not (fun char => decide (char = '-')) (out.dropWhile (· = '-')) nonempty
  rw [List.getLast?_eq_getLast_of_ne_nil nonempty, Option.some_inj] at last
  exact different (decide_eq_true last)

theorem head?_trimHyphens (out : List Char) : (trimHyphens out).head? ≠ some '-' := by
  intro head
  obtain ⟨kept, split⟩ := List.rdropWhile_prefix (fun char => decide (char = '-')) (out.dropWhile (· = '-'))
  have front := List.head?_dropWhile_not (fun char => decide (char = '-')) out
  rw [← split, List.head?_append] at front
  unfold trimHyphens at head
  rw [head] at front
  simp at front

/-- The characters of a segment, before they are written. -/
def segmentChars (value : String) : List Char :=
  let mapped := (Text.trim value).toList.map segmentChar
  trimHyphens (collapse mapped.length mapped)

theorem segmentChars_eq_nil_iff (value : String) :
    segmentChars value = [] ↔ ∀ char ∈ value.toList, isSolid char = false := by
  unfold segmentChars
  rw [trimHyphens_eq_nil_iff]
  constructor
  · intro hyphens char member
    by_contra solid
    rw [Bool.not_eq_false] at solid
    have inside := (Text.mem_trim_iff (Text.isWhitespace_of_visible (visible_of_isSolid solid))).mpr member
    have kept : segmentChar char ≠ '-' := by
      rw [Ne, segmentChar_eq_hyphen_iff, solid]
      simp
    exact kept (hyphens _ (mem_collapse kept (List.mem_map_of_mem inside)))
  · intro none char member
    obtain ⟨original, inside, rfl⟩ := List.mem_map.mp (mem_of_mem_collapse member)
    rw [segmentChar_eq_hyphen_iff]
    unfold Text.trim at inside
    rw [String.toList_ofList] at inside
    exact none original ((List.dropWhile_suffix _).subset ((List.rdropWhile_prefix _ _).subset inside))

theorem normalizeNamespaceSegment_ok_iff {value segment : String} : normalizeNamespaceSegment value = .ok segment ↔
    segmentChars value ≠ [] ∧ segment = String.ofList (segmentChars value) := by
  unfold normalizeNamespaceSegment
  rw [bind_unit_ok_iff, bind_unit_ok_iff, rejectIf_ok_iff, rejectIf_ok_iff]
  constructor
  · rintro ⟨_, visible, returned⟩
    exact ⟨visible, (Except.ok.inj returned).symm⟩
  · rintro ⟨visible, rfl⟩
    refine ⟨fun blank => visible ?_, visible, rfl⟩
    simp [segmentChars, blank, collapse, trimHyphens_eq_nil_iff]

/-- A segment in its final form is kept as it is. -/
theorem segmentChars_of_shape {out : List Char} (chars : ∀ char ∈ out, isSegmentChar char = true)
    (single : ¬ ['-', '-'] <:+: out) (head : out.head? ≠ some '-') (last : out.getLast? ≠ some '-') :
    segmentChars (String.ofList out) = out := by
  have trimmed : Text.trim (String.ofList out) = String.ofList out := by
    refine Text.trim_of_forall fun char member => ?_
    rw [String.toList_ofList] at member
    exact Text.isWhitespace_of_visible (visible_of_isSegmentChar (chars char member))
  have mapped : out.map segmentChar = out := by
    rw [List.map_congr_left fun char member => segmentChar_of_isSegmentChar (chars char member), List.map_id']
  have collapsed (rounds : ℕ) : collapse rounds out = out := by
    cases rounds with
    | zero => rfl
    | succ rounds => exact if_neg single
  unfold segmentChars trimHyphens
  simp only [trimmed, String.toList_ofList, mapped, collapsed]
  rw [List.dropWhile_eq_self_iff.mpr, List.rdropWhile_eq_self_iff.mpr]
  · intro nonempty
    rw [List.getLast?_eq_getLast_of_ne_nil nonempty] at last
    simpa using last
  · intro nonempty
    rw [List.head?_eq_getElem?, List.getElem?_eq_getElem nonempty] at head
    simpa using head

/-- **The form of a segment.** -/
theorem normalizeNamespaceSegment_shape {value segment : String}
    (normalized : normalizeNamespaceSegment value = .ok segment) :
    segment ≠ "" ∧ (∀ char ∈ segment.toList, isSegmentChar char = true) ∧ ¬ ['-', '-'] <:+: segment.toList ∧
      segment.toList.head? ≠ some '-' ∧ segment.toList.getLast? ≠ some '-' := by
  have chars := normalizeNamespaceSegment_chars normalized
  obtain ⟨visible, written⟩ := normalizeNamespaceSegment_ok_iff.mp normalized
  have same : segment.toList = segmentChars value := by
    rw [written, String.toList_ofList]
  refine ⟨?_, chars, ?_⟩
  · rintro rfl
    exact visible same.symm
  · rw [same]
    refine ⟨fun double => ?_, head?_trimHyphens _, getLast?_trimHyphens _⟩
    obtain ⟨rounds, _, reached, single, _⟩ :=
      collapse_eq_iterate (le_refl ((Text.trim value).toList.map segmentChar).length)
    rw [← reached] at single
    exact single (double.trans (infix_of_trimHyphens _))

theorem normalizeNamespaceSegment_idempotent {value segment : String}
    (normalized : normalizeNamespaceSegment value = .ok segment) :
    normalizeNamespaceSegment segment = .ok segment := by
  obtain ⟨nonempty, chars, single, head, last⟩ := normalizeNamespaceSegment_shape normalized
  have kept := segmentChars_of_shape chars single head last
  rw [String.ofList_toList] at kept
  rw [normalizeNamespaceSegment_ok_iff, kept, String.ofList_toList]
  exact ⟨fun none => nonempty (String.toList_eq_nil_iff.mp none), rfl⟩

/-- **Normalisation of a segment.** The loop ends; a result has the form of a segment and is kept by another
normalisation; there is none exactly if nothing of the text would survive. -/
theorem normalizeNamespaceSegment_spec (value : String) :
    (let mapped := (Text.trim value).toList.map segmentChar
      ∃ rounds ≤ mapped.length, collapse mapped.length mapped = replaceDouble^[rounds] mapped ∧
        ¬ ['-', '-'] <:+: replaceDouble^[rounds] mapped ∧
        ∀ earlier < rounds, ['-', '-'] <:+: replaceDouble^[earlier] mapped) ∧
      (∀ segment, normalizeNamespaceSegment value = .ok segment →
        segment ≠ "" ∧ (∀ char ∈ segment.toList, isSegmentChar char = true) ∧ ¬ ['-', '-'] <:+: segment.toList ∧
        segment.toList.head? ≠ some '-' ∧ segment.toList.getLast? ≠ some '-' ∧
        normalizeNamespaceSegment segment = .ok segment) ∧
      ((∃ error, normalizeNamespaceSegment value = .error error) ↔ ∀ char ∈ value.toList, isSolid char = false) := by
  refine ⟨collapse_eq_iterate le_rfl, fun segment normalized => ?_, ?_⟩
  · obtain ⟨nonempty, chars, single, head, last⟩ := normalizeNamespaceSegment_shape normalized
    exact ⟨nonempty, chars, single, head, last, normalizeNamespaceSegment_idempotent normalized⟩
  · rw [← segmentChars_eq_nil_iff]
    cases normalized : normalizeNamespaceSegment value with
    | ok segment =>
      have visible := (normalizeNamespaceSegment_ok_iff.mp normalized).1
      simp [visible]
    | error error =>
      refine iff_of_true ⟨error, rfl⟩ ?_
      by_contra visible
      have succeeds := normalizeNamespaceSegment_ok_iff.mpr ⟨visible, rfl⟩
      rw [normalized] at succeeds
      cases succeeds

theorem decimal_chars (number : ℕ) : ∀ char ∈ (toString number).toList, isSegmentChar char = true := by
  intro char member
  have written : char ∈ Nat.toDigits 10 number := by rwa [← Nat.toList_repr]
  have digit : char.isDigit = true := Nat.isDigit_of_mem_toDigits (by decide) (by decide) written
  have bounds : 48 ≤ char.val ∧ char.val ≤ 57 := by simpa [Char.isDigit] using digit
  unfold isSegmentChar
  exact decide_eq_true (.inr (.inl bounds))

theorem hex_chars (bytes : List UInt8) : ∀ char ∈ (Hex.encode bytes).toList, isSegmentChar char = true := by
  intro char member
  obtain ⟨byte, _, written⟩ : ∃ byte ∈ bytes, char ∈ Hex.encodeByte byte := by
    rwa [Hex.encode, String.toList_ofList, List.mem_flatMap] at member
  have digits : ∀ number < 16, isSegmentChar (Hex.digit number) = true := by decide
  have small : byte.toNat < 256 := byte.toNat_lt
  rw [Hex.encodeByte, List.mem_cons, List.mem_singleton] at written
  rcases written with rfl | rfl
  · exact digits _ (by omega)
  · exact digits _ (by omega)

/-! ### Namespaces -/

inductive DiscoveryNamespacePrivacy
  | hashed
  | readableUnsafe
  deriving DecidableEq

structure DiscoveryNamespace where
  networkId : UInt32
  appId : String
  name : String
  tagFingerprintHex : String
  privacy : DiscoveryNamespacePrivacy

/-- A text of the configuration that must be there and must not be too long. -/
def checkText (limit : ℕ) (value field : String) : Except NetError Unit := do
  let trimmed := Text.trim value
  rejectIf (trimmed = "") (configError s!"{field} must not be empty")
  rejectIf (trimmed.utf8ByteSize > limit) (configError s!"{field} must be at most {limit} bytes")

def validateAppId (value field : String) : Except NetError Unit := checkText maxDiscoveryAppIdLen value field

def validateTag (value field : String) : Except NetError Unit := checkText maxDiscoveryTagLen value field

section Derivation

variable (blake3 : Blake3)

def discoveryTagHashHex (networkId : UInt32) (appId tag : String) : String :=
  Hex.encode (blake3 (Text.bytes discoveryNamespaceHashContext ++ BigEndian.write 4 networkId.toNat ++ [0]
    ++ Text.bytes appId ++ [0] ++ Text.bytes tag)).toList

/-- The last part of the namespace. -/
def tagSegment (privacy : DiscoveryNamespacePrivacy) (fingerprint tag : String) : Except NetError String :=
  match privacy with
  | .hashed => .ok fingerprint
  | .readableUnsafe => normalizeNamespaceSegment tag

def buildDiscoveryNamespace (networkId : UInt32) (appId tag : String) (privacy : DiscoveryNamespacePrivacy)
    (allowReadableTags : Bool) : Except NetError DiscoveryNamespace := do
  validateAppId appId "app_id"
  validateTag tag "tag"
  rejectIf (privacy = .readableUnsafe ∧ allowReadableTags = false)
    (configError "readable discovery namespaces require allow_readable_tags=true")
  let appId ← normalizeNamespaceSegment appId
  let fingerprint := discoveryTagHashHex blake3 networkId appId tag
  let segment ← tagSegment privacy fingerprint tag
  return ⟨networkId, appId, s!"{discoveryNamespacePrefix}/{networkId}/{appId}/{segment}", fingerprint, privacy⟩

def defaultDiscoveryNamespace (networkId : UInt32) (appId : String) : Except NetError DiscoveryNamespace :=
  buildDiscoveryNamespace blake3 networkId appId defaultDiscoveryTag .hashed false

end Derivation

structure DiscoveryNamespaceConfig where
  appId : String
  tags : List String
  privacy : DiscoveryNamespacePrivacy
  allowReadableTags : Bool

namespace DiscoveryNamespaceConfig

variable (cfg : DiscoveryNamespaceConfig)

def validate : Except NetError Unit := do
  validateAppId cfg.appId "discovery.namespace.app_id"
  rejectIf (cfg.tags.length > maxDiscoveryTags)
    (configError s!"discovery.namespace.tags supports at most {maxDiscoveryTags} entries")
  rejectIf (cfg.privacy = .readableUnsafe ∧ cfg.allowReadableTags = false)
    (configError "discovery.namespace.privacy=readable_unsafe requires allow_readable_tags=true")
  cfg.tags.zipIdx.forM fun entry => validateTag entry.1 s!"discovery.namespace.tags[{entry.2}]"

def isEnabled : Bool := !cfg.tags.isEmpty

/-- A namespace is kept unless it is there already. -/
def addNamespace (known : List DiscoveryNamespace) (derived : DiscoveryNamespace) : List DiscoveryNamespace :=
  if known.any (·.name = derived.name) then known else known ++ [derived]

def derivedNamespaces (blake3 : Blake3) (networkId : UInt32) : Except NetError (List DiscoveryNamespace) := do
  cfg.validate
  let derived ← cfg.tags.mapM fun tag =>
    buildDiscoveryNamespace blake3 networkId cfg.appId tag cfg.privacy cfg.allowReadableTags
  return derived.foldl addNamespace []

/-! ### What is derived -/

theorem foldl_addNamespace (derived : List DiscoveryNamespace) :
    derived.foldl addNamespace [] = firstsBy (·.name) derived := by
  have pass : addNamespace = pushUniqueBy (·.name) := rfl
  rw [pass, foldl_pushUniqueBy, List.nil_append]
  exact List.filter_eq_self.mpr fun later _ => by simp

/-- **The derived namespaces**: those of the tags, each where it is derived first. -/
theorem derivedNamespaces_ok_iff {cfg : DiscoveryNamespaceConfig} {blake3 : Blake3} {networkId : UInt32}
    {namespaces : List DiscoveryNamespace} : cfg.derivedNamespaces blake3 networkId = .ok namespaces ↔
      cfg.validate = .ok () ∧ ∃ all, (cfg.tags.mapM fun tag =>
        buildDiscoveryNamespace blake3 networkId cfg.appId tag cfg.privacy cfg.allowReadableTags) = .ok all ∧
      namespaces = firstsBy (·.name) all := by
  unfold derivedNamespaces
  rw [bind_unit_ok_iff, bind_ok_iff]
  simp only [foldl_addNamespace]
  constructor
  · rintro ⟨valid, all, mapped, returned⟩
    exact ⟨valid, all, mapped, (Except.ok.inj returned).symm⟩
  · rintro ⟨valid, all, mapped, rfl⟩
    exact ⟨valid, all, mapped, rfl⟩

/-- **No namespace twice.** -/
theorem derivedNamespaces_nodup {blake3 : Blake3} {networkId : UInt32} {namespaces : List DiscoveryNamespace}
    (derived : cfg.derivedNamespaces blake3 networkId = .ok namespaces) : (namespaces.map (·.name)).Nodup := by
  obtain ⟨_, all, _, rfl⟩ := derivedNamespaces_ok_iff.mp derived
  exact nodup_map_firstsBy _ all

theorem derivedNamespaces_ne_nil (tags : cfg.tags ≠ []) {blake3 : Blake3} {networkId : UInt32}
    {namespaces : List DiscoveryNamespace} (derived : cfg.derivedNamespaces blake3 networkId = .ok namespaces) :
    namespaces ≠ [] := by
  obtain ⟨_, all, mapped, rfl⟩ := derivedNamespaces_ok_iff.mp derived
  have counted : cfg.tags.length = all.length := (mapM_ok_iff.mp mapped).length_eq
  rw [Ne, firstsBy_eq_nil_iff]
  rintro rfl
  exact tags (List.length_eq_zero_iff.mp counted)

/-- Each namespace is that of a tag. -/
theorem mem_derivedNamespaces {blake3 : Blake3} {networkId : UInt32} {namespaces : List DiscoveryNamespace}
    (derived : cfg.derivedNamespaces blake3 networkId = .ok namespaces) {item : DiscoveryNamespace}
    (member : item ∈ namespaces) : ∃ tag ∈ cfg.tags,
      buildDiscoveryNamespace blake3 networkId cfg.appId tag cfg.privacy cfg.allowReadableTags = .ok item := by
  obtain ⟨_, all, mapped, rfl⟩ := derivedNamespaces_ok_iff.mp derived
  exact mapM_ok_mem mapped ((firstsBy_sublist _ all).subset member)

end DiscoveryNamespaceConfig

/-! ### What a namespace is made of -/

section Built

variable {blake3 : Blake3} {networkId : UInt32} {appId tag : String} {privacy : DiscoveryNamespacePrivacy}
  {allowReadableTags : Bool} {derived : DiscoveryNamespace}

/-- **A success**: the checks pass and both segments can be made. -/
theorem buildDiscoveryNamespace_ok_iff :
    buildDiscoveryNamespace blake3 networkId appId tag privacy allowReadableTags = .ok derived ↔
      validateAppId appId "app_id" = .ok () ∧ validateTag tag "tag" = .ok () ∧
      ¬ (privacy = .readableUnsafe ∧ allowReadableTags = false) ∧
      ∃ app segment, normalizeNamespaceSegment appId = .ok app ∧
        tagSegment privacy (discoveryTagHashHex blake3 networkId app tag) tag = .ok segment ∧
        derived = ⟨networkId, app, s!"{discoveryNamespacePrefix}/{networkId}/{app}/{segment}",
          discoveryTagHashHex blake3 networkId app tag, privacy⟩ := by
  unfold buildDiscoveryNamespace
  rw [bind_unit_ok_iff, bind_unit_ok_iff, bind_unit_ok_iff, rejectIf_ok_iff]
  simp only [bind_ok_iff]
  constructor
  · rintro ⟨checked, checked', allowed, app, normalized, segment, chosen, returned⟩
    exact ⟨checked, checked', allowed, app, segment, normalized, chosen, (Except.ok.inj returned).symm⟩
  · rintro ⟨checked, checked', allowed, app, segment, normalized, chosen, rfl⟩
    exact ⟨checked, checked', allowed, app, normalized, segment, chosen, rfl⟩

/-- Whether there is a namespace does not depend on the network. -/
theorem buildDiscoveryNamespace_succeeds_iff :
    (∃ derived, buildDiscoveryNamespace blake3 networkId appId tag privacy allowReadableTags = .ok derived) ↔
      validateAppId appId "app_id" = .ok () ∧ validateTag tag "tag" = .ok () ∧
      ¬ (privacy = .readableUnsafe ∧ allowReadableTags = false) ∧
      (∃ app, normalizeNamespaceSegment appId = .ok app) ∧
      (privacy = .readableUnsafe → ∃ segment, normalizeNamespaceSegment tag = .ok segment) := by
  simp only [buildDiscoveryNamespace_ok_iff]
  constructor
  · rintro ⟨derived, checked, checked', allowed, app, segment, normalized, chosen, _⟩
    refine ⟨checked, checked', allowed, ⟨app, normalized⟩, ?_⟩
    rintro rfl
    exact ⟨segment, chosen⟩
  · rintro ⟨checked, checked', allowed, ⟨app, normalized⟩, readable⟩
    cases privacy with
    | hashed => exact ⟨_, checked, checked', allowed, app, _, normalized, rfl, rfl⟩
    | readableUnsafe =>
      obtain ⟨segment, chosen⟩ := readable rfl
      exact ⟨_, checked, checked', allowed, app, segment, normalized, chosen, rfl⟩

theorem tagSegment_chars {fingerprint segment : String} {bytes : List UInt8} (hex : fingerprint = Hex.encode bytes)
    (chosen : tagSegment privacy fingerprint tag = .ok segment) :
    ∀ char ∈ segment.toList, isSegmentChar char = true := by
  cases privacy with
  | hashed =>
    rw [← Except.ok.inj chosen, hex]
    exact hex_chars bytes
  | readableUnsafe => exact normalizeNamespaceSegment_chars chosen

/-- **A derived namespace is a path of segments.** -/
theorem buildDiscoveryNamespace_chars
    (built : buildDiscoveryNamespace blake3 networkId appId tag privacy allowReadableTags = .ok derived) :
    ∀ char ∈ derived.name.toList, isSegmentChar char = true ∨ char = '/' := by
  obtain ⟨_, _, _, app, segment, normalized, chosen, rfl⟩ := buildDiscoveryNamespace_ok_iff.mp built
  have number : ∀ char ∈ (toString networkId).toList, isSegmentChar char = true := decimal_chars networkId.toNat
  have prefixed : ∀ char ∈ discoveryNamespacePrefix.toList, isSegmentChar char = true :=
    List.all_eq_true.mp (by decide)
  intro char member
  simp only [String.toList_append, List.mem_append] at member
  rcases member with ((((((fixed | slash) | written) | slash) | first) | slash) | last)
  · exact .inl (prefixed char fixed)
  · exact .inr (List.mem_singleton.mp slash)
  · exact .inl (number char written)
  · exact .inr (List.mem_singleton.mp slash)
  · exact .inl (normalizeNamespaceSegment_chars normalized char first)
  · exact .inr (List.mem_singleton.mp slash)
  · exact .inl (tagSegment_chars rfl chosen char last)

end Built

end P2pNet.Connectivity
