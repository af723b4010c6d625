/-
**The language of ICE URLs** (`IceUrl::parse` of `crates/connectivity/ice.rs`).

The documentation gives the form `scheme:host[:port][?transport=udp|tcp]`. `IceText` holds the parts of such a text;
every text that the parser takes has exactly one reading (`IceText.Fits.unique`), and the parser finds it
(`IceUrl.parse_ok_iff`).

The parser takes two liberties: the number parser of the standard library reads a plus sign before the digits of the
port, and a question mark with nothing behind it counts as no query. `iceUrl_language_iff` says that nothing else is
accepted beyond the documented form.
-/

import P2pNet.Connectivity.Ice

namespace P2pNet.Connectivity

open Lib

/-! ### The documented form -/

/-- `:port`, or nothing. -/
def portText (port : Option String) : String := (port.map (":" ++ ·)).getD ""

/-- The digits of a port, without a sign before them. -/
def portDigits (raw : String) : List Char :=
  match raw.toList with
  | '+' :: digits => digits
  | digits => digits

def portNumber (raw : String) : ℕ := (portDigits raw).foldl (fun number char => 10 * number + (char.toNat - 48)) 0

/-- A port from 1 to 65535; a plus sign may stand before its digits. -/
def IsPort (raw : String) : Prop :=
  portDigits raw ≠ [] ∧ (∀ char ∈ portDigits raw, char.isDigit = true) ∧ 1 ≤ portNumber raw ∧ portNumber raw ≤ 65535

/-- The parts of a URL: the port and the query are the texts behind `:` and `?`. -/
structure IceText where
  scheme : String
  bracketed : Bool
  host : String
  port : Option String
  query : Option String

namespace IceText

variable (text : IceText)

def authority : String :=
  (if text.bracketed then "[" ++ text.host ++ "]" else text.host) ++ portText text.port

def rest : String := text.authority ++ (text.query.map ("?" ++ ·)).getD ""

def write : String := text.scheme ++ ":" ++ text.rest

/-- A URL of the documented form, up to two liberties: a plus sign before the port, an empty query. -/
structure Fits : Prop where
  scheme : Text.toAsciiLowercase text.scheme ∈ ["stun", "stuns", "turn", "turns"]
  nonempty : text.host ≠ ""
  host : ∀ char ∈ text.host.toList, Text.isAsciiAlphanumeric char = true ∨ char = '.' ∨ char = '-' ∨
    text.bracketed = true ∧ char = ':'
  port : ∀ raw, text.port = some raw → IsPort raw
  query : ∀ raw, text.query = some raw → raw = "" ∨ (raw = "transport=udp" ∨ raw = "transport=tcp") ∧
    Text.toAsciiLowercase text.scheme ∈ ["turn", "turns"]

/-- One of the two liberties is taken. -/
def Liberal : Prop := (∃ raw, text.port = some raw ∧ raw.toList.head? = some '+') ∨ text.query = some ""

/-- The documented form: digits only, and a query that is not empty. -/
def InLanguage : Prop := text.Fits ∧ ¬ text.Liberal

end IceText

/-! The parser, part by part. -/

theorem IceScheme.parse_some_iff {raw : String} : (∃ scheme, IceScheme.parse raw = some scheme) ↔
    Text.toAsciiLowercase raw ∈ ["stun", "stuns", "turn", "turns"] := by
  unfold IceScheme.parse
  simp only [List.mem_cons, List.not_mem_nil, or_false]
  split_ifs <;> simp_all

theorem IceScheme.isTurn_iff {raw : String} {scheme : IceScheme} (read : IceScheme.parse raw = some scheme) :
    scheme.isTurn = true ↔ Text.toAsciiLowercase raw ∈ ["turn", "turns"] := by
  unfold IceScheme.parse at read
  dsimp only at read
  simp only [List.mem_cons, List.not_mem_nil, or_false]
  split_ifs at read <;> cases read <;> simp_all [IceScheme.isTurn]

theorem colon_notMem_scheme {raw : String} (known : Text.toAsciiLowercase raw ∈ ["stun", "stuns", "turn", "turns"]) :
    ':' ∉ raw.toList := by
  intro member
  have lowered : ':' ∈ (Text.toAsciiLowercase raw).toList := by
    unfold Text.toAsciiLowercase
    rw [String.toList_ofList]
    exact List.mem_map.mpr ⟨':', member, by decide⟩
  simp only [List.mem_cons, List.not_mem_nil, or_false] at known
  rcases known with same | same | same | same <;> rw [same] at lowered <;> revert lowered <;> decide

theorem parsePort_ok_iff {raw : String} {port : ℕ} :
    parsePort raw = .ok port ↔ IsPort raw ∧ port = portNumber raw := by
  have read : Text.parseUnsigned 65535 raw = if portDigits raw ≠ [] ∧ (portDigits raw).all Char.isDigit ∧
      portNumber raw ≤ 65535 then some (portNumber raw) else none := rfl
  unfold parsePort IsPort
  rw [read, ← List.all_eq_true]
  by_cases fits : portDigits raw ≠ [] ∧ (portDigits raw).all Char.isDigit ∧ portNumber raw ≤ 65535
  · rw [if_pos fits]
    dsimp only
    split_ifs with zero
    · simp [zero]
    · obtain ⟨some, digits, small⟩ := fits
      constructor
      · intro same
        exact ⟨⟨some, digits, Nat.one_le_iff_ne_zero.mpr zero, small⟩, (Except.ok.inj same).symm⟩
      · rintro ⟨_, rfl⟩
        rfl
  · rw [if_neg fits]
    simp only [reduceCtorEq, false_iff]
    rintro ⟨⟨some, digits, _, small⟩, _⟩
    exact fits ⟨some, digits, small⟩

/-- What follows a bracketed host is a port text. -/
theorem portText_eq_iff {tail : String} {port : Option String} : tail = portText port ↔
    (if tail = "" then some none else (Text.stripPrefix tail ":").map some) = some port := by
  cases port with
  | none =>
    by_cases empty : tail = ""
    · simp [portText, empty]
    · simp [portText, empty]
  | some raw =>
    rw [portText, Option.map_some, Option.getD_some, ← Text.stripPrefix_eq_some_iff]
    by_cases empty : tail = ""
    · subst empty
      simp [Text.stripPrefix]
    · simp [empty]

theorem splitAuthority_ok_iff {authority host : String} {port : Option String} :
    splitAuthority authority = .ok (host, port) ↔
      (authority = "[" ++ host ++ "]" ++ portText port ∧ ']' ∉ host.toList) ∨
      (authority = host ++ portText port ∧ ':' ∉ host.toList ∧ authority.toList.head? ≠ some '[') := by
  unfold splitAuthority
  cases opened : Text.stripPrefix authority "[" with
  | some bracketed =>
    obtain rfl := Text.stripPrefix_eq_some_iff.mp opened
    have closes : ("[" ++ bracketed = "[" ++ host ++ "]" ++ portText port ∧ ']' ∉ host.toList) ↔
        Text.splitOnce bracketed ']' = some (host, portText port) := by
      rw [Text.splitOnce_eq_some_iff]
      simp [← String.toList_inj, String.toList_append]
    rw [closes]
    simp only [String.toList_append]
    cases split : Text.splitOnce bracketed ']' with
    | none => simp
    | some parts =>
      obtain ⟨found, tail⟩ := parts
      have ends : tail = portText port ↔ _ := portText_eq_iff
      simp only [Option.some_inj, Prod.mk.injEq, ends]
      by_cases empty : tail = ""
      · simp [empty]
      · cases port' : Text.stripPrefix tail ":" <;> simp [empty]
  | none =>
    have unopened : authority.toList.head? ≠ some '[' := by
      intro head
      obtain ⟨rest, whole⟩ := List.head?_eq_some_iff.mp head
      have stripped : authority = "[" ++ String.ofList rest := by
        simp [← String.toList_inj, whole]
      rw [Text.stripPrefix_eq_some_iff.mpr stripped] at opened
      cases opened
    have different : ¬ authority = "[" ++ host ++ "]" ++ portText port := by
      rintro rfl
      simp at unopened
    simp only [different, false_and, false_or, unopened, ne_eq, not_false_eq_true, and_true]
    cases port with
    | none =>
      cases split : Text.splitOnce authority ':' with
      | none =>
        have absent := Text.splitOnce_eq_none_iff.mp split
        simp only [portText, Option.map_none, Option.getD_none, String.append_empty, Except.ok.injEq, Prod.mk.injEq,
          and_true]
        constructor
        · rintro rfl
          exact ⟨rfl, absent⟩
        · exact And.left
      | some parts =>
        obtain ⟨whole, _⟩ := Text.splitOnce_eq_some_iff.mp split
        simp only [portText, Option.map_none, Option.getD_none, String.append_empty, Except.ok.injEq, Prod.mk.injEq,
          reduceCtorEq, and_false, false_iff, not_and, not_not]
        rintro rfl
        simp [whole]
    | some raw =>
      have cut : authority = host ++ portText (some raw) ∧ ':' ∉ host.toList ↔
          Text.splitOnce authority ':' = some (host, raw) := by
        rw [Text.splitOnce_eq_some_iff]
        simp [← String.toList_inj, portText]
      rw [cut]
      cases split : Text.splitOnce authority ':' <;> simp [Prod.ext_iff]

theorem splitHostPort_ok_iff {authority host : String} {port : Option ℕ} :
    splitHostPort authority = .ok (host, port) ↔ ∃ raw, splitAuthority authority = .ok (host, raw) ∧
      (∀ text, raw = some text → IsPort text) ∧ port = raw.map portNumber := by
  unfold splitHostPort
  rw [bind_ok_iff]
  constructor
  · rintro ⟨⟨found, raw⟩, split, read⟩
    cases raw with
    | none =>
      cases read
      refine ⟨none, split, ?_, rfl⟩
      rintro _ ⟨⟩
    | some raw =>
      obtain ⟨number, parsed, returned⟩ := bind_ok_iff.mp read
      cases returned
      obtain ⟨valid, rfl⟩ := parsePort_ok_iff.mp parsed
      refine ⟨some raw, split, ?_, rfl⟩
      rintro _ ⟨⟩
      exact valid
  · rintro ⟨raw, split, valid, rfl⟩
    refine ⟨(host, raw), split, ?_⟩
    cases raw with
    | none => rfl
    | some raw => exact bind_ok_iff.mpr ⟨portNumber raw, parsePort_ok_iff.mpr ⟨valid raw rfl, rfl⟩, rfl⟩

theorem isHostChar_iff {char : Char} : isHostChar char = true ↔
    Text.isAsciiAlphanumeric char = true ∨ char = '.' ∨ char = '-' ∨ char = ':' := by
  unfold isHostChar
  simp [or_assoc]

namespace IceText

variable {text : IceText}

theorem Fits.host_ne (fits : text.Fits) {char : Char} (member : char ∈ text.host.toList) :
    char ≠ '?' ∧ char ≠ ']' ∧ char ≠ '[' ∧ (text.bracketed = false → char ≠ ':') := by
  have known := fits.host char member
  refine ⟨?_, ?_, ?_, fun plain => ?_⟩ <;> rintro rfl <;> revert known <;> simp [Text.isAsciiAlphanumeric]
  exact plain

theorem Fits.question_notMem (fits : text.Fits) : '?' ∉ text.authority.toList := by
  have outside : '?' ∉ text.host.toList := fun member => (fits.host_ne member).1 rfl
  have port : '?' ∉ (portText text.port).toList := by
    cases given : text.port with
    | none => simp [portText]
    | some raw =>
      obtain ⟨_, digits, _⟩ := fits.port raw given
      intro member
      have inside : '?' ∈ portDigits raw := by
        unfold portDigits
        simp only [portText, Option.map_some, Option.getD_some, String.toList_append] at member
        split <;> simp_all
      exact absurd (digits '?' inside) (by decide)
  unfold authority
  cases text.bracketed <;> simp [outside, port]

/-- **The parser cuts where the text was joined.** -/
theorem Fits.splits (fits : text.Fits) : Text.splitOnce text.write ':' = some (text.scheme, text.rest) ∧
    (Text.splitOnce text.rest '?').getD (text.rest, "") = (text.authority, text.query.getD "") ∧
    splitAuthority text.authority = .ok (text.host, text.port) := by
  refine ⟨?_, ?_, ?_⟩
  · rw [Text.splitOnce_eq_some_iff]
    refine ⟨?_, colon_notMem_scheme fits.scheme⟩
    simp [write]
  · unfold rest
    cases text.query with
    | none => simp [Text.splitOnce_eq_none_iff.mpr fits.question_notMem]
    | some raw =>
      have cut : Text.splitOnce (text.authority ++ ("?" ++ raw)) '?' = some (text.authority, raw) := by
        rw [Text.splitOnce_eq_some_iff]
        exact ⟨by simp, fits.question_notMem⟩
      simp [cut]
  · rw [splitAuthority_ok_iff]
    unfold authority
    cases plain : text.bracketed with
    | true => exact .inl ⟨rfl, fun member => (fits.host_ne member).2.1 rfl⟩
    | false =>
      refine .inr ⟨rfl, fun member => (fits.host_ne member).2.2.2 plain rfl, ?_⟩
      intro head
      have some : text.host.toList ≠ [] := fun none => fits.nonempty (String.toList_eq_nil_iff.mp none)
      rw [if_neg Bool.false_ne_true, String.toList_append, List.head?_append_of_ne_nil _ some] at head
      exact (fits.host_ne (List.mem_of_mem_head? head)).2.2.1 rfl

/-- **A text is written in one way.** -/
theorem Fits.unique {other : IceText} (fits : text.Fits) (fits' : other.Fits) (same : text.write = other.write) :
    text = other := by
  obtain ⟨scheme, query, authority⟩ := fits.splits
  obtain ⟨scheme', query', authority'⟩ := fits'.splits
  rw [same, scheme', Option.some_inj, Prod.mk.injEq] at scheme
  obtain ⟨schemes, rests⟩ := scheme
  rw [← rests, query', Prod.mk.injEq] at query
  obtain ⟨authorities, queries⟩ := query
  rw [← authorities, authority', Except.ok.injEq, Prod.mk.injEq] at authority
  obtain ⟨hosts, ports⟩ := authority
  have brackets : text.bracketed = other.bracketed := by
    have opening : "[".length = 1 := rfl
    have lengths := congrArg String.length authorities
    unfold IceText.authority at lengths
    rw [hosts, ports] at lengths
    cases first : text.bracketed <;> cases second : other.bracketed <;> simp [first, second] at lengths ⊢ <;> omega
  have asked : text.query = other.query := by
    have texts : (other.query.map ("?" ++ ·)).getD "" = (text.query.map ("?" ++ ·)).getD "" := by
      unfold IceText.rest at rests
      rw [authorities] at rests
      exact String.append_right_inj _ |>.mp rests
    cases given : text.query <;> cases given' : other.query <;> simp_all
  obtain ⟨_, _, _, _, _⟩ := text
  obtain ⟨_, _, _, _, _⟩ := other
  simp_all

end IceText

/-- **What the parser accepts**, and what it returns. -/
theorem IceUrl.parse_ok_iff {url : String} (short : url.utf8ByteSize ≤ 512) {parsed : IceUrl} :
    IceUrl.parse url = .ok parsed ↔ ∃ text : IceText, url = text.write ∧ text.Fits ∧
      IceScheme.parse text.scheme = some parsed.scheme ∧ parsed.host = Text.toAsciiLowercase text.host ∧
      parsed.port = text.port.map portNumber := by
  unfold IceUrl.parse
  simp only [bind_ok_iff, Unique.exists_iff, PUnit.default_eq_unit, rejectIf_ok_iff, okOr_ok_iff, Prod.exists]
  constructor
  · rintro ⟨_, raw, rest, split, scheme, known, form, turns, host, port, read, valid, returned⟩
    cases returned
    obtain ⟨rawPort, authority, ports, rfl⟩ := splitHostPort_ok_iff.mp read
    obtain ⟨whole, _⟩ := Text.splitOnce_eq_some_iff.mp split
    rw [not_or, Bool.not_eq_false, List.all_eq_true] at valid
    obtain ⟨query, asked, joined⟩ : ∃ query : Option String,
        ((Text.splitOnce rest '?').getD (rest, "")).2 = query.getD "" ∧
        rest = ((Text.splitOnce rest '?').getD (rest, "")).1 ++ (query.map ("?" ++ ·)).getD "" := by
      cases cut : Text.splitOnce rest '?' with
      | none => exact ⟨none, rfl, by simp⟩
      | some parts =>
        refine ⟨some parts.2, rfl, ?_⟩
        simpa [← String.toList_inj] using (Text.splitOnce_eq_some_iff.mp cut).1
    rw [asked] at form turns
    have found (bracketed : Bool) (text : IceText) (same : text = ⟨raw, bracketed, host, rawPort, query⟩)
        (written : ((Text.splitOnce rest '?').getD (rest, "")).1 = text.authority)
        (plain : bracketed = false → ':' ∉ host.toList) : url = text.write ∧ text.Fits := by
      rw [written] at joined
      subst same
      refine ⟨?_, IceScheme.parse_some_iff.mp ⟨scheme, known⟩, valid.1, fun char member => ?_, ports, ?_⟩
      · rw [← String.toList_inj, whole, joined]
        simp [IceText.write, IceText.rest]
      · have allowed := valid.2 char member
        rcases isHostChar_iff.mp allowed with letter | dot | hyphen | rfl
        · exact .inl letter
        · exact .inr (.inl dot)
        · exact .inr (.inr (.inl hyphen))
        · refine .inr (.inr (.inr ⟨?_, rfl⟩))
          by_contra unbracketed
          exact plain (Bool.not_eq_true _ ▸ unbracketed) member
      · rintro raw rfl
        rw [Option.getD_some] at form turns
        rw [← IceScheme.isTurn_iff known]
        by_cases empty : raw = ""
        · exact .inl empty
        · simp only [ne_eq, empty, not_false_eq_true, true_and, Bool.not_eq_false, not_and, not_not] at form turns
          exact .inr ⟨or_iff_not_imp_left.mpr form, turns⟩
    rcases splitAuthority_ok_iff.mp authority with ⟨written, _⟩ | ⟨written, plain, _⟩
    · obtain ⟨same, fits⟩ := found true _ rfl written (fun impossible => nomatch impossible)
      exact ⟨_, same, fits, known, rfl, rfl⟩
    · obtain ⟨same, fits⟩ := found false _ rfl written fun _ => plain
      exact ⟨_, same, fits, known, rfl, rfl⟩
  · rintro ⟨text, rfl, fits, known, hosts, ports⟩
    obtain ⟨scheme, query, authority⟩ := fits.splits
    refine ⟨not_lt.mpr short, _, _, scheme, _, known, ?_⟩
    rw [query]
    have turns := IceScheme.isTurn_iff known
    refine ⟨?_, ?_, text.host, _, splitHostPort_ok_iff.mpr ⟨_, authority, fits.port, rfl⟩, ?_, ?_⟩
    · cases asked : text.query with
      | none => simp
      | some raw => rcases fits.query raw asked with rfl | ⟨rfl | rfl, _⟩ <;> simp
    · cases asked : text.query with
      | none => simp
      | some raw =>
        rcases fits.query raw asked with rfl | ⟨_, turn⟩
        · simp
        · simp [turns.mpr turn]
    · rw [not_or, Bool.not_eq_false, List.all_eq_true]
      refine ⟨fits.nonempty, fun char member => ?_⟩
      rw [isHostChar_iff]
      rcases fits.host char member with letter | dot | hyphen | ⟨_, colon⟩
      · exact .inl letter
      · exact .inr (.inl dot)
      · exact .inr (.inr (.inl hyphen))
      · exact .inr (.inr (.inr colon))
    · rw [← ports, ← hosts]
      rfl

/-- **The language of the URLs.** The parser accepts the documented form and reads it as documented, exactly if the text
does not take one of the two liberties. -/
theorem iceUrl_language_iff (url : String) (short : url.utf8ByteSize ≤ 512) :
    (((∃ parsed, IceUrl.parse url = .ok parsed) ↔ ∃ text : IceText, url = text.write ∧ text.InLanguage) ∧
      ∀ parsed, IceUrl.parse url = .ok parsed → ∃ text : IceText, url = text.write ∧ text.InLanguage ∧
        parsed.host = Text.toAsciiLowercase text.host ∧ parsed.port = text.port.map portNumber) ↔
      ¬ ∃ text : IceText, url = text.write ∧ text.Fits ∧ text.Liberal := by
  have accepted {text : IceText} (fits : text.Fits) (same : url = text.write) :
      ∃ parsed, IceUrl.parse url = .ok parsed := by
    obtain ⟨scheme, known⟩ := IceScheme.parse_some_iff.mpr fits.scheme
    exact ⟨⟨scheme, _, _⟩, (IceUrl.parse_ok_iff short).mpr ⟨text, same, fits, known, rfl, rfl⟩⟩
  constructor
  · rintro ⟨language, _⟩ ⟨text, same, fits, liberal⟩
    obtain ⟨other, same', fits', strict⟩ := language.mp (accepted fits same)
    rw [← fits.unique fits' (same.symm.trans same')] at strict
    exact strict liberal
  · intro strict
    have read (parsed : IceUrl) (ok : IceUrl.parse url = .ok parsed) : ∃ text : IceText, url = text.write ∧
        text.InLanguage ∧ parsed.host = Text.toAsciiLowercase text.host ∧ parsed.port = text.port.map portNumber := by
      obtain ⟨text, same, fits, _, host, port⟩ := (IceUrl.parse_ok_iff short).mp ok
      exact ⟨text, same, ⟨fits, fun liberal => strict ⟨text, same, fits, liberal⟩⟩, host, port⟩
    refine ⟨⟨?_, ?_⟩, read⟩
    · rintro ⟨parsed, ok⟩
      obtain ⟨text, same, inside, _⟩ := read parsed ok
      exact ⟨text, same, inside⟩
    · rintro ⟨text, same, fits, _⟩
      exact accepted fits same

namespace PlainUrl

def text : IceText := ⟨"Turn", false, "example.org", some "3478", some "transport=udp"⟩

theorem fits : text.Fits where
  scheme := by decide
  nonempty := by decide
  host := by simp [text]; decide
  port := by rintro raw ⟨⟩; exact ⟨by decide, List.all_eq_true.mp (by decide), by decide, by decide⟩
  query := by rintro raw ⟨⟩; exact .inr ⟨.inl rfl, by decide⟩

end PlainUrl

/-- A URL that takes no liberty. -/
theorem iceUrl_language_iff_plain : PlainUrl.text.write.utf8ByteSize ≤ 512 ∧
    ∀ parsed, IceUrl.parse PlainUrl.text.write = .ok parsed → ∃ text : IceText, PlainUrl.text.write = text.write ∧
      text.InLanguage ∧ parsed.host = Text.toAsciiLowercase text.host ∧ parsed.port = text.port.map portNumber := by
  refine ⟨by decide, ((iceUrl_language_iff PlainUrl.text.write (by decide)).mpr ?_).2⟩
  rintro ⟨other, same, fits, liberal⟩
  rw [← PlainUrl.fits.unique fits same] at liberal
  rcases liberal with ⟨raw, ⟨⟩, sign⟩ | empty
  · revert sign
    decide
  · exact absurd empty (by decide)

/-- A signed port and an empty query are accepted. -/
theorem iceUrl_liberties : IceUrl.parse "stun:a:+80" = .ok ⟨.stun, "a", some 80⟩ ∧
    IceUrl.parse "stun:a?" = .ok ⟨.stun, "a", none⟩ ∧
    (¬ ∃ text : IceText, "stun:a:+80" = text.write ∧ text.InLanguage) ∧
    ¬ ∃ text : IceText, "stun:a?" = text.write ∧ text.InLanguage := by
  have signed : (⟨"stun", false, "a", some "+80", none⟩ : IceText).Fits :=
    ⟨by decide, by decide, by simp; decide, by rintro raw ⟨⟩; exact ⟨by decide, List.all_eq_true.mp (by decide), by decide, by decide⟩,
      by rintro raw ⟨⟩⟩
  have asking : (⟨"stun", false, "a", none, some ""⟩ : IceText).Fits :=
    ⟨by decide, by decide, by simp; decide, by rintro raw ⟨⟩, by rintro raw ⟨⟩; exact .inl rfl⟩
  refine ⟨by decide, by decide, ?_, ?_⟩
  · rintro ⟨text, same, fits, strict⟩
    rw [← signed.unique fits same] at strict
    exact strict (.inl ⟨_, rfl, by decide⟩)
  · rintro ⟨text, same, fits, strict⟩
    rw [← asking.unique fits same] at strict
    exact strict (.inr rfl)

end P2pNet.Connectivity
