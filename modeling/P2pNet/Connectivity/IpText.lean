/-
**Texts and notations of IP addresses** (`std::net`).

An IPv6 address is written with the longest run of zero segments left out, and an address that stands for an IPv4
address (`::ffff:a.b.c.d`) with that address in it. `IpAddr.denoted` is the address that an address stands for:
`denoted_mapped` and `denoted_eq_self` say which one. `IpAddr.parse` reads a text as the parser of `core::net` does.
-/

import P2pNet.Connectivity.Components

namespace P2pNet.Connectivity

/-! ### IPv4 addresses in IPv6 notation -/

def joinBytes (high low : UInt8) : UInt16 := UInt16.ofNat (high.toNat * 256 + low.toNat)

def highByte (segment : UInt16) : UInt8 := UInt8.ofNat (segment.toNat / 256)

def lowByte (segment : UInt16) : UInt8 := UInt8.ofNat (segment.toNat % 256)

/-- `Ipv4Addr::to_ipv6_mapped`. -/
def toIpv6Mapped (a b c d : UInt8) : Fin 8 → UInt16 := ![0, 0, 0, 0, 0, 0xffff, joinBytes a b, joinBytes c d]

/-- `Ipv6Addr::to_ipv4_mapped`. -/
def toIpv4Mapped (segments : Fin 8 → UInt16) : Option (UInt8 × UInt8 × UInt8 × UInt8) :=
  if (segments 0, segments 1, segments 2, segments 3, segments 4, segments 5) = (0, 0, 0, 0, 0, 0xffff) then
    some (highByte (segments 6), lowByte (segments 6), highByte (segments 7), lowByte (segments 7))
  else none

theorem joinBytes_toNat (high low : UInt8) : (joinBytes high low).toNat = high.toNat * 256 + low.toNat := by
  have below := high.toNat_lt
  have below' := low.toNat_lt
  rw [joinBytes, UInt16.toNat_ofNat']
  omega

@[simp] theorem highByte_joinBytes (high low : UInt8) : highByte (joinBytes high low) = high := by
  have below := low.toNat_lt
  apply UInt8.toNat_inj.mp
  rw [highByte, joinBytes_toNat, UInt8.toNat_ofNat']
  have above := high.toNat_lt
  omega

@[simp] theorem lowByte_joinBytes (high low : UInt8) : lowByte (joinBytes high low) = low := by
  have below := low.toNat_lt
  apply UInt8.toNat_inj.mp
  rw [lowByte, joinBytes_toNat, UInt8.toNat_ofNat']
  omega

theorem joinBytes_bytes (segment : UInt16) : joinBytes (highByte segment) (lowByte segment) = segment := by
  have below := segment.toNat_lt
  apply UInt16.toNat_inj.mp
  rw [joinBytes_toNat, highByte, lowByte, UInt8.toNat_ofNat', UInt8.toNat_ofNat']
  omega

theorem toIpv4Mapped_toIpv6Mapped (a b c d : UInt8) : toIpv4Mapped (toIpv6Mapped a b c d) = some (a, b, c, d) := by
  refine (if_pos rfl).trans ?_
  simp [toIpv6Mapped]

/-- **Which addresses are mapped ones.** -/
theorem toIpv4Mapped_eq_some_iff {segments : Fin 8 → UInt16} {a b c d : UInt8} :
    toIpv4Mapped segments = some (a, b, c, d) ↔ segments = toIpv6Mapped a b c d := by
  constructor
  · intro mapped
    unfold toIpv4Mapped at mapped
    obtain ⟨marked, bytes⟩ := Option.ite_none_right_eq_some.mp mapped
    simp only [Prod.mk.injEq] at marked
    simp only [Option.some.injEq, Prod.mk.injEq] at bytes
    obtain ⟨rfl, rfl, rfl, rfl⟩ := bytes
    funext index
    fin_cases index
    · exact marked.1
    · exact marked.2.1
    · exact marked.2.2.1
    · exact marked.2.2.2.1
    · exact marked.2.2.2.2.1
    · exact marked.2.2.2.2.2
    · exact (joinBytes_bytes _).symm
    · exact (joinBytes_bytes _).symm
  · rintro rfl
    exact toIpv4Mapped_toIpv6Mapped a b c d

namespace IpAddr

/-- The address that is meant: the IPv4 address of a mapped address, and otherwise the address itself
(`IpAddr::to_canonical`). -/
def denoted : IpAddr → IpAddr
  | v4 a b c d => v4 a b c d
  | v6 segments => match toIpv4Mapped segments with
    | some (a, b, c, d) => v4 a b c d
    | none => v6 segments

/-- The IPv4-mapped form. -/
def mapped (a b c d : UInt8) : IpAddr := v6 (toIpv6Mapped a b c d)

theorem denoted_mapped (a b c d : UInt8) : (mapped a b c d).denoted = v4 a b c d := by
  simp only [mapped, denoted, toIpv4Mapped_toIpv6Mapped]

/-- Every other address means itself. -/
theorem denoted_eq_self {ip : IpAddr} (unmapped : ∀ a b c d, ip ≠ mapped a b c d) : ip.denoted = ip := by
  cases ip with
  | v4 a b c d => rfl
  | v6 segments =>
    cases known : toIpv4Mapped segments with
    | none => simp only [denoted, known]
    | some bytes =>
      obtain ⟨a, b, c, d⟩ := bytes
      exact absurd (congrArg v6 (toIpv4Mapped_eq_some_iff.mp known)) (unmapped a b c d)

end IpAddr

/-! ### Texts -/

def ipv4Text (a b c d : UInt8) : String := s!"{a}.{b}.{c}.{d}"

/-- A run of zero segments. -/
structure Span where
  start : ℕ
  len : ℕ

/-- The longest run of zero segments, the first one of several. -/
def longestZeros : List UInt16 → ℕ → Span → Span → Span
  | [], _, longest, _ => longest
  | segment :: rest, index, longest, current =>
    if segment = 0 then
      let current : Span := ⟨if current.len = 0 then index else current.start, current.len + 1⟩
      longestZeros rest (index + 1) (if current.len > longest.len then current else longest) current
    else longestZeros rest (index + 1) longest ⟨0, 0⟩

def fmtSubslice (chunk : List UInt16) : String :=
  String.intercalate ":" (chunk.map fun segment => String.ofList (Nat.toDigits 16 segment.toNat))

def ipv6Text (segments : Fin 8 → UInt16) : String :=
  match toIpv4Mapped segments with
  | some (a, b, c, d) => "::ffff:" ++ ipv4Text a b c d
  | none =>
    let segments := List.ofFn segments
    let zeroes := longestZeros segments 0 ⟨0, 0⟩ ⟨0, 0⟩
    if zeroes.len > 1 then
      fmtSubslice (segments.take zeroes.start) ++ "::" ++ fmtSubslice (segments.drop (zeroes.start + zeroes.len))
    else fmtSubslice segments

def IpAddr.toText : IpAddr → String
  | v4 a b c d => ipv4Text a b c d
  | v6 segments => ipv6Text segments

/-! ### Reading -/

def digitValue (radix : ℕ) (char : Char) : Option ℕ :=
  let value := if char.isDigit then char.toNat - 48
    else if 'a' ≤ char ∧ char ≤ 'z' then char.toNat - 87
    else if 'A' ≤ char ∧ char ≤ 'Z' then char.toNat - 55
    else radix
  if value < radix then some value else none

/-- `read_number` of the parser of `core::net`. -/
def readNumber (radix maxDigits maximum : ℕ) (allowZeroPrefix : Bool) (text : List Char) : Option (ℕ × List Char) :=
  let digits := text.takeWhile fun char => (digitValue radix char).isSome
  let number := digits.foldl (fun number char => number * radix + (digitValue radix char).getD 0) 0
  if digits = [] ∨ digits.length > maxDigits ∨ number > maximum ∨
      (allowZeroPrefix = false ∧ digits.head? = some '0' ∧ digits.length > 1) then none
  else some (number, text.drop digits.length)

/-- `read_separator`: there is none before the first part. -/
def readSeparator (separator : Char) (first : Bool) (text : List Char) : Option (List Char) :=
  if first then some text else match text with
    | [] => none
    | char :: rest => if char = separator then some rest else none

def readOctet (first : Bool) (text : List Char) : Option (UInt8 × List Char) := do
  let text ← readSeparator '.' first text
  let (octet, rest) ← readNumber 10 3 255 false text
  return (UInt8.ofNat octet, rest)

def readIpv4Addr (text : List Char) : Option ((UInt8 × UInt8 × UInt8 × UInt8) × List Char) := do
  let (a, text) ← readOctet true text
  let (b, text) ← readOctet false text
  let (c, text) ← readOctet false text
  let (d, text) ← readOctet false text
  return ((a, b, c, d), text)

/-- `read_groups` for the places that are left: the groups, and whether the last two were written as an IPv4 address,
which takes two places. -/
def readGroups : ℕ → Bool → List Char → List UInt16 × Bool × List Char
  | 0, _, text => ([], false, text)
  | left + 1, first, text =>
    match (if left ≥ 1 then (readSeparator ':' first text).bind readIpv4Addr else none) with
    | some ((a, b, c, d), rest) => ([joinBytes a b, joinBytes c d], true, rest)
    | none => match (readSeparator ':' first text).bind (readNumber 16 4 65535 true) with
      | none => ([], false, text)
      | some (group, rest) =>
        let (groups, ipv4, rest) := readGroups left false rest
        (UInt16.ofNat group :: groups, ipv4, rest)

def readIpv6Addr (text : List Char) : Option ((Fin 8 → UInt16) × List Char) := do
  let (head, headIpv4, rest) := readGroups 8 true text
  if head.length = 8 then some (fun place => head.getD place 0, rest)
  else if headIpv4 then none
  else do
    let rest ← readSeparator ':' false rest
    let rest ← readSeparator ':' false rest
    let (tail, _, rest) := readGroups (8 - (head.length + 1)) true rest
    let segments := head ++ List.replicate (8 - (head.length + tail.length)) 0 ++ tail
    some (fun place => segments.getD place 0, rest)

/-- `str::parse`: all of the text must be read. -/
def IpAddr.parse (text : String) : Option IpAddr :=
  match readIpv4Addr text.toList with
  | some ((a, b, c, d), rest) => if rest = [] then some (.v4 a b c d) else none
  | none => match readIpv6Addr text.toList with
    | some (segments, rest) => if rest = [] then some (.v6 segments) else none
    | none => none

example : ["2001:DB8::1:0:0:1", "::ffff:127.0.0.1", "127.0.0.01"].map (fun text => (IpAddr.parse text).map IpAddr.toText)
    = [some "2001:db8::1:0:0:1", some "::ffff:127.0.0.1", none] := by decide

example : ipv6Text ![0x2001, 0xdb8, 0, 0, 1, 0, 0, 1] = "2001:db8::1:0:0:1" := by decide

example : (IpAddr.mapped 127 0 0 1).toText = "::ffff:127.0.0.1" := by decide

end P2pNet.Connectivity
