/-
**Byte strings: hexadecimal text, big-endian words, chunks.**
-/

import Mathlib

namespace P2pNet.Lib

abbrev ByteArrayOf (size : ℕ) := List.Vector UInt8 size

/-! ### Hexadecimal text -/

namespace Hex

def digit (value : ℕ) : Char :=
  if value < 10 then Char.ofNat (48 + value) else Char.ofNat (87 + value)

def value (char : Char) : Option ℕ :=
  let code := char.toNat
  if 48 ≤ code ∧ code ≤ 57 then some (code - 48)
  else if 97 ≤ code ∧ code ≤ 102 then some (code - 87)
  else if 65 ≤ code ∧ code ≤ 70 then some (code - 55)
  else none

def encodeByte (byte : UInt8) : List Char := [digit (byte.toNat / 16), digit (byte.toNat % 16)]

def encode (bytes : List UInt8) : String := String.ofList (bytes.flatMap encodeByte)

/-- Read digits of either case, two at a time. -/
def decodeChars : List Char → Option (List UInt8)
  | [] => some []
  | [_] => none
  | high :: low :: rest => do
    let first ← value high
    let second ← value low
    let bytes ← decodeChars rest
    return UInt8.ofNat (16 * first + second) :: bytes

def decode (text : String) : Option (List UInt8) := decodeChars text.toList

def lower (text : String) : String := String.ofList (text.toList.map Char.toLower)

theorem value_digit {number : ℕ} (small : number < 16) : value (digit number) = some number := by
  interval_cases number <;> decide

theorem value_lt {char : Char} {number : ℕ} (found : value char = some number) : number < 16 := by
  unfold value at found
  simp only at found
  split_ifs at found <;> cases found <;> omega

theorem digit_of_code : ∀ code < 128,
    (value (Char.ofNat code)).all (fun number => digit number == (Char.ofNat code).toLower) = true := by
  decide

/-- A digit that was read is written back in lower case. -/
theorem digit_of_value {char : Char} {number : ℕ} (found : value char = some number) :
    digit number = char.toLower := by
  have ascii : char.toNat < 128 := by
    unfold value at found
    simp only at found
    split_ifs at found <;> omega
  have written := digit_of_code char.toNat ascii
  rw [Char.ofNat_toNat, found] at written
  simpa using written

theorem byte_halves (byte : UInt8) : UInt8.ofNat (16 * (byte.toNat / 16) + byte.toNat % 16) = byte := by
  rw [Nat.div_add_mod, UInt8.ofNat_toNat]

theorem decodeChars_encode (bytes : List UInt8) :
    decodeChars (bytes.flatMap encodeByte) = some bytes := by
  induction bytes with
  | nil => rfl
  | cons byte rest ih =>
    have high : byte.toNat / 16 < 16 := by
      have := byte.toNat_lt
      omega
    have low : byte.toNat % 16 < 16 := Nat.mod_lt _ (by norm_num)
    simp only [List.flatMap_cons, encodeByte, List.cons_append, List.nil_append, decodeChars,
      value_digit high, value_digit low, ih]
    exact congrArg (fun first => some (first :: rest)) (byte_halves byte)

/-- **What was written reads back.** -/
theorem decode_encode (bytes : List UInt8) : decode (encode bytes) = some bytes := by
  unfold decode encode
  rw [String.toList_ofList]
  exact decodeChars_encode bytes

theorem encode_injective : Function.Injective encode := by
  intro first second same
  have read := decode_encode first
  rw [same, decode_encode] at read
  exact (Option.some.inj read).symm

theorem decodeChars_lower {chars : List Char} {bytes : List UInt8}
    (read : decodeChars chars = some bytes) : bytes.flatMap encodeByte = chars.map Char.toLower := by
  induction chars using decodeChars.induct generalizing bytes with
  | case1 =>
    cases read
    rfl
  | case2 => cases read
  | case3 high low rest ih =>
    simp only [decodeChars, Option.bind_eq_bind, Option.bind_eq_some_iff, Option.pure_def,
      Option.some.injEq] at read
    obtain ⟨first, firstRead, second, secondRead, tail, tailRead, rfl⟩ := read
    have firstSmall := value_lt firstRead
    have secondSmall := value_lt secondRead
    have byteValue : (UInt8.ofNat (16 * first + second)).toNat = 16 * first + second :=
      UInt8.toNat_ofNat_of_lt' (by show _ < 2 ^ 8; omega)
    simp only [List.flatMap_cons, encodeByte, List.map_cons, List.cons_append, List.nil_append,
      byteValue]
    rw [show (16 * first + second) / 16 = first by omega,
      show (16 * first + second) % 16 = second by omega, digit_of_value firstRead,
      digit_of_value secondRead]
    exact congrArg _ (congrArg _ (ih tailRead))

/-- **What was read is written back in lower case.** -/
theorem encode_of_decode {text : String} {bytes : List UInt8} (read : decode text = some bytes) :
    encode bytes = lower text :=
  congrArg String.ofList (decodeChars_lower read)

def isDigit (char : Char) : Bool := (value char).isSome

theorem isDigit_of_mem_encode {bytes : List UInt8} {char : Char}
    (member : char ∈ (encode bytes).toList) : isDigit char = true := by
  rw [encode, String.toList_ofList, List.mem_flatMap] at member
  obtain ⟨byte, _, inside⟩ := member
  have high : byte.toNat / 16 < 16 := by
    have := byte.toNat_lt
    omega
  have low : byte.toNat % 16 < 16 := Nat.mod_lt _ (by norm_num)
  simp only [encodeByte, List.mem_cons, List.not_mem_nil, or_false] at inside
  rcases inside with rfl | rfl
  · rw [isDigit, value_digit high]
    rfl
  · rw [isDigit, value_digit low]
    rfl

theorem length_flatMap_encodeByte (bytes : List UInt8) :
    (bytes.flatMap encodeByte).length = 2 * bytes.length := by
  induction bytes with
  | nil => rfl
  | cons byte rest ih =>
    rw [List.flatMap_cons, List.length_append, ih, List.length_cons]
    show 2 + _ = _
    omega

theorem utf8Size_of_isDigit {char : Char} (digit : isDigit char = true) : char.utf8Size = 1 := by
  rw [Char.utf8Size_eq_one_iff]
  obtain ⟨number, found⟩ := Option.isSome_iff_exists.mp digit
  have small : char.toNat ≤ 127 := by
    unfold value at found
    simp only at found
    split_ifs at found <;> omega
  exact UInt32.le_iff_toNat_le.mpr small

end Hex

/-- A text of one-byte characters has as many bytes as characters. -/
theorem utf8ByteSize_ofList {chars : List Char} (ascii : ∀ char ∈ chars, char.utf8Size = 1) :
    (String.ofList chars).utf8ByteSize = chars.length := by
  rw [← String.size_toByteArray, String.toByteArray_ofList]
  induction chars with
  | nil => rfl
  | cons char rest ih =>
    rw [List.utf8Encode_cons, ByteArray.size_append, List.utf8Encode_singleton,
      List.size_toByteArray, String.length_utf8EncodeChar]
    rw [ascii char List.mem_cons_self, ih fun other member => ascii other (List.mem_cons_of_mem _ member),
      List.length_cons, Nat.add_comm]

theorem Hex.utf8ByteSize_encode (bytes : List UInt8) :
    (Hex.encode bytes).utf8ByteSize = 2 * bytes.length := by
  rw [← Hex.length_flatMap_encodeByte]
  refine utf8ByteSize_ofList fun char member => Hex.utf8Size_of_isDigit ?_
  have inside : char ∈ (Hex.encode bytes).toList := by
    rw [Hex.encode, String.toList_ofList]
    exact member
  exact Hex.isDigit_of_mem_encode inside

/-! ### Big-endian words -/

namespace BigEndian

/-- The low `width` bytes of a number, most significant first. -/
def write : ℕ → ℕ → List UInt8
  | 0, _ => []
  | width + 1, number => UInt8.ofNat (number / 256 ^ width) :: write width number

/-- The number a byte string denotes, most significant byte first. -/
def read (bytes : List UInt8) : ℕ := bytes.foldl (fun number byte => 256 * number + byte.toNat) 0

@[simp] theorem length_write (width number : ℕ) : (write width number).length = width := by
  induction width with
  | zero => rfl
  | succ width ih => rw [write, List.length_cons, ih]

theorem foldl_read (bytes : List UInt8) (start : ℕ) :
    bytes.foldl (fun number byte => 256 * number + byte.toNat) start
      = start * 256 ^ bytes.length + read bytes := by
  induction bytes generalizing start with
  | nil => simp [read]
  | cons byte rest ih =>
    show rest.foldl _ (256 * start + byte.toNat) = _ + rest.foldl _ (256 * 0 + byte.toNat)
    rw [ih, ih (256 * 0 + byte.toNat), List.length_cons, pow_succ]
    ring

theorem read_cons (byte : UInt8) (rest : List UInt8) :
    read (byte :: rest) = byte.toNat * 256 ^ rest.length + read rest := by
  show rest.foldl _ (256 * 0 + byte.toNat) = _
  rw [foldl_read, Nat.mul_zero, Nat.zero_add]

theorem read_lt (bytes : List UInt8) : read bytes < 256 ^ bytes.length := by
  induction bytes with
  | nil => exact Nat.one_pos
  | cons byte rest ih =>
    have small := byte.toNat_lt
    rw [read_cons, List.length_cons, pow_succ]
    nlinarith

/-- **What was written reads back**, cut to the width. -/
theorem read_write (width number : ℕ) : read (write width number) = number % 256 ^ width := by
  induction width with
  | zero => rw [pow_zero, Nat.mod_one]; rfl
  | succ width ih =>
    have split : number % 256 ^ (width + 1)
        = number % 256 ^ width + 256 ^ width * (number / 256 ^ width % 256) := by
      rw [pow_succ, Nat.mod_mul]
    have byte : (UInt8.ofNat (number / 256 ^ width)).toNat = number / 256 ^ width % 256 :=
      UInt8.toNat_ofNat'
    rw [write, read_cons, ih, length_write, byte, split]
    ring

theorem write_add (width high low : ℕ) : write width (high * 256 ^ width + low) = write width low := by
  induction width generalizing high with
  | zero => rfl
  | succ width ih =>
    have regroup : high * 256 ^ (width + 1) + low = (256 * high) * 256 ^ width + low := by
      rw [pow_succ]
      ring
    have top : ((256 * high) * 256 ^ width + low) / 256 ^ width = 256 * high + low / 256 ^ width := by
      rw [Nat.mul_comm, Nat.mul_add_div (by positivity)]
    rw [write, write, regroup, ih, top]
    congr 1
    apply UInt8.toNat.inj
    rw [UInt8.toNat_ofNat', UInt8.toNat_ofNat']
    omega

/-- **What was read is written back.** -/
theorem write_read (bytes : List UInt8) : write bytes.length (read bytes) = bytes := by
  induction bytes with
  | nil => rfl
  | cons byte rest ih =>
    have below := read_lt rest
    rw [read_cons, List.length_cons, write, write_add, ih]
    have top : (byte.toNat * 256 ^ rest.length + read rest) / 256 ^ rest.length = byte.toNat := by
      rw [Nat.mul_comm, Nat.mul_add_div (by positivity), Nat.div_eq_of_lt below, Nat.add_zero]
    rw [top, UInt8.ofNat_toNat]

end BigEndian

/-! ### Chunks -/

section Chunks

variable {α : Type}

def divCeil (a b : ℕ) : ℕ := (a + b - 1) / b

def chunk (size : ℕ) (data : List α) (index : ℕ) : List α := (data.drop (size * index)).take size

/-- The consecutive pieces of `size` elements, the last one as long as what is left. -/
def chunks (size : ℕ) (data : List α) : List (List α) :=
  (List.range (divCeil data.length size)).map (chunk size data)

theorem divCeil_bounds {a b : ℕ} (positive : 0 < b) : a ≤ b * divCeil a b ∧ b * divCeil a b < a + b := by
  unfold divCeil
  have split := Nat.div_add_mod (a + b - 1) b
  have below := Nat.mod_lt (a + b - 1) positive
  omega

/-- **The prescribed length of a chunk**: full, except for the last one. -/
theorem length_chunk {size : ℕ} (positive : 0 < size) {data : List α} {index : ℕ}
    (within : index < divCeil data.length size) :
    (chunk size data index).length
      = if index + 1 = divCeil data.length size then data.length - size * (divCeil data.length size - 1)
        else size := by
  obtain ⟨covers, tight⟩ := divCeil_bounds (a := data.length) positive
  rw [chunk, List.length_take, List.length_drop]
  split_ifs with last
  · rw [← last] at covers ⊢
    rw [Nat.mul_add, Nat.mul_one] at covers
    rw [Nat.add_sub_cancel]
    omega
  · have later : size * (index + 2) ≤ size * divCeil data.length size :=
      Nat.mul_le_mul_left _ (by omega)
    rw [Nat.mul_add] at later
    omega

theorem flatten_chunks_range (size : ℕ) (data : List α) (count : ℕ) :
    ((List.range count).map (chunk size data)).flatten = data.take (size * count) := by
  induction count with
  | zero => simp
  | succ count ih =>
    rw [List.range_succ, List.map_append, List.flatten_append, ih, Nat.mul_add, Nat.mul_one,
      List.take_add]
    simp [chunk]

/-- **The chunks concatenate to the whole.** -/
theorem chunks_flatten {size : ℕ} (positive : 0 < size) (data : List α) :
    (chunks size data).flatten = data := by
  rw [chunks, flatten_chunks_range]
  exact List.take_of_length_le (divCeil_bounds positive).1

theorem zipIdx_chunks (size : ℕ) (data : List α) :
    (chunks size data).zipIdx
      = (List.range (divCeil data.length size)).map fun index => (chunk size data index, index) := by
  refine List.ext_getElem? fun position => ?_
  rw [List.getElem?_zipIdx, chunks, List.getElem?_map, List.getElem?_map, Option.map_map]
  by_cases within : position < divCeil data.length size
  · rw [List.getElem?_range within]
    simp
  · rw [List.getElem?_eq_none (by rw [List.length_range]; exact not_lt.mp within)]
    rfl

end Chunks

end P2pNet.Lib
