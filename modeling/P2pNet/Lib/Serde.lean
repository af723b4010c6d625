/-
**Reading structures from JSON trees** the way derived deserialisers do.

A tree keeps what a reader can tell apart: integers that are written with digits alone, all other numbers,
texts, the members of an object in order and with repetitions, and values that can be skipped but not
read. A structure is read from an object by the names of its fields, or from an array by their positions
(`readStruct`).
-/

import Mathlib

namespace P2pNet.Lib

inductive Json
  | null
  | bool (value : Bool)
  | natural (value : ℕ)
  /-- A number with a sign, a fraction or an exponent. -/
  | number
  | string (text : String)
  | array (items : List Json)
  | object (members : List (String × Json))
  /-- A value that can be skipped and not read, such as a text with a broken escape. -/
  | unreadable

namespace Serde

variable {α : Type}

abbrev Reader (α : Type) := Json → Option α

/-! ### Scalars -/

/-- An unsigned integer of some range. -/
def readNat (bound : ℕ) : Reader ℕ
  | .natural value => if value < bound then some value else none
  | _ => none

def readU8 : Reader UInt8 := fun json => (readNat (2 ^ 8) json).map UInt8.ofNat
def readU16 : Reader UInt16 := fun json => (readNat (2 ^ 16) json).map UInt16.ofNat
def readU32 : Reader UInt32 := fun json => (readNat (2 ^ 32) json).map UInt32.ofNat
def readU64 : Reader UInt64 := fun json => (readNat (2 ^ 64) json).map UInt64.ofNat
def readUsize : Reader ℕ := readNat (2 ^ 64)

def readString : Reader String
  | .string text => some text
  | _ => none

def readOption (read : Reader α) : Reader (Option α)
  | .null => some none
  | json => (read json).map some

/-! ### Structures -/

/-- A field, and what stands for it when it is absent from an object or from the end of an array. -/
structure Field (α : Type) where
  name : String
  read : Reader α
  absent : Option α
  short : Option α

def required (name : String) (read : Reader α) : Field α := ⟨name, read, none, none⟩

/-- An `Option` may be left out of an object. -/
def optional (name : String) (read : Reader α) : Field (Option α) := ⟨name, readOption read, some none, none⟩

def defaulted (name : String) (read : Reader α) (value : α) : Field α := ⟨name, read, some value, some value⟩

/-- The two forms of a structure. -/
inductive Source
  | members (listed : List (String × Json))
  | items (listed : List Json)

def Source.field (source : Source) (position : ℕ) (field : Field α) : Option α :=
  match source with
  | .members listed =>
    match listed.filter fun member => member.1 == field.name with
    | [] => field.absent
    | [member] => field.read member.2
    | _ => none
  | .items listed =>
    match listed[position]? with
    | some item => field.read item
    | none => field.short

/-- Read a structure with the given field names; a strict one rejects unknown members. -/
def readStruct (names : List String) (strict : Bool) (build : Source → Option α) : Reader α
  | .object members =>
    if strict && !members.all fun member => names.contains member.1 then none else build (.members members)
  | .array items => if items.length ≤ names.length then build (.items items) else none
  | _ => none

variable {names : List String} {strict : Bool} {build : Source → Option α} {value : α}

/-- A structure is an object or an array. -/
theorem readStruct_source {json : Json} (reads : readStruct names strict build json = some value) :
    (∃ members, json = .object members ∧ build (.members members) = some value) ∨
      ∃ items, json = .array items ∧ build (.items items) = some value := by
  unfold readStruct at reads
  split at reads
  · split_ifs at reads
    exact .inl ⟨_, rfl, reads⟩
  · split_ifs at reads
    exact .inr ⟨_, rfl, reads⟩
  · cases reads

theorem strict_keys {members : List (String × Json)}
    (reads : readStruct names true build (.object members) = some value) :
    ∀ member ∈ members, member.1 ∈ names := by
  simp only [readStruct] at reads
  split_ifs at reads with unknown
  rw [Bool.true_and, Bool.not_eq_true, Bool.not_eq_false', List.all_eq_true] at unknown
  intro member inside
  exact List.contains_iff_mem.mp (unknown member inside)

theorem array_length_le {items : List Json}
    (reads : readStruct names strict build (.array items) = some value) : items.length ≤ names.length := by
  simp only [readStruct] at reads
  split_ifs at reads with short
  exact short

theorem required_member {members : List (String × Json)} {position : ℕ} {name : String} {read : Reader α}
    (reads : (Source.members members).field position (required name read) = some value) :
    ∃ member ∈ members, member.1 = name := by
  simp only [Source.field, required] at reads
  split at reads
  · cases reads
  · rename_i member found
    have inside : member ∈ members.filter fun member => member.1 == name := by
      rw [found]
      exact List.mem_singleton_self member
    obtain ⟨there, same⟩ := List.mem_filter.mp inside
    exact ⟨member, there, beq_iff_eq.mp same⟩
  · cases reads

theorem required_item {items : List Json} {position : ℕ} {name : String} {read : Reader α}
    (reads : (Source.items items).field position (required name read) = some value) :
    position < items.length := by
  simp only [Source.field, required] at reads
  split at reads
  · rename_i item found
    exact (List.getElem?_eq_some_iff.mp found).1
  · cases reads

end Serde

end P2pNet.Lib
