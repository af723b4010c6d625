/-
**The identity key on first run.**

`load_or_create_identity_key_with_storage` over the desktop storage. A first read is a metadata check and, where the
file is there, a read; a missing key is generated and written with an exclusive open and a write of its own; a call
that loses the race reads again. Any number of calls run at once, each of them one file-system step at a time
(`raceStep`), and one call alone does what the source function does (`alone`).

The file is absent, created and empty, or written in full (`Stage`). A call has returned after four of its steps
(`returned_of_count`), and the calls agree on one key exactly if none of them reads the file between the exclusive
open and the write (`identity_converges_iff`): the text of an empty file decodes as no key.
-/

import P2pNet.Lib.Bytes
import P2pNet.Lib.Framed
import P2pNet.Lib.Run

namespace P2pNet.Connectivity.Identity

open P2pNet.Lib

/-! ### Keys as text -/

/-- The codec of `libp2p::identity::Keypair`, with the text of its errors. -/
structure KeypairCodec (Keypair : Type) where
  toProtobufEncoding : Keypair → Except String (List UInt8)
  fromProtobufEncoding : List UInt8 → Except String Keypair

/-- What is known of it: an encoded key is read back, and no bytes are no key. -/
structure KeypairCodec.Lawful {Keypair : Type} (codec : KeypairCodec Keypair) : Prop where
  readBack : ∀ key, ∃ bytes, codec.toProtobufEncoding key = .ok bytes ∧ codec.fromProtobufEncoding bytes = .ok key
  empty : ∀ key, codec.fromProtobufEncoding [] ≠ .ok key

inductive IdentityReason
  | invalidUtf8
  | invalidHex
  | decodeFailed (err : String)
  | encodeFailed (err : String)
  | winnerUnavailable
  deriving DecidableEq

/-- The reason as it is told; of an invalid text only the part before the position is kept. -/
def IdentityReason.text : IdentityReason → String
  | invalidUtf8 => "identity key is not valid UTF-8"
  | invalidHex => "identity key is not valid hex"
  | decodeFailed err => s!"identity key protobuf decode failed: {err}"
  | encodeFailed err => s!"identity key protobuf encode failed: {err}"
  | winnerUnavailable => "identity creation raced but the winning key is unavailable"

inductive IdentityError
  | identity (path : String) (reason : IdentityReason)
  | storage (path : String)
  deriving DecidableEq

section Keys

variable {Keypair : Type} (codec : KeypairCodec Keypair) (path : String)

def decodeUtf8 (raw : List UInt8) : Except IdentityError String :=
  match Text.fromUtf8 raw with
  | some text => .ok text
  | none => .error (.identity path .invalidUtf8)

def decodeIdentityKey (encoded : String) : Except IdentityError Keypair :=
  match Hex.decode encoded with
  | none => .error (.identity path .invalidHex)
  | some bytes =>
    match codec.fromProtobufEncoding bytes with
    | .error err => .error (.identity path (.decodeFailed err))
    | .ok key => .ok key

/-- `decode_identity_key(key, decode_utf8(key, raw)?.trim())`. -/
def decodeStored (raw : List UInt8) : Except IdentityError Keypair :=
  match decodeUtf8 path raw with
  | .error err => .error err
  | .ok text => decodeIdentityKey codec path (Text.trim text)

/-- The bytes that `persist_identity_key_if_absent` hands to the storage. -/
def encodeStored (key : Keypair) : Except IdentityError (List UInt8) :=
  match codec.toProtobufEncoding key with
  | .error err => .error (.identity path (.encodeFailed err))
  | .ok bytes => .ok (Text.bytes (Hex.encode bytes))

theorem isWhitespace_of_isDigit {char : Char} (digit : Hex.isDigit char = true) :
    Text.isWhitespace char = false := by
  have code : ∀ code < 128, (Hex.value (Char.ofNat code)).isSome = true →
      Text.isWhitespace (Char.ofNat code) = false := by decide
  have small : char.toNat < 128 := by
    have size := Hex.utf8Size_of_isDigit digit
    rw [Char.utf8Size_eq_one_iff] at size
    exact Nat.lt_succ_of_le (UInt32.le_iff_toNat_le.mp size)
  have same := code char.toNat small
  rw [Char.ofNat_toNat] at same
  exact same digit

/-- The text of encoded bytes is read back as these bytes. -/
theorem decodeStored_encode (bytes : List UInt8) : decodeStored codec path (Text.bytes (Hex.encode bytes)) =
    match codec.fromProtobufEncoding bytes with
    | .error err => .error (.identity path (.decodeFailed err))
    | .ok key => .ok key := by
  have trimmed : Text.trim (Hex.encode bytes) = Hex.encode bytes :=
    Text.trim_of_forall fun _ member => isWhitespace_of_isDigit (Hex.isDigit_of_mem_encode member)
  unfold decodeStored decodeUtf8
  rw [Text.fromUtf8_bytes]
  dsimp only
  unfold decodeIdentityKey
  rw [trimmed, Hex.decode_encode]

variable {codec} (lawful : codec.Lawful)

include lawful

theorem decodeStored_encodeStored (key : Keypair) :
    ∃ value, encodeStored codec path key = .ok value ∧ decodeStored codec path value = .ok key := by
  obtain ⟨bytes, encoded, decoded⟩ := lawful.readBack key
  refine ⟨Text.bytes (Hex.encode bytes), ?_, ?_⟩
  · rw [encodeStored, encoded]
  · rw [decodeStored_encode, decoded]

/-- An empty file holds no key. -/
theorem decodeStored_nil (key : Keypair) : decodeStored codec path [] ≠ .ok key := by
  intro decoded
  rw [show ([] : List UInt8) = Text.bytes (Hex.encode []) by decide, decodeStored_encode] at decoded
  cases read : codec.fromProtobufEncoding [] with
  | error err =>
    rw [read] at decoded
    cases decoded
  | ok other => exact lawful.empty other read

end Keys

/-! ### The calls and their file-system steps -/

/-- A call, by the file-system step it takes next. -/
inductive Call (Keypair : Type)
  | look
  | createNew (value : List UInt8)
  | writeAll (value : List UInt8)
  | lookAgain
  | read
  | returned (result : Except IdentityError Keypair)
  deriving DecidableEq

section Steps

variable {Keypair : Type} (codec : KeypairCodec Keypair) (path : String)

/-- The next step of a call that generates the key `own`, with the file before and after it. No step fails as such. -/
def callStep (own : Keypair) (file : Option (List UInt8)) : Call Keypair → Call Keypair × Option (List UInt8)
  -- `symlink_metadata` of the first `read_secret`
  | .look =>
    match file with
    | some _ => (.read, file)
    | none =>
      match encodeStored codec path own with
      | .error err => (.returned (.error err), file)
      | .ok value => (.createNew value, file)
  -- the open of `write_secret_create_new`; `AlreadyExists` is `Ok(false)`
  | .createNew value =>
    match file with
    | some _ => (.lookAgain, file)
    | none => (.writeAll value, some [])
  | .writeAll value => (.returned (.ok own), some value)
  -- `symlink_metadata` of the second `read_secret`
  | .lookAgain =>
    match file with
    | some _ => (.read, file)
    | none => (.returned (.error (.identity path .winnerUnavailable)), file)
  | .read =>
    match file with
    | some raw => (.returned (decodeStored codec path raw), file)
    | none => (.returned (.error (.storage path)), file)
  | .returned result => (.returned result, file)

/-- `load_or_create_identity_key_with_storage` for a call that nobody interferes with. -/
def loadOrCreateIdentityKeyWithStorage (own : Keypair) (file : Option (List UInt8)) :
    Except IdentityError Keypair × Option (List UInt8) :=
  match file with
  | some raw => (decodeStored codec path raw, file)
  | none =>
    match encodeStored codec path own with
    | .error err => (.error err, file)
    | .ok value => (.ok own, some value)

/-- The file and all calls. -/
structure Race (ι Keypair : Type) where
  file : Option (List UInt8)
  calls : ι → Call Keypair

variable {ι : Type} [DecidableEq ι] (generated : ι → Keypair)

/-- Nothing is there and each call is about to start. -/
def Race.start : Race ι Keypair := ⟨none, fun _ => .look⟩

/-- One step of the call `i`. -/
def raceStep (s : Race ι Keypair) (i : ι) : Unit × Race ι Keypair :=
  let next := callStep codec path (generated i) s.file (s.calls i)
  ((), ⟨next.2, Function.update s.calls i next.1⟩)

@[simp] theorem calls_raceStep_self (s : Race ι Keypair) (i : ι) :
    (raceStep codec path generated s i).2.calls i = (callStep codec path (generated i) s.file (s.calls i)).1 :=
  Function.update_self ..

theorem calls_raceStep_of_ne (s : Race ι Keypair) {i j : ι} (other : j ≠ i) :
    (raceStep codec path generated s i).2.calls j = s.calls j :=
  Function.update_of_ne other ..

/-! ### Every call returns -/

/-- An upper bound of the steps that are left. -/
def Call.left : Call Keypair → ℕ
  | look => 4
  | createNew _ => 3
  | lookAgain => 2
  | writeAll _ => 1
  | read => 1
  | returned _ => 0

theorem left_callStep (own : Keypair) (file : Option (List UInt8)) (call : Call Keypair) :
    (callStep codec path own file call).1.left ≤ call.left - 1 := by
  cases call with
  | look =>
    cases file with
    | some raw => simp [callStep, Call.left]
    | none => cases stored : encodeStored codec path own <;> simp [callStep, stored, Call.left]
  | createNew value => cases file <;> simp [callStep, Call.left]
  | writeAll value => simp [callStep, Call.left]
  | lookAgain => cases file <;> simp [callStep, Call.left]
  | read => cases file <;> simp [callStep, Call.left]
  | returned result => simp [callStep, Call.left]

theorem left_final (schedule : List ι) (i : ι) :
    ((final (raceStep codec path generated) .start schedule).calls i).left ≤ 4 - schedule.count i := by
  induction schedule using List.reverseRecOn with
  | nil => exact le_rfl
  | append_singleton schedule j ih =>
    rw [final_concat, List.count_append, List.count_singleton]
    by_cases mine : i = j
    · subst mine
      rw [calls_raceStep_self]
      have less := left_callStep codec path (generated i)
        (final (raceStep codec path generated) .start schedule).file
        ((final (raceStep codec path generated) .start schedule).calls i)
      simp only [beq_self_eq_true, if_true]
      omega
    · rw [calls_raceStep_of_ne codec path generated _ mine]
      have others : (j == i) = false := beq_false_of_ne (Ne.symm mine)
      rw [others]
      simpa using ih

/-- **Every call returns** with its fourth step at the latest. -/
theorem returned_of_count {schedule : List ι} {i : ι} (enough : 4 ≤ schedule.count i) :
    ∃ result, (final (raceStep codec path generated) .start schedule).calls i = .returned result := by
  have bound := left_final codec path generated schedule i
  cases call : (final (raceStep codec path generated) .start schedule).calls i with
  | returned result => exact ⟨result, rfl⟩
  | _ =>
    rw [call] at bound
    simp only [Call.left] at bound
    omega

/-! ### The stages of the file -/

/-- The values on their way into the file are the texts of their calls' keys. -/
def Pending (s : Race ι Keypair) : Prop :=
  ∀ i value, s.calls i = .createNew value ∨ s.calls i = .writeAll value →
    decodeStored codec path value = .ok (generated i)

inductive Stage (s : Race ι Keypair) : Prop
  | absent (file : s.file = none) (early : ∀ i, s.calls i = .look ∨ ∃ value, s.calls i = .createNew value)
  | created (winner : ι) (value : List UInt8) (file : s.file = some []) (writing : s.calls winner = .writeAll value)
      (single : ∀ i other, s.calls i = .writeAll other → i = winner)
      (failed : ∀ i key, s.calls i ≠ .returned (.ok key))
  | written (winner : ι) (value : List UInt8) (file : s.file = some value)
      (decoded : decodeStored codec path value = .ok (generated winner))
      (settled : ∀ i other, s.calls i ≠ .writeAll other)
      (agreed : ∀ i key, s.calls i = .returned (.ok key) → key = generated winner)

variable {codec path generated}

theorem calls_raceStep_iff {s : Race ι Keypair} {i j : ι} {call : Call Keypair} :
    (raceStep codec path generated s i).2.calls j = call ↔
      j = i ∧ (callStep codec path (generated i) s.file (s.calls i)).1 = call ∨ j ≠ i ∧ s.calls j = call := by
  by_cases mine : j = i
  · subst mine
    simp
  · rw [calls_raceStep_of_ne codec path generated s mine]
    simp [mine]

/-- Where the file is there, a call that does not write leaves it as it is. -/
theorem file_callStep {own : Keypair} {raw : List UInt8} {call : Call Keypair}
    (quiet : ∀ value, call ≠ .writeAll value) : (callStep codec path own (some raw) call).2 = some raw := by
  cases call with
  | writeAll value => exact absurd rfl (quiet value)
  | _ => rfl

/-- A call that does not write returns what is in the file. -/
theorem returned_callStep {own : Keypair} {raw : List UInt8} {call : Call Keypair}
    (quiet : ∀ value, call ≠ .writeAll value) {result : Except IdentityError Keypair}
    (next : (callStep codec path own (some raw) call).1 = .returned result) :
    call = .returned result ∨ call = .read ∧ result = decodeStored codec path raw := by
  cases call with
  | writeAll value => exact absurd rfl (quiet value)
  | read =>
    cases next
    exact .inr ⟨rfl, rfl⟩
  | returned result => exact .inl next
  | _ => cases next

theorem encoded_of_createNew {own : Keypair} {file : Option (List UInt8)} {call : Call Keypair} {value : List UInt8}
    (next : (callStep codec path own file call).1 = .createNew value) : encodeStored codec path own = .ok value := by
  revert next
  fun_cases callStep codec path own file call <;> simp_all

theorem createNew_of_writeAll {own : Keypair} {file : Option (List UInt8)} {call : Call Keypair} {value : List UInt8}
    (next : (callStep codec path own file call).1 = .writeAll value) : call = .createNew value ∧ file = none := by
  revert next
  fun_cases callStep codec path own file call <;> simp_all

/-- A result is kept. -/
theorem returned_raceStep {s : Race ι Keypair} {j : ι} {result : Except IdentityError Keypair}
    (returned : s.calls j = .returned result) (i : ι) :
    (raceStep codec path generated s i).2.calls j = .returned result := by
  rw [calls_raceStep_iff]
  by_cases mine : j = i
  · subst mine
    exact .inl ⟨rfl, by rw [returned, callStep]⟩
  · exact .inr ⟨mine, returned⟩

theorem returned_final {s : Race ι Keypair} {j : ι} {result : Except IdentityError Keypair}
    (returned : s.calls j = .returned result) (schedule : List ι) :
    (final (raceStep codec path generated) s schedule).calls j = .returned result := by
  induction schedule using List.reverseRecOn with
  | nil => exact returned
  | append_singleton schedule i ih =>
    rw [final_concat]
    exact returned_raceStep ih i

section Lawful

variable (lawful : codec.Lawful)

include lawful

theorem decodes_of_encodeStored {own : Keypair} {value : List UInt8}
    (encoded : encodeStored codec path own = .ok value) : decodeStored codec path value = .ok own := by
  obtain ⟨text, same, decoded⟩ := decodeStored_encodeStored path lawful own
  rw [same] at encoded
  cases encoded
  exact decoded

theorem callStep_look_none (path : String) (own : Keypair) :
    ∃ value, callStep codec path own none .look = (.createNew value, none) := by
  obtain ⟨value, encoded, _⟩ := decodeStored_encodeStored path lawful own
  exact ⟨value, by rw [callStep, encoded]⟩

theorem pending_step {s : Race ι Keypair} (pending : Pending codec path generated s) (i : ι) :
    Pending codec path generated (raceStep codec path generated s i).2 := by
  intro j value on
  rw [calls_raceStep_iff, calls_raceStep_iff] at on
  rcases on with (⟨rfl, next⟩ | ⟨_, same⟩) | (⟨rfl, next⟩ | ⟨_, same⟩)
  · exact decodes_of_encodeStored lawful (encoded_of_createNew next)
  · exact pending j value (.inl same)
  · exact pending j value (.inl (createNew_of_writeAll next).1)
  · exact pending j value (.inr same)

omit lawful in
theorem file_raceStep (s : Race ι Keypair) (i : ι) :
    (raceStep codec path generated s i).2.file = (callStep codec path (generated i) s.file (s.calls i)).2 := rfl

/-- **Nobody has created the file.** -/
theorem stage_step_absent {s : Race ι Keypair} (file : s.file = none)
    (early : ∀ i, s.calls i = .look ∨ ∃ value, s.calls i = .createNew value) (i : ι) :
    Stage codec path generated (raceStep codec path generated s i).2 := by
  obtain looking | ⟨value, creating⟩ := early i
  · obtain ⟨value, step⟩ := callStep_look_none lawful path (generated i)
    rw [← file, ← looking] at step
    refine .absent (by rw [file_raceStep, step, file]) fun j => ?_
    by_cases mine : j = i
    · exact .inr ⟨value, calls_raceStep_iff.mpr (.inl ⟨mine, by rw [step]⟩)⟩
    · rw [calls_raceStep_of_ne codec path generated s mine]
      exact early j
  · have step : callStep codec path (generated i) s.file (s.calls i) = (.writeAll value, some []) := by
      rw [file, creating, callStep]
    refine .created i value (by rw [file_raceStep, step])
      (calls_raceStep_iff.mpr (.inl ⟨rfl, by rw [step]⟩)) ?_ ?_
    · intro j other writing
      obtain ⟨mine, _⟩ | ⟨_, same⟩ := calls_raceStep_iff.mp writing
      · exact mine
      · obtain found | ⟨_, found⟩ := early j <;> rw [found] at same <;> cases same
    · intro j key returned
      obtain ⟨_, next⟩ | ⟨_, same⟩ := calls_raceStep_iff.mp returned
      · rw [step] at next
        cases next
      · obtain found | ⟨_, found⟩ := early j <;> rw [found] at same <;> cases same

theorem stage_step {s : Race ι Keypair} (pending : Pending codec path generated s)
    (stage : Stage codec path generated s) (i : ι) :
    Stage codec path generated (raceStep codec path generated s i).2 := by
  cases stage with
  | absent file early => exact stage_step_absent lawful file early i
  | created winner value file writing single failed =>
    by_cases mine : i = winner
    · subst mine
      have step : callStep codec path (generated i) s.file (s.calls i) = (.returned (.ok (generated i)), some value) := by
        rw [writing, callStep]
      refine .written i value (by rw [file_raceStep, step]) (pending i value (.inr writing)) ?_ ?_
      · intro j other next
        obtain ⟨rfl, next⟩ | ⟨other, same⟩ := calls_raceStep_iff.mp next
        · rw [step] at next
          cases next
        · exact other (single j _ same)
      · intro j key returned
        obtain ⟨rfl, next⟩ | ⟨_, same⟩ := calls_raceStep_iff.mp returned
        · rw [step] at next
          cases next
          rfl
        · exact absurd same (failed j key)
    · have quiet : ∀ other, s.calls i ≠ .writeAll other := fun other found => mine (single i other found)
      refine .created winner value (by rw [file_raceStep, file, file_callStep quiet]) ?_ ?_ ?_
      · rw [calls_raceStep_of_ne codec path generated s (Ne.symm mine), writing]
      · intro j other found
        obtain ⟨_, found⟩ | ⟨_, found⟩ := calls_raceStep_iff.mp found
        · rw [(createNew_of_writeAll found).2] at file
          cases file
        · exact single j other found
      · intro j key found
        obtain ⟨rfl, found⟩ | ⟨_, found⟩ := calls_raceStep_iff.mp found
        · rw [file] at found
          obtain before | ⟨_, read⟩ := returned_callStep quiet found
          · exact failed j key before
          · exact decodeStored_nil path lawful key read.symm
        · exact failed j key found
  | written winner value file decoded settled agreed =>
    refine .written winner value (by rw [file_raceStep, file, file_callStep (settled i)]) decoded ?_ ?_
    · intro j other found
      obtain ⟨_, found⟩ | ⟨_, found⟩ := calls_raceStep_iff.mp found
      · rw [(createNew_of_writeAll found).2] at file
        cases file
      · exact settled j other found
    · intro j key found
      obtain ⟨rfl, found⟩ | ⟨_, found⟩ := calls_raceStep_iff.mp found
      · rw [file] at found
        obtain before | ⟨_, read⟩ := returned_callStep (settled j) found
        · exact agreed j key before
        · rw [decoded] at read
          cases read
          rfl
      · exact agreed j key found

theorem stage_final (schedule : List ι) :
    Pending codec path generated (final (raceStep codec path generated) .start schedule) ∧
      Stage codec path generated (final (raceStep codec path generated) .start schedule) := by
  induction schedule using List.reverseRecOn with
  | nil =>
    refine ⟨?_, .absent rfl fun _ => .inl rfl⟩
    intro i value on
    rcases on with same | same <;> cases same
  | append_singleton schedule i ih =>
    rw [final_concat]
    exact ⟨pending_step lawful ih.1 i, stage_step lawful ih.1 ih.2 i⟩

end Lawful

/-! ### Agreement -/

/-- The calls that have returned have returned the same key. -/
def Converged (s : Race ι Keypair) : Prop :=
  ∀ i j first second, s.calls i = .returned first → s.calls j = .returned second →
    ∃ key, first = .ok key ∧ second = .ok key

omit [DecidableEq ι] in
/-- No other call has returned since. -/
theorem converged_of_returned {s t : Race ι Keypair} (converged : Converged s)
    (returned : ∀ i result, t.calls i = .returned result → s.calls i = .returned result) : Converged t :=
  fun i j first second one other => converged i j first second (returned i first one) (returned j second other)

omit [DecidableEq ι] in
theorem converged_of_forall {s : Race ι Keypair} (key : Keypair)
    (returned : ∀ i result, s.calls i = .returned result → result = .ok key) : Converged s :=
  fun i j first second one other => ⟨key, returned i first one, returned j second other⟩

/-- **One step.** The calls that have returned still agree, unless the step reads the empty file. -/
theorem converged_step (lawful : codec.Lawful) {s : Race ι Keypair} (stage : Stage codec path generated s)
    (converged : Converged s) (i : ι) :
    Converged (raceStep codec path generated s i).2 ↔ (s.calls i = .read → s.file ≠ some []) := by
  have succeeded : ∀ j result, s.calls j = .returned result → ∃ key, result = .ok key := by
    intro j result returned
    obtain ⟨key, same, _⟩ := converged j j result result returned returned
    exact ⟨key, same⟩
  cases stage with
  | absent file early =>
    refine iff_of_true (converged_of_returned converged ?_) fun _ => by simp [file]
    intro j result found
    obtain ⟨rfl, found⟩ | ⟨_, found⟩ := calls_raceStep_iff.mp found
    · obtain looking | ⟨value, creating⟩ := early j
      · obtain ⟨value, step⟩ := callStep_look_none lawful path (generated j)
        rw [file, looking, step] at found
        cases found
      · rw [file, creating, callStep] at found
        cases found
    · exact found
  | created winner value file writing single failed =>
    by_cases mine : i = winner
    · subst mine
      -- the winner is the first call that returns
      refine iff_of_true (converged_of_forall (generated i) ?_) fun reading => ?_
      · intro j result found
        obtain ⟨rfl, found⟩ | ⟨_, found⟩ := calls_raceStep_iff.mp found
        · rw [writing, callStep] at found
          cases found
          rfl
        · obtain ⟨key, rfl⟩ := succeeded j result found
          exact absurd found (failed j key)
      · rw [writing] at reading
        cases reading
    · have quiet : ∀ other, s.calls i ≠ .writeAll other := fun other found => mine (single i other found)
      by_cases reading : s.calls i = .read
      · refine iff_of_false ?_ fun met => met reading file
        intro agreed
        have returned : (raceStep codec path generated s i).2.calls i = .returned (decodeStored codec path []) := by
          rw [calls_raceStep_self, file, reading, callStep]
        obtain ⟨key, read, _⟩ := agreed i i _ _ returned returned
        exact decodeStored_nil path lawful key read
      · refine iff_of_true (converged_of_returned converged ?_) fun found => absurd found reading
        intro j result found
        obtain ⟨rfl, found⟩ | ⟨_, found⟩ := calls_raceStep_iff.mp found
        · rw [file] at found
          obtain before | ⟨read, _⟩ := returned_callStep quiet found
          · exact before
          · exact absurd read reading
        · exact found
  | written winner value file decoded settled agreed =>
    have full : s.file ≠ some [] := by
      rw [file]
      intro same
      cases same
      exact decodeStored_nil path lawful _ decoded
    refine iff_of_true (converged_of_forall (generated winner) ?_) fun _ => full
    intro j result found
    obtain ⟨rfl, found⟩ | ⟨_, found⟩ := calls_raceStep_iff.mp found
    · rw [file] at found
      obtain before | ⟨_, read⟩ := returned_callStep (settled j) found
      · obtain ⟨key, rfl⟩ := succeeded j result before
        rw [agreed j key before]
      · exact read.trans decoded
    · obtain ⟨key, rfl⟩ := succeeded j result found
      rw [agreed j key found]

/-- **Convergence.** Every call returns with its fourth step at the latest; and all calls that have returned have
returned the same key, exactly if no call of the run reads the file while it is created and not yet written. -/
theorem identity_converges_iff (lawful : codec.Lawful) (path : String) (generated : ι → Keypair) (schedule : List ι) :
    (∀ i, 4 ≤ schedule.count i →
      ∃ result, (final (raceStep codec path generated) .start schedule).calls i = .returned result) ∧
    (Converged (final (raceStep codec path generated) .start schedule) ↔
      ∀ (count : ℕ) (i : ι), schedule[count]? = some i →
        (final (raceStep codec path generated) .start (schedule.take count)).calls i = .read →
        (final (raceStep codec path generated) .start (schedule.take count)).file ≠ some []) := by
  refine ⟨fun i enough => returned_of_count codec path generated enough, ?_⟩
  have always := always_iff_each (raceStep codec path generated) (Stage codec path generated) Converged
    (fun s i => s.calls i = .read → s.file ≠ some []) schedule
    (fun count => (stage_final lawful (schedule.take count)).2) (fun i j first second one => nomatch one)
    fun s i _ stage converged => converged_step lawful stage converged i
  rw [← always]
  constructor
  · intro converged count _
    -- a result is never taken back
    refine converged_of_returned converged fun i result returned => ?_
    rw [← List.take_append_drop count schedule, final_append]
    exact returned_final returned _
  · intro each
    have whole := each schedule.length le_rfl
    rwa [List.take_length] at whole

end Steps

/-! ### Two calls at once -/

namespace TwoCalls

/-- The Ed25519 keys with the seeds of 32 bytes 1 and of 32 bytes 2. -/
inductive SampleKey
  | first
  | second
  deriving DecidableEq

/-- The protobuf of a key: the type Ed25519, then the seed and the public key. -/
def SampleKey.encoded (key : SampleKey) : List UInt8 :=
  [0x08, 0x01, 0x12, 0x40] ++ match key with
    | first => List.replicate 32 1 ++
        (Hex.decode "8a88e3dd7409f195fd52db2d3cba5d72ca6709bf1d94121bf3748801b40f6f5c").getD []
    | second => List.replicate 32 2 ++
        (Hex.decode "8139770ea87d175f56a35466c34c7ecccb8d8a91b4ee37a25df60f5b8fc9b394").getD []

def codec : KeypairCodec SampleKey where
  toProtobufEncoding key := .ok key.encoded
  fromProtobufEncoding bytes :=
    if bytes = SampleKey.first.encoded then .ok .first
    else if bytes = SampleKey.second.encoded then .ok .second
    else .error "key type not supported"

theorem codec_lawful : codec.Lawful where
  readBack key := ⟨key.encoded, rfl, by cases key <;> decide +kernel⟩
  empty key := by cases key <;> decide +kernel

def generated : Bool → SampleKey
  | false => .first
  | true => .second

/-- Both calls miss the file, the second one loses the race, and reads what the first one has written. -/
def raced : List Bool := [false, true, false, true, false, true, true]

theorem both_first :
    (final (raceStep codec "identity.key" generated) .start raced).calls false = .returned (.ok .first) ∧
    (∃ result, (final (raceStep codec "identity.key" generated) .start raced).calls true = .returned result) ∧
    Converged (final (raceStep codec "identity.key" generated) .start raced) := by
  obtain ⟨returns, agrees⟩ := identity_converges_iff codec_lawful "identity.key" generated raced
  refine ⟨by decide +kernel, returns true (by decide), agrees.mpr ?_⟩
  intro count i here
  have within : count < 7 := (List.getElem?_eq_some_iff.mp here).1
  interval_cases count <;> cases here <;> decide +kernel

/-- **Read before it is written.** The second call finds the file that the first one has just created. -/
theorem empty_read :
    (final (raceStep codec "identity.key" generated) .start [false, false, true, true]).calls true =
      .returned (.error (.identity "identity.key" (.decodeFailed "key type not supported"))) := by
  decide +kernel

end TwoCalls

end P2pNet.Connectivity.Identity
