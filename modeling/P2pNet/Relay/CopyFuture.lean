/-
**Forwarding of a relay circuit** (`external/libp2p-relay/src/copy_future.rs`, `metering.rs`).

A circuit is two streams and a buffer of 8 KiB for each. Every round of `CopyFuture::poll` checks the quota and
forwards what it can in both directions; the streams answer each read, write, flush and close as they like.
A `Side` keeps the bytes that were read from its stream and written to it beside the buffer.

`usage_stops`: a counter holds the number of bytes up to the largest 64-bit value.
-/

import P2pNet.Lib.Run
import P2pNet.Lib.Checked

namespace P2pNet.Relay

open Lib

/-! ### Usage of a circuit -/

/-- `CircuitBytes`, and `CircuitUsage` as its snapshot. -/
structure CircuitBytes where
  srcToDst : UInt64
  dstToSrc : UInt64
  deriving DecidableEq

namespace CircuitBytes

def zero : CircuitBytes := ⟨0, 0⟩

def total (bytes : CircuitBytes) : UInt64 := U64.saturatingAdd bytes.srcToDst bytes.dstToSrc

def recordSrcToDst (usage : CircuitBytes) (bytes : UInt64) : CircuitBytes :=
  { usage with srcToDst := U64.saturatingAdd usage.srcToDst bytes }

def recordDstToSrc (usage : CircuitBytes) (bytes : UInt64) : CircuitBytes :=
  { usage with dstToSrc := U64.saturatingAdd usage.dstToSrc bytes }

theorem recordSrcToDst_zero (usage : CircuitBytes) : usage.recordSrcToDst 0 = usage := by
  unfold recordSrcToDst
  rw [U64.saturatingAdd_zero]

theorem recordDstToSrc_zero (usage : CircuitBytes) : usage.recordDstToSrc 0 = usage := by
  unfold recordDstToSrc
  rw [U64.saturatingAdd_zero]

end CircuitBytes

/-! ### Streams -/

/-- The kinds of `std::io::ErrorKind` that are built or told apart. -/
inductive IoErrorKind
  | timedOut
  | connectionAborted
  | connectionReset
  | brokenPipe
  | unexpectedEof
  | writeZero
  | other
  deriving DecidableEq

structure IoError where
  kind : IoErrorKind
  text : String
  deriving DecidableEq

def maxCircuitBytesReached : IoError := ⟨.other, "Max circuit bytes reached."⟩

def timedOut : IoError := ⟨.timedOut, "timed out"⟩

def writeZero : IoError := ⟨.writeZero, "write zero"⟩

/-- `std::task::Poll`. -/
inductive Poll (α : Type)
  | ready (value : α)
  | pending
  deriving DecidableEq

/-- The capacity of `BufReader::new`. -/
def bufferSize : ℕ := 8192

/-- What a read puts into the buffer; nothing at the end of the stream. -/
structure Chunk where
  bytes : List UInt8
  fits : bytes.length ≤ bufferSize

/-- A stream behind its `BufReader`: what the buffer still holds, with all that was read and written. -/
structure Side where
  received : List UInt8
  buffered : List UInt8
  written : List UInt8

/-- The answers of the two streams to what `forward_data` may ask: a write accepts up to a number of bytes. -/
structure Answers where
  read : Poll (Except IoError Chunk)
  write : Poll (Except IoError ℕ)
  flush : Poll (Except IoError Unit)
  close : Poll (Except IoError Unit)

namespace Side

/-- `BufReader::poll_fill_buf`: the stream is read when the buffer is used up. -/
def pollFillBuf (side : Side) (read : Poll (Except IoError Chunk)) :
    Poll (Except IoError (List UInt8)) × Side :=
  if side.buffered = [] then
    match read with
    | .ready (.ok chunk) =>
      (.ready (.ok chunk.bytes), { side with received := side.received ++ chunk.bytes, buffered := chunk.bytes })
    | .ready (.error error) => (.ready (.error error), side)
    | .pending => (.pending, side)
  else (.ready (.ok side.buffered), side)

def consume (side : Side) (count : ℕ) : Side := { side with buffered := side.buffered.drop count }

end Side

/-- The answer is the number of bytes sent, zero when the source has ended. -/
def forwardData (src dst : Side) (answers : Answers) : Poll (Except IoError ℕ) × Side × Side :=
  match src.pollFillBuf answers.read with
  | (.ready (.error error), src) => (.ready (.error error), src, dst)
  | (.pending, src) =>
    match answers.flush with
    | .ready (.error error) => (.ready (.error error), src, dst)
    | .ready (.ok ()) | .pending => (.pending, src, dst)
  | (.ready (.ok buffer), src) =>
    if buffer = [] then
      match answers.flush with
      | .pending => (.pending, src, dst)
      | .ready (.error error) => (.ready (.error error), src, dst)
      | .ready (.ok ()) =>
        match answers.close with
        | .pending => (.pending, src, dst)
        | .ready (.error error) => (.ready (.error error), src, dst)
        | .ready (.ok ()) => (.ready (.ok 0), src, dst)
    else
      match answers.write with
      | .pending => (.pending, src, dst)
      | .ready (.error error) => (.ready (.error error), src, dst)
      | .ready (.ok accepted) =>
        let count := min accepted buffer.length
        if count = 0 then (.ready (.error writeZero), src, dst)
        else (.ready (.ok count), src.consume count, { dst with written := dst.written ++ buffer.take count })

/-! ### The future -/

structure CopyFuture where
  src : Side
  dst : Side
  maxCircuitBytes : UInt64
  usage : CircuitBytes

/-- Data that came with a handshake; its length is a machine word. -/
structure PendingData where
  bytes : List UInt8
  fits : bytes.length ≤ wordMax

def PendingData.none : PendingData := ⟨[], Nat.zero_le _⟩

inductive Status
  | pending
  | done
  | progressed
  deriving DecidableEq

/-- The answers of one round, and whether the timer of the circuit has fired. -/
structure RoundAnswers where
  srcToDst : Answers
  dstToSrc : Answers
  expired : Bool

inductive RoundEnd
  | again
  | ready (result : Except IoError Unit)
  | pending

namespace CopyFuture

/-- A circuit as the handler starts it: the data that came with the two handshakes has been forwarded and
recorded. -/
def new (maxCircuitBytes : UInt64) (srcPendingData dstPendingData : PendingData) : CopyFuture where
  src := ⟨srcPendingData.bytes, [], dstPendingData.bytes⟩
  dst := ⟨dstPendingData.bytes, [], srcPendingData.bytes⟩
  maxCircuitBytes
  usage := (CircuitBytes.zero.recordDstToSrc (UInt64.ofNat dstPendingData.bytes.length)).recordSrcToDst
    (UInt64.ofNat srcPendingData.bytes.length)

def quotaReached (s : CopyFuture) : Bool := s.maxCircuitBytes > 0 && s.usage.total > s.maxCircuitBytes

def forwardSrc (s : CopyFuture) (answers : Answers) : Except IoError Status × CopyFuture :=
  match forwardData s.src s.dst answers with
  | (.ready (.error error), src, dst) => (.error error, { s with src, dst })
  | (.ready (.ok 0), src, dst) => (.ok .done, { s with src, dst })
  | (.ready (.ok (sent + 1)), src, dst) =>
    (.ok .progressed, { s with src, dst, usage := s.usage.recordSrcToDst (UInt64.ofNat (sent + 1)) })
  | (.pending, src, dst) => (.ok .pending, { s with src, dst })

def forwardDst (s : CopyFuture) (answers : Answers) : Except IoError Status × CopyFuture :=
  match forwardData s.dst s.src answers with
  | (.ready (.error error), dst, src) => (.error error, { s with src, dst })
  | (.ready (.ok 0), dst, src) => (.ok .done, { s with src, dst })
  | (.ready (.ok (sent + 1)), dst, src) =>
    (.ok .progressed, { s with src, dst, usage := s.usage.recordDstToSrc (UInt64.ofNat (sent + 1)) })
  | (.pending, dst, src) => (.ok .pending, { s with src, dst })

/-- One round of the loop of `poll`. -/
def round (s : CopyFuture) (answers : RoundAnswers) : RoundEnd × CopyFuture :=
  if s.quotaReached then (.ready (.error maxCircuitBytesReached), s)
  else
    match s.forwardSrc answers.srcToDst with
    | (.error error, s) => (.ready (.error error), s)
    | (.ok srcStatus, s) =>
      match s.forwardDst answers.dstToSrc with
      | (.error error, s) => (.ready (.error error), s)
      | (.ok dstStatus, s) =>
        match srcStatus, dstStatus with
        | .done, .done => (.ready (.ok ()), s)
        | .progressed, _ => (.again, s)
        | _, .progressed => (.again, s)
        | .pending, .pending | .pending, .done | .done, .pending =>
          if answers.expired then (.ready (.error timedOut), s) else (.pending, s)

/-- `CopyFuture::poll`, against the answers of its rounds. Without an answer the poll is still in its loop. -/
def poll (s : CopyFuture) : List RoundAnswers → Option (Poll (Except IoError Unit)) × CopyFuture
  | [] => (none, s)
  | answers :: rest =>
    match s.round answers with
    | (.again, s) => poll s rest
    | (.ready result, s) => (some (.ready result), s)
    | (.pending, s) => (some .pending, s)

end CopyFuture

/-! ### One call of `forward_data` -/

/-- Bytes are fetched into the buffer, and a number of them is moved to the other side. -/
structure Moves (src dst : Side) (count : ℕ) (src' dst' : Side) : Prop where
  fetched : ∃ chunk, src'.received = src.received ++ chunk ∧
    src'.buffered = (src.buffered ++ chunk).drop count ∧
    dst'.written = dst.written ++ (src.buffered ++ chunk).take count ∧
    count ≤ (src.buffered ++ chunk).length ∧ (chunk ≠ [] → src.buffered = []) ∧ chunk.length ≤ bufferSize
  kept : src'.written = src.written ∧ dst'.received = dst.received ∧ dst'.buffered = dst.buffered

/-- The number of bytes that an answer of `forward_data` reports. -/
def reported : Poll (Except IoError ℕ) → ℕ
  | .ready (.ok sent) => sent
  | _ => 0

theorem Moves.fetch (src dst : Side) (read : Poll (Except IoError Chunk)) :
    Moves src dst 0 (src.pollFillBuf read).2 dst := by
  unfold Side.pollFillBuf
  split_ifs with used
  · rcases read with ⟨error | chunk⟩ | _
    · exact ⟨⟨[], by simp, by simp, by simp, by simp, by simp, by simp⟩, rfl, rfl, rfl⟩
    · exact ⟨⟨chunk.bytes, rfl, by simp [used], by simp, by simp, fun _ => used, chunk.fits⟩, rfl, rfl, rfl⟩
    · exact ⟨⟨[], by simp, by simp, by simp, by simp, by simp, by simp⟩, rfl, rfl, rfl⟩
  · exact ⟨⟨[], by simp, by simp, by simp, by simp, by simp, by simp⟩, rfl, rfl, rfl⟩

theorem Moves.send {src dst src' : Side} (moves : Moves src dst 0 src' dst) {count : ℕ}
    (within : count ≤ src'.buffered.length) :
    Moves src dst count (src'.consume count) { dst with written := dst.written ++ src'.buffered.take count } := by
  obtain ⟨⟨chunk, received, buffered, _, _, used, small⟩, written, _, _⟩ := moves
  rw [List.drop_zero] at buffered
  refine ⟨⟨chunk, received, ?_, ?_, ?_, used, small⟩, written, rfl, rfl⟩
  · rw [Side.consume, buffered]
  · rw [buffered]
  · rw [← buffered]
    exact within

theorem pollFillBuf_buffer {side : Side} {read : Poll (Except IoError Chunk)} {buffer : List UInt8} {side' : Side}
    (filled : side.pollFillBuf read = (.ready (.ok buffer), side')) : side'.buffered = buffer := by
  unfold Side.pollFillBuf at filled
  split_ifs at filled with used
  · rcases read with ⟨error | chunk⟩ | _
    · cases filled
    · cases filled
      rfl
    · cases filled
  · cases filled
    rfl

/-- **What `forward_data` does**, whatever the streams answer. -/
theorem forwardData_moves (src dst : Side) (answers : Answers) :
    Moves src dst (reported (forwardData src dst answers).1) (forwardData src dst answers).2.1
      (forwardData src dst answers).2.2 := by
  have fetch := Moves.fetch src dst answers.read
  unfold forwardData
  generalize filled : src.pollFillBuf answers.read = filled' at fetch
  obtain ⟨⟨error | buffer⟩ | _, src'⟩ := filled'
  · exact fetch
  · have held := pollFillBuf_buffer filled
    dsimp only
    split_ifs with ended
    · rcases answers.flush with ⟨error | _⟩ | _
      · exact fetch
      · rcases answers.close with ⟨error | _⟩ | _
        · exact fetch
        · exact fetch
        · exact fetch
      · exact fetch
    · rcases answers.write with ⟨error | accepted⟩ | _
      · exact fetch
      · dsimp only
        split_ifs with none
        · exact fetch
        · rw [← held]
          exact fetch.send (Nat.min_le_right _ _)
      · exact fetch
  · rcases answers.flush with ⟨error | _⟩ | _
    · exact fetch
    · exact fetch
    · exact fetch

/-! ### A direction -/

/-- **A direction between two calls**: what was read is what was written and then the buffer, and the counter
holds the number of the bytes written. -/
structure Channel (src dst : Side) (counter : UInt64) : Prop where
  bytes : src.received = dst.written ++ src.buffered
  counted : counter.toNat = min dst.written.length wordMax
  small : src.buffered.length ≤ bufferSize

theorem Channel.moves {src dst src' dst' : Side} {counter : UInt64} {count : ℕ} (channel : Channel src dst counter)
    (moves : Moves src dst count src' dst') :
    Channel src' dst' (U64.saturatingAdd counter (UInt64.ofNat count)) ∧ count ≤ bufferSize ∧
      dst'.written.length = dst.written.length + count := by
  obtain ⟨⟨chunk, received, buffered, written, within, used, small⟩, _⟩ := moves
  have room : (src.buffered ++ chunk).length ≤ bufferSize := by
    by_cases empty : chunk = []
    · rw [empty, List.append_nil]
      exact channel.small
    · rw [used empty]
      exact small
  have longer : dst'.written.length = dst.written.length + count := by
    rw [written, List.length_append, List.length_take, Nat.min_eq_left within]
  refine ⟨⟨?_, ?_, ?_⟩, within.trans room, longer⟩
  · rw [received, written, buffered, List.append_assoc, List.take_append_drop, channel.bytes, List.append_assoc]
  · have fits : (UInt64.ofNat count).toNat = count :=
      U64.toNat_ofNat ((within.trans room).trans (by decide))
    rw [U64.toNat_saturatingAdd, fits, channel.counted, longer]
    omega
  · rw [buffered, List.length_drop]
    exact (Nat.sub_le _ _).trans room

/-- The other direction is not touched. -/
theorem Channel.unmoved {src dst src' dst' : Side} {counter : UInt64} {count : ℕ} (channel : Channel dst src counter)
    (moves : Moves src dst count src' dst') : Channel dst' src' counter := by
  obtain ⟨written, received, buffered⟩ := moves.kept
  refine ⟨?_, ?_, ?_⟩
  · rw [written, received, buffered]
    exact channel.bytes
  · rw [written]
    exact channel.counted
  · rw [buffered]
    exact channel.small

/-! ### The circuit -/

namespace CopyFuture

/-- The bytes forwarded in both directions. -/
def forwarded (s : CopyFuture) : ℕ := s.dst.written.length + s.src.written.length

/-- Both directions are as they should be. -/
structure Steady (s : CopyFuture) : Prop where
  srcToDst : Channel s.src s.dst s.usage.srcToDst
  dstToSrc : Channel s.dst s.src s.usage.dstToSrc

theorem Steady.total {s : CopyFuture} (steady : Steady s) : s.usage.total.toNat = min s.forwarded wordMax := by
  unfold CircuitBytes.total forwarded
  rw [U64.toNat_saturatingAdd, steady.srcToDst.counted, steady.dstToSrc.counted]
  omega

theorem forwardSrc_moves (s : CopyFuture) (answers : Answers) :
    let s' := (s.forwardSrc answers).2
    ∃ count, Moves s.src s.dst count s'.src s'.dst ∧ s'.maxCircuitBytes = s.maxCircuitBytes ∧
      s'.usage = s.usage.recordSrcToDst (UInt64.ofNat count) := by
  have moves := forwardData_moves s.src s.dst answers
  have unchanged : s.usage = s.usage.recordSrcToDst (UInt64.ofNat 0) := (CircuitBytes.recordSrcToDst_zero _).symm
  unfold forwardSrc
  generalize forwardData s.src s.dst answers = result at moves ⊢
  obtain ⟨⟨error | sent⟩ | _, src, dst⟩ := result
  · exact ⟨0, moves, rfl, unchanged⟩
  · cases sent with
    | zero => exact ⟨0, moves, rfl, unchanged⟩
    | succ sent => exact ⟨sent + 1, moves, rfl, rfl⟩
  · exact ⟨0, moves, rfl, unchanged⟩

theorem forwardDst_moves (s : CopyFuture) (answers : Answers) :
    let s' := (s.forwardDst answers).2
    ∃ count, Moves s.dst s.src count s'.dst s'.src ∧ s'.maxCircuitBytes = s.maxCircuitBytes ∧
      s'.usage = s.usage.recordDstToSrc (UInt64.ofNat count) := by
  have moves := forwardData_moves s.dst s.src answers
  have unchanged : s.usage = s.usage.recordDstToSrc (UInt64.ofNat 0) := (CircuitBytes.recordDstToSrc_zero _).symm
  unfold forwardDst
  generalize forwardData s.dst s.src answers = result at moves ⊢
  obtain ⟨⟨error | sent⟩ | _, dst, src⟩ := result
  · exact ⟨0, moves, rfl, unchanged⟩
  · cases sent with
    | zero => exact ⟨0, moves, rfl, unchanged⟩
    | succ sent => exact ⟨sent + 1, moves, rfl, rfl⟩
  · exact ⟨0, moves, rfl, unchanged⟩

/-- Forwarding in a direction keeps the circuit steady and adds at most one buffer. -/
structure Forwards (s s' : CopyFuture) : Prop where
  steady : Steady s'
  quota : s'.maxCircuitBytes = s.maxCircuitBytes
  added : s'.forwarded ≤ s.forwarded + bufferSize

theorem forwardSrc_forwards {s : CopyFuture} (steady : Steady s) (answers : Answers) :
    Forwards s (s.forwardSrc answers).2 := by
  obtain ⟨count, moves, quota, usage⟩ := forwardSrc_moves s answers
  obtain ⟨channel, small, longer⟩ := steady.srcToDst.moves moves
  refine ⟨⟨?_, ?_⟩, quota, ?_⟩
  · rw [usage]
    exact channel
  · rw [usage]
    exact steady.dstToSrc.unmoved moves
  · unfold forwarded
    rw [longer, moves.kept.1]
    omega

theorem forwardDst_forwards {s : CopyFuture} (steady : Steady s) (answers : Answers) :
    Forwards s (s.forwardDst answers).2 := by
  obtain ⟨count, moves, quota, usage⟩ := forwardDst_moves s answers
  obtain ⟨channel, small, longer⟩ := steady.dstToSrc.moves moves
  refine ⟨⟨?_, ?_⟩, quota, ?_⟩
  · rw [usage]
    exact steady.srcToDst.unmoved moves
  · rw [usage]
    exact channel
  · unfold forwarded
    rw [longer, moves.kept.1]
    omega

/-- The state after the first direction of a round. -/
def halfway (s : CopyFuture) (answers : RoundAnswers) : CopyFuture :=
  if s.quotaReached then s else (s.forwardSrc answers.srcToDst).2

theorem halfway_forwards {s : CopyFuture} (steady : Steady s) (answers : RoundAnswers) :
    Forwards s (s.halfway answers) := by
  unfold halfway
  split_ifs
  · exact ⟨steady, rfl, Nat.le_add_right _ _⟩
  · exact forwardSrc_forwards steady answers.srcToDst

/-- A round ends after the quota check, after the first direction or after both. -/
theorem round_state (s : CopyFuture) (answers : RoundAnswers) :
    (s.round answers).2 = s.halfway answers ∨
      s.quotaReached = false ∧ (s.round answers).2 = ((s.halfway answers).forwardDst answers.dstToSrc).2 := by
  unfold round halfway
  cases s.quotaReached with
  | true => exact .inl rfl
  | false =>
    rw [if_neg Bool.false_ne_true, if_neg Bool.false_ne_true]
    obtain ⟨error | srcStatus, s'⟩ := s.forwardSrc answers.srcToDst
    · exact .inl rfl
    · refine .inr ⟨rfl, ?_⟩
      dsimp only
      obtain ⟨error | dstStatus, s''⟩ := s'.forwardDst answers.dstToSrc
      · rfl
      · cases srcStatus <;> cases dstStatus <;> first | rfl | (dsimp only; split_ifs <;> rfl)

/-- **A circuit at a moment of its run**: both directions are as they should be, and the bytes exceed the quota
by at most a buffer for each direction, or are those that came with the handshakes. -/
structure Faithful (start : ℕ) (quota : UInt64) (s : CopyFuture) : Prop where
  steady : Steady s
  limit : s.maxCircuitBytes = quota
  bounded : 0 < quota → quota.toNat < wordMax → s.forwarded ≤ max start (quota.toNat + 2 * bufferSize)

/-- A round that forwards begins within the quota. -/
theorem Steady.within {s : CopyFuture} (steady : Steady s) (below : s.quotaReached = false)
    (positive : 0 < s.maxCircuitBytes) (small : s.maxCircuitBytes.toNat < wordMax) :
    s.forwarded ≤ s.maxCircuitBytes.toNat := by
  rw [quotaReached, decide_eq_true positive, Bool.true_and] at below
  have total := UInt64.le_iff_toNat_le.mp (UInt64.not_lt.mp (of_decide_eq_false below))
  rw [steady.total] at total
  omega

section Polls

variable {start : ℕ} {quota : UInt64} {s : CopyFuture}

theorem Faithful.next {s' : CopyFuture} (faithful : Faithful start quota s) (below : s.quotaReached = false)
    (steady : Steady s') (same : s'.maxCircuitBytes = s.maxCircuitBytes)
    (added : s'.forwarded ≤ s.forwarded + 2 * bufferSize) : Faithful start quota s' := by
  refine ⟨steady, same.trans faithful.limit, fun positive small => ?_⟩
  have within := faithful.steady.within below
  rw [faithful.limit] at within
  have := within positive small
  omega

theorem halfway_faithful (faithful : Faithful start quota s) (answers : RoundAnswers) :
    Faithful start quota (s.halfway answers) := by
  cases below : s.quotaReached with
  | true =>
    unfold halfway
    rw [if_pos below]
    exact faithful
  | false =>
    obtain ⟨steady, same, added⟩ := halfway_forwards faithful.steady answers
    exact faithful.next below steady same (by omega)

theorem round_faithful (faithful : Faithful start quota s) (answers : RoundAnswers) :
    Faithful start quota (s.round answers).2 := by
  rcases round_state s answers with ends | ⟨below, ends⟩
  · rw [ends]
    exact halfway_faithful faithful answers
  · rw [ends]
    obtain ⟨first, same, added⟩ := halfway_forwards faithful.steady answers
    obtain ⟨steady, same', added'⟩ := forwardDst_forwards first answers.dstToSrc
    exact faithful.next below steady (same'.trans same) (by omega)

/-- **A poll**, however many rounds it makes. -/
theorem poll_faithful (faithful : Faithful start quota s) (rounds : List RoundAnswers) :
    Faithful start quota (s.poll rounds).2 := by
  induction rounds generalizing s with
  | nil => exact faithful
  | cons answers rest ih =>
    have next := round_faithful faithful answers
    unfold poll
    generalize s.round answers = ended at next ⊢
    obtain ⟨_ | result | _, s'⟩ := ended
    · exact ih next
    · exact next
    · exact next

/-- The total that is counted is bounded as well, also where the counters cannot exceed the quota. -/
theorem Faithful.total (faithful : Faithful start quota s) (positive : 0 < quota) :
    s.usage.total.toNat ≤ max start (quota.toNat + 2 * bufferSize) := by
  rw [faithful.steady.total]
  by_cases small : quota.toNat < wordMax
  · exact (Nat.min_le_left _ _).trans (faithful.bounded positive small)
  · omega

end Polls

theorem new_faithful (maxCircuitBytes : UInt64) (srcPendingData dstPendingData : PendingData) :
    Faithful (srcPendingData.bytes.length + dstPendingData.bytes.length) maxCircuitBytes
      (new maxCircuitBytes srcPendingData dstPendingData) := by
  have counted : ∀ data : PendingData,
      (U64.saturatingAdd 0 (UInt64.ofNat data.bytes.length)).toNat = min data.bytes.length wordMax := by
    intro data
    rw [U64.toNat_saturatingAdd, U64.toNat_ofNat data.fits]
    exact congrArg (min · wordMax) (Nat.zero_add _)
  refine ⟨⟨⟨?_, counted srcPendingData, Nat.zero_le _⟩, ⟨?_, counted dstPendingData, Nat.zero_le _⟩⟩, rfl,
    fun _ _ => ?_⟩
  · exact (List.append_nil _).symm
  · exact (List.append_nil _).symm
  · exact le_max_left _ _

/-- **Metered forwarding is faithful.** At every moment of every sequence of polls, between two polls, between
two rounds of a poll (then the last poll has not returned) and between the two directions of a round, the bytes
written to a side are a prefix of those read from the other one, the counter of each direction is the number of
bytes written, up to the largest 64-bit value, and with a quota the counted total exceeds it by at most a buffer
for each direction (or is what came with the handshakes); so does the number of bytes, for a quota that the
counters can exceed. -/
theorem forwarding_faithful (maxCircuitBytes : UInt64) (srcPendingData dstPendingData : PendingData)
    (polls : List (List RoundAnswers)) :
    let start := srcPendingData.bytes.length + dstPendingData.bytes.length
    let s := final poll (new maxCircuitBytes srcPendingData dstPendingData) polls
    ∀ now, (now = s ∨ ∃ answers, now = s.halfway answers) →
      now.dst.written <+: now.src.received ∧ now.src.written <+: now.dst.received ∧
      now.usage.srcToDst.toNat = min now.dst.written.length wordMax ∧
      now.usage.dstToSrc.toNat = min now.src.written.length wordMax ∧
      (0 < maxCircuitBytes → now.usage.total.toNat ≤ max start (maxCircuitBytes.toNat + 2 * bufferSize)) ∧
      (0 < maxCircuitBytes → maxCircuitBytes.toNat < wordMax →
        now.forwarded ≤ max start (maxCircuitBytes.toNat + 2 * bufferSize)) := by
  intro start s now moment
  have polled : Faithful start maxCircuitBytes s :=
    final_induct poll (fun _ s => Faithful start maxCircuitBytes s) polls
      (new_faithful maxCircuitBytes srcPendingData dstPendingData)
      fun _ rounds _ _ _ faithful => poll_faithful faithful rounds
  have faithful : Faithful start maxCircuitBytes now := by
    rcases moment with same | ⟨answers, same⟩
    · rw [same]
      exact polled
    · rw [same]
      exact halfway_faithful polled answers
  obtain ⟨srcToDst, dstToSrc⟩ := faithful.steady
  exact ⟨⟨_, srcToDst.bytes.symm⟩, ⟨_, dstToSrc.bytes.symm⟩, srcToDst.counted, dstToSrc.counted, faithful.total,
    faithful.bounded⟩

end CopyFuture

/-! ### A byte with every poll -/

namespace Trickle

def idle : Answers := ⟨.pending, .pending, .pending, .pending⟩

/-- The source sends a byte, which is accepted; then nothing is there to forward. -/
def rounds : List RoundAnswers :=
  [⟨⟨.ready (.ok ⟨[7], by decide⟩), .ready (.ok 1), .pending, .pending⟩, idle, false⟩, ⟨idle, idle, false⟩]

theorem poll_rounds (received written : List UInt8) (usage : CircuitBytes) :
    CopyFuture.poll ⟨⟨received, [], []⟩, ⟨[], [], written⟩, 0, usage⟩ rounds =
      (some .pending, ⟨⟨received ++ [7], [], []⟩, ⟨[], [], written ++ [7]⟩, 0, usage.recordSrcToDst 1⟩) :=
  rfl

theorem polled (polls : ℕ) :
    ∃ received written usage, final CopyFuture.poll (.new 0 .none .none) (List.replicate polls rounds) =
      ⟨⟨received, [], []⟩, ⟨[], [], written⟩, 0, usage⟩ ∧ written.length = polls ∧
      usage.srcToDst.toNat = min polls wordMax := by
  induction polls with
  | zero => exact ⟨[], [], _, rfl, rfl, rfl⟩
  | succ polls ih =>
    obtain ⟨received, written, usage, same, length, counted⟩ := ih
    refine ⟨received ++ [7], written ++ [7], usage.recordSrcToDst 1, ?_, ?_, ?_⟩
    · rw [List.replicate_succ', final_concat, same, poll_rounds]
    · rw [List.length_append, length, List.length_singleton]
    · have one : (1 : UInt64).toNat = 1 := rfl
      rw [CircuitBytes.recordSrcToDst, U64.toNat_saturatingAdd, counted, one]
      omega

end Trickle

/-- Under a quota of one byte two bytes are forwarded, and the next round ends the circuit. -/
theorem forwarding_faithful_two :
    let polls := [Trickle.rounds, Trickle.rounds]
    let s := final CopyFuture.poll (.new 1 .none .none) polls
    outputs CopyFuture.poll (.new 1 .none .none) polls =
      [some .pending, some (.ready (.error maxCircuitBytesReached))] ∧
    s.dst.written = [7, 7] ∧ s.dst.written <+: s.src.received ∧
      s.usage.srcToDst.toNat = min s.dst.written.length wordMax ∧ s.forwarded ≤ 1 + 2 * bufferSize := by
  obtain ⟨written, _, counted, _, _, bounded⟩ := CopyFuture.forwarding_faithful 1 .none .none
    [Trickle.rounds, Trickle.rounds] _ (.inl rfl)
  exact ⟨by decide, by decide, written, counted, bounded (by decide) (by decide)⟩

/-- **The counter stops** at the largest 64-bit value, and the bytes do not. -/
theorem usage_stops : ∃ polls : List (List RoundAnswers),
    let s := final CopyFuture.poll (.new 0 .none .none) polls
    s.dst.written.length = 2 ^ 64 ∧ s.usage.srcToDst.toNat = 2 ^ 64 - 1 := by
  obtain ⟨received, written, usage, same, length, counted⟩ := Trickle.polled (2 ^ 64)
  refine ⟨List.replicate (2 ^ 64) Trickle.rounds, ?_⟩
  rw [same]
  exact ⟨length, counted⟩

end P2pNet.Relay
