import Herald.Proofs.BufferedDecoding
import Herald.Proofs.SocketReading

set_option autoImplicit false

/-!
# The read buffer of a socket stays bounded

A binary message is added to the socket's read buffer only after every
frame the buffer can give has been taken off it, so the bytes kept between
messages are always short of a whole frame and announce no frame over the
bound: fewer than `4 + 1 MiB`. A message is refused, before it is added,
when it is over the reader's size limit; so at no point does the buffer
hold more than `4 + 1 MiB - 1` bytes and one message
(`read_buffer_stays_bounded`).

Taking frames off a buffer only ever drops bytes from its front, and a run
of takes that stops without a failure stops at a buffer from which nothing
can be taken (`decodeFrameStream_rest`); the reader's step keeps the bound
and, while it reads, the buffer stuck (`SocketReader.Settled.take`).
-/

namespace Herald

/-- A buffer short of its first frame holds less than a prefix and a
payload of the largest size. -/
theorem size_lt_of_frameCut_short {buf : ByteArray} {needed : Nat} (cut : frameCut buf = .short needed) :
    buf.size < lengthPrefixSize + maxFrameSize := by
  unfold frameCut at cut
  by_cases short : buf.size < lengthPrefixSize
  · unfold lengthPrefixSize maxFrameSize at *
    omega
  · rw [if_neg short] at cut
    by_cases large : announcedLength buf > maxFrameSize
    · rw [if_pos large] at cut
      cases cut
    · rw [if_neg large] at cut
      by_cases incomplete : buf.size < lengthPrefixSize + announcedLength buf
      · omega
      · rw [if_neg incomplete] at cut
        cases cut

/-- A buffer from which no frame can be taken is short of its first frame,
so it holds less than a prefix and a payload of the largest size. -/
theorem size_lt_of_decodeFrameFrom_none {buf : ByteArray} (stuck : decodeFrameFrom buf = .ok none) :
    buf.size < lengthPrefixSize + maxFrameSize := by
  rw [decodeFrameFrom_eq_cut] at stuck
  cases cut : frameCut buf with
  | short needed => exact size_lt_of_frameCut_short cut
  | tooLarge length => simp [cut] at stuck
  | whole payload after =>
    simp only [cut] at stuck
    cases decoded : decodeFramePayload payload <;> simp [decoded, Except.map, Except.mapError] at stuck

theorem size_of_decodeFrameFrom_taken {buf rest : ByteArray} {f : Frame}
    (taken : decodeFrameFrom buf = .ok (some (f, rest))) : rest.size + lengthPrefixSize ≤ buf.size := by
  rw [decodeFrameFrom_eq_cut] at taken
  cases cut : frameCut buf with
  | short needed => simp [cut] at taken
  | tooLarge length => simp [cut] at taken
  | whole payload after =>
    obtain ⟨within, -, -, rfl⟩ := frameCut_whole cut
    simp only [cut] at taken
    cases decoded : decodeFramePayload payload <;> simp [decoded, Except.map, Except.mapError] at taken
    obtain ⟨-, rfl⟩ := taken
    rw [ByteArray.size_extract]
    omega

theorem size_of_decodeFrameFrom_failed {buf rest : ByteArray} {e : ProtocolError}
    (failed : decodeFrameFrom buf = .error (e, rest)) : rest.size ≤ buf.size := by
  rw [decodeFrameFrom_eq_cut] at failed
  cases cut : frameCut buf with
  | short needed => simp [cut] at failed
  | tooLarge length =>
    simp only [cut, Except.error.injEq, Prod.mk.injEq] at failed
    rw [← failed.2]
  | whole payload after =>
    obtain ⟨-, -, -, rfl⟩ := frameCut_whole cut
    simp only [cut] at failed
    cases decoded : decodeFramePayload payload <;> simp [decoded, Except.map, Except.mapError] at failed
    rw [← failed.2, ByteArray.size_extract]
    omega

/-- Taking frames one after another leaves a buffer no larger than the one
it started from, and, given enough fuel, a run that ends without a failure
ends where no frame can be taken. -/
theorem decodeFrameStream_go_rest (buf : ByteArray) (acc : List Frame) (fuel : Nat) :
    (decodeFrameStream.go buf acc fuel).2.1.size ≤ buf.size ∧
      ((decodeFrameStream.go buf acc fuel).2.2 = none → buf.size < fuel →
        decodeFrameFrom (decodeFrameStream.go buf acc fuel).2.1 = .ok none) := by
  -- every take drops at least the four bytes of a length prefix
  induction fuel generalizing buf acc with
  | zero => exact ⟨le_refl _, fun _ none => absurd none (Nat.not_lt_zero _)⟩
  | succ fuel inductionHypothesis =>
    rw [decodeFrameStream.go]
    cases taking : decodeFrameFrom buf with
    | ok found =>
      cases found with
      | none => exact ⟨le_refl _, fun _ _ => taking⟩
      | some next =>
        obtain ⟨f, rest⟩ := next
        dsimp only
        have shorter := size_of_decodeFrameFrom_taken taking
        have later := inductionHypothesis rest (f :: acc)
        refine ⟨by omega, fun finished enough => later.2 finished ?_⟩
        unfold lengthPrefixSize at shorter
        omega
    | error failure =>
      obtain ⟨e, rest⟩ := failure
      dsimp only
      exact ⟨size_of_decodeFrameFrom_failed taking, fun finished => absurd finished (by simp)⟩

/-- Taking every frame off a buffer leaves no more than the buffer, and
when no frame failed, leaves bytes from which no frame can be taken. -/
theorem decodeFrameStream_rest (buf : ByteArray) :
    (decodeFrameStream buf).2.1.size ≤ buf.size ∧
      ((decodeFrameStream buf).2.2 = none → decodeFrameFrom (decodeFrameStream buf).2.1 = .ok none) :=
  have run := decodeFrameStream_go_rest buf [] (buf.size + 1)
  ⟨run.1, fun finished => run.2 finished (Nat.lt_succ_self _)⟩

namespace Server

open Cluster

namespace SocketReader

/-- The most bytes a reader may hold between messages: a prefix, a payload
one byte short of the largest, and a whole message. -/
def bufferBound (r : SocketReader) : Nat := lengthPrefixSize + maxFrameSize - 1 + r.limit

/-- What holds of a reader between messages: its buffer is within the
bound, and while it reads, no frame can be taken off the buffer, which is
therefore short of a whole frame and announces none over the bound. -/
structure Settled (r : SocketReader) : Prop where
  within : r.buffer.size ≤ r.bufferBound
  stuck : r.stopped = false → decodeFrameFrom r.buffer = .ok none

theorem Settled.fresh (limit : Nat) : ({ limit } : SocketReader).Settled where
  within := Nat.zero_le _
  stuck := fun _ => decodeFrameFrom_empty

/-- A reader that reads holds fewer bytes than a prefix and a largest
payload, so a message within the limit keeps it within the bound. -/
theorem Settled.append_within {r : SocketReader} (settled : r.Settled) (reading : r.stopped = false)
    {d : ByteArray} (fits : d.size ≤ r.limit) : (r.buffer ++ d).size ≤ r.bufferBound := by
  have short := size_lt_of_decodeFrameFrom_none (settled.stuck reading)
  rw [ByteArray.size_append]
  unfold bufferBound
  omega

theorem settled_fail {r : SocketReader} (within : r.buffer.size ≤ r.bufferBound) (inputs : List PeerInput)
    (e : ProtocolError) : (r.fail inputs e).1.Settled where
  within := within
  stuck := fun reading => absurd reading (by simp [SocketReader.fail])

/-- Reading a message keeps the reader's limit. -/
@[simp] theorem take_limit (r : SocketReader) (m : SocketMessage) : (r.take m).1.limit = r.limit := by
  unfold take
  split
  · rfl
  · cases m <;> dsimp only <;> (repeat' split) <;> rfl

/-- Reading one message keeps a reader settled: a binary message is added
only to a buffer that gives no frame, and every frame it completes is
taken off before the next message. -/
theorem Settled.take {r : SocketReader} (settled : r.Settled) (m : SocketMessage) :
    (r.take m).1.Settled := by
  unfold SocketReader.take
  split
  · exact settled
  · next reading =>
    cases m with
    | text s =>
      dsimp only
      split
      · exact settled_fail settled.within [] _
      · split
        · exact settled
        · exact settled_fail settled.within [] _
    | binary d =>
      dsimp only
      split
      · exact settled_fail settled.within [] _
      · next fits =>
        have appended := settled.append_within (Bool.eq_false_iff.mpr reading) (Nat.le_of_not_lt fits)
        obtain ⟨shorter, finished⟩ := decodeFrameStream_rest (r.buffer ++ d)
        -- name the three parts of the stream's answer before splitting on the failure
        generalize decoding : decodeFrameStream (r.buffer ++ d) = result at shorter finished
        obtain ⟨frames, rest, failure⟩ := result
        dsimp only at shorter finished ⊢
        cases failure with
        | some e =>
          exact settled_fail (r := { r with buffer := rest }) (Nat.le_trans shorter appended) _ e
        | none =>
          exact ⟨Nat.le_trans shorter appended, fun _ => finished rfl⟩
    | ping d => exact settled
    | pong d => exact settled
    | close => exact ⟨settled.within, fun stopped => absurd stopped (by simp)⟩

theorem Settled.readAll {r : SocketReader} (settled : r.Settled) (ms : List SocketMessage) :
    (r.readAll ms).1.Settled ∧ (r.readAll ms).1.limit = r.limit := by
  induction ms generalizing r with
  | nil => exact ⟨settled, rfl⟩
  | cons m rest inductionHypothesis =>
    obtain ⟨later, sameLimit⟩ := inductionHypothesis (settled.take m)
    rw [readAll_cons]
    exact ⟨later, sameLimit.trans (take_limit r m)⟩

end SocketReader

/-- Whatever messages a client sends, after each of them the reader of a
socket opened with limit `limit` holds at most `4 + 1 MiB - 1 + limit`
bytes; while it reads, no frame can be taken off what it holds, so the next
binary message is added to a buffer with no whole frame and no oversize
length in front, and with that message, within the limit, the buffer is
still within the bound. -/
theorem read_buffer_stays_bounded (limit : Nat) (ms : List SocketMessage) :
    let r := (({ limit } : SocketReader).readAll ms).1
    r.buffer.size ≤ lengthPrefixSize + maxFrameSize - 1 + limit ∧
      (r.stopped = false → decodeFrameFrom r.buffer = .ok none ∧
        ∀ d : ByteArray, d.size ≤ limit → (r.buffer ++ d).size ≤ lengthPrefixSize + maxFrameSize - 1 + limit) := by
  intro r
  obtain ⟨settled, sameLimit⟩ := (SocketReader.Settled.fresh limit).readAll ms
  have bound : r.bufferBound = lengthPrefixSize + maxFrameSize - 1 + limit := by
    rw [SocketReader.bufferBound, sameLimit]
  refine ⟨bound ▸ settled.within, fun reading => ⟨settled.stuck reading, fun d fits => ?_⟩⟩
  exact bound ▸ settled.append_within reading (sameLimit ▸ fits)

/-- Five bytes of a frame announcing five payload bytes stay buffered, short
of their frame, and a further message of up to the limit fits the bound. -/
theorem partial_frame_stays_buffered :
    let r := (({ limit := 16 } : SocketReader).readAll [.binary ⟨#[0, 0, 0, 5, 1]⟩]).1
    r.stopped = false ∧ r.buffer.size = 5 ∧ decodeFrameFrom r.buffer = .ok none ∧
      ∀ d : ByteArray, d.size ≤ 16 → (r.buffer ++ d).size ≤ lengthPrefixSize + maxFrameSize - 1 + 16 :=
  have reading : (({ limit := 16 } : SocketReader).readAll [.binary ⟨#[0, 0, 0, 5, 1]⟩]).1.stopped = false := by
    decide
  ⟨reading, by decide, (read_buffer_stays_bounded 16 [.binary ⟨#[0, 0, 0, 5, 1]⟩]).2 reading⟩

end Server

end Herald
