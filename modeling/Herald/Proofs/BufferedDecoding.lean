import Mathlib
import Herald.Proofs.BinaryFrames

set_option autoImplicit false

/-!
# Taking a frame off a buffer

Two readers look at the front of a buffer of binary frames and make the same
checks: its first four bytes are a big-endian payload length `L`, which may
not pass the 1 MiB bound, and the buffer must hold those four bytes and the
`L` after them. `decodeFrameBinary` answers the frame or why there is none.
`decodeFrameFrom` answers the same and says what is left of the buffer: a
buffer that holds too little yields nothing and is kept, one that announces
too large a payload is refused and kept, and one whose payload was read,
whether it decodes or not, loses exactly its first `4 + L` bytes.

Both are the one cut of the buffer (`frameCut`) read with two conventions,
so each answer of one determines the other's
(`frame_taking_agrees_with_decoding`). Every byte either reads is in the
buffer: the length comes from four bytes, so `L < 2 ^ 32`, and the payload is
read only once `L` is within the bound and all `4 + L` bytes are there.
-/

namespace Herald

namespace Pack

theorem beNat_lt (b : ByteArray) : beNat b < 256 ^ b.size := by
  rw [beNat, byteArray_foldl]
  -- folding in one more digit multiplies the bound by 256
  have bound : ∀ (digits : List UInt8) (acc : Nat),
      digits.foldl (fun n x => n * 256 + x.toNat) acc < (acc + 1) * 256 ^ digits.length := by
    intro digits
    induction digits with
    | nil => intro acc; simp
    | cons x rest inductionHypothesis =>
      intro acc
      have digit : x.toNat < 256 := x.toNat_lt
      calc (x :: rest).foldl (fun n x => n * 256 + x.toNat) acc
          = rest.foldl (fun n x => n * 256 + x.toNat) (acc * 256 + x.toNat) := rfl
        _ < (acc * 256 + x.toNat + 1) * 256 ^ rest.length := inductionHypothesis _
        _ ≤ (acc + 1) * 256 * 256 ^ rest.length := Nat.mul_le_mul_right _ (by omega)
        _ = (acc + 1) * 256 ^ (x :: rest).length := by rw [List.length_cons, pow_succ']; ring
  simpa using bound b.data.toList 0

end Pack

theorem announcedLength_lt (buf : ByteArray) : announcedLength buf < 2 ^ 32 := by
  have within : (buf.extract 0 4).size ≤ 4 := by
    rw [ByteArray.size_extract]
    omega
  calc announcedLength buf < 256 ^ (buf.extract 0 4).size := Pack.beNat_lt _
    _ ≤ 256 ^ 4 := Nat.pow_le_pow_right (by decide) within
    _ = 2 ^ 32 := by norm_num

theorem extract_append_rest (buf : ByteArray) {k : Nat} (within : k ≤ buf.size) :
    buf.extract 0 k ++ buf.extract k buf.size = buf := by
  rw [ByteArray.extract_append_extract, Nat.zero_min, Nat.max_eq_right within,
    ByteArray.extract_zero_size]

/-- Where a buffer's first frame stands: `short` of its length prefix or of
its payload by `needed` bytes, announcing a payload of `length` bytes over
the bound, or `whole`, with its payload and the bytes after it. -/
inductive FrameCut where
  | short (needed : Nat)
  | tooLarge (length : Nat)
  | whole (payload rest : ByteArray)

/-- How a buffer's first frame is cut, read off its length prefix. -/
def frameCut (buf : ByteArray) : FrameCut :=
  if buf.size < lengthPrefixSize then .short (lengthPrefixSize - buf.size)
  else if announcedLength buf > maxFrameSize then .tooLarge (announcedLength buf)
  else if buf.size < lengthPrefixSize + announcedLength buf then
    .short (lengthPrefixSize + announcedLength buf - buf.size)
  else
    .whole (buf.extract lengthPrefixSize (lengthPrefixSize + announcedLength buf))
      (buf.extract (lengthPrefixSize + announcedLength buf) buf.size)

/-- A whole frame's payload is the `L` bytes after the prefix, within the
bound and within the buffer, and the rest is what follows them. -/
theorem frameCut_whole {buf payload rest : ByteArray} (cut : frameCut buf = .whole payload rest) :
    lengthPrefixSize + announcedLength buf ≤ buf.size ∧ announcedLength buf ≤ maxFrameSize ∧
      payload = buf.extract lengthPrefixSize (lengthPrefixSize + announcedLength buf) ∧
      rest = buf.extract (lengthPrefixSize + announcedLength buf) buf.size := by
  unfold frameCut at cut
  by_cases short : buf.size < lengthPrefixSize
  · rw [if_pos short] at cut
    cases cut
  · rw [if_neg short] at cut
    by_cases large : announcedLength buf > maxFrameSize
    · rw [if_pos large] at cut
      cases cut
    · rw [if_neg large] at cut
      by_cases incompleteBody : buf.size < lengthPrefixSize + announcedLength buf
      · rw [if_pos incompleteBody] at cut
        cases cut
      · rw [if_neg incompleteBody] at cut
        obtain ⟨rfl, rfl⟩ := FrameCut.whole.inj cut
        exact ⟨by omega, by omega, rfl, rfl⟩

/-- Decoding a buffer is its cut read as an answer: how many bytes are
missing, too large a payload, or the payload's decoding. -/
theorem decodeFrameBinary_eq_cut (buf : ByteArray) :
    decodeFrameBinary buf =
      match frameCut buf with
      | .short needed => .error (.incomplete needed)
      | .tooLarge length => .error (.frameTooLarge length)
      | .whole payload _ => decodeFramePayload payload := by
  unfold decodeFrameBinary frameCut
  dsimp only
  by_cases short : buf.size < lengthPrefixSize
  · rw [if_pos short, if_pos short]
  · rw [if_neg short, if_neg short]
    by_cases large : announcedLength buf > maxFrameSize
    · rw [if_pos large, if_pos large]
    · rw [if_neg large, if_neg large]
      by_cases incompleteBody : buf.size < lengthPrefixSize + announcedLength buf
      · rw [if_pos incompleteBody, if_pos incompleteBody]
      · rw [if_neg incompleteBody, if_neg incompleteBody]

/-- Taking a frame off a buffer is its cut read with the buffer in hand:
nothing yet, too large a payload with the buffer kept, or the payload's
decoding with the rest. -/
theorem decodeFrameFrom_eq_cut (buf : ByteArray) :
    decodeFrameFrom buf =
      match frameCut buf with
      | .short _ => .ok none
      | .tooLarge length => .error (.frameTooLarge length, buf)
      | .whole payload rest =>
        ((decodeFramePayload payload).map fun f => some (f, rest)).mapError (·, rest) := by
  unfold decodeFrameFrom frameCut
  dsimp only
  by_cases short : buf.size < lengthPrefixSize
  · rw [if_pos short, if_pos short]
  · rw [if_neg short, if_neg short]
    by_cases large : announcedLength buf > maxFrameSize
    · rw [if_pos large, if_pos large]
    · rw [if_neg large, if_neg large]
      by_cases incompleteBody : buf.size < lengthPrefixSize + announcedLength buf
      · rw [if_pos incompleteBody, if_pos incompleteBody]
      · rw [if_neg incompleteBody, if_neg incompleteBody]
        dsimp only
        -- both sides read the same decoding; unfolding it instead is slow
        cases decodeFramePayload (buf.extract lengthPrefixSize (lengthPrefixSize + announcedLength buf)) <;>
          rfl

/-- A payload that does not decode fails as a decoding error, never as a
missing or oversized frame. -/
theorem decodeFramePayload_error {payload : ByteArray} {e : ProtocolError}
    (failed : decodeFramePayload payload = .error e) : ∃ reason, e = .decode reason := by
  unfold decodeFramePayload at failed
  simp only [Except.mapError] at failed
  split at failed
  · next reason _ => exact ⟨reason, (Except.error.inj failed).symm⟩
  · cases failed

/-- Taking a frame off a buffer answers what decoding the buffer answers: the
frame, with the buffer less its first `4 + L` bytes; nothing, where decoding
finds the frame incomplete; too large a payload, with the buffer kept; and a
payload that fails to decode fails the same way, its `4 + L` bytes taken.
The length read fits 32 bits, and whenever the payload is read, `L` is
within the bound, the `4 + L` bytes are in the buffer, and decoding reads
exactly the `L` after the prefix. -/
theorem frame_taking_agrees_with_decoding (buf : ByteArray) :
    decodeFrameFrom buf =
        (match decodeFrameBinary buf with
         | .ok f => .ok (some (f, buf.extract (lengthPrefixSize + announcedLength buf) buf.size))
         | .error (.incomplete _) => .ok none
         | .error (.frameTooLarge length) => .error (.frameTooLarge length, buf)
         | .error e => .error (e, buf.extract (lengthPrefixSize + announcedLength buf) buf.size)) ∧
      announcedLength buf < 2 ^ 32 ∧
      ((∀ needed, decodeFrameBinary buf ≠ .error (.incomplete needed)) →
        (∀ length, decodeFrameBinary buf ≠ .error (.frameTooLarge length)) →
        lengthPrefixSize + announcedLength buf ≤ buf.size ∧ announcedLength buf ≤ maxFrameSize ∧
        decodeFrameBinary buf =
          decodeFramePayload (buf.extract lengthPrefixSize (lengthPrefixSize + announcedLength buf)) ∧
        buf.extract 0 (lengthPrefixSize + announcedLength buf) ++
          buf.extract (lengthPrefixSize + announcedLength buf) buf.size = buf) := by
  refine ⟨?_, announcedLength_lt buf, fun notShort notLarge => ?_⟩
  · rw [decodeFrameFrom_eq_cut, decodeFrameBinary_eq_cut]
    cases cut : frameCut buf with
    | short needed => rfl
    | tooLarge length => rfl
    | whole payload after =>
      obtain ⟨-, -, -, rfl⟩ := frameCut_whole cut
      dsimp only
      cases decoded : decodeFramePayload payload with
      | ok f => rfl
      | error e =>
        obtain ⟨reason, rfl⟩ := decodeFramePayload_error decoded
        rfl
  · rw [decodeFrameBinary_eq_cut] at notShort notLarge ⊢
    cases cut : frameCut buf with
    | short needed => simp [cut] at notShort
    | tooLarge length => simp [cut] at notLarge
    | whole payload after =>
      obtain ⟨within, bounded, rfl, -⟩ := frameCut_whole cut
      exact ⟨within, bounded, rfl, extract_append_rest buf within⟩

/-- A prefix announcing one byte over the bound is refused, and the buffer kept. -/
example : decodeFrameFrom ⟨#[0, 16, 0, 1]⟩ = .error (.frameTooLarge 1048577, ⟨#[0, 16, 0, 1]⟩) := by
  decide

end Herald
