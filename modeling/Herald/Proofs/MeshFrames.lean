import Herald.Proofs.BufferedDecoding
import Herald.Proofs.ChatSend

set_option autoImplicit false

/-!
# Mesh frames

A mesh frame is the subject's length in two big-endian bytes, the subject,
and the payload.  Reading a frame gives back the subject and payload it was
written from, and a frame that reads is the writing of what it reads as, so
each subject and payload has one frame (`mesh_frames_read_back`).  Writing
fails only for a subject longer than two bytes can count; reading fails only
for a frame too short for its length bytes or for its subject, or with a
subject that is not UTF-8.

A mesh publishes by offering the one frame it wrote to each peer link in
turn, none waiting on another (`Mesh.publish_eq`).  An envelope the
backplane sends is at most 1 MiB, so its frame is far within the 2 MiB a
peer's length-delimited codec takes.
-/

namespace Herald.Cluster

open Pack

theorem toUTF8_of_fromUTF8? {b : ByteArray} {s : String} (read : String.fromUTF8? b = some s) :
    s.toUTF8 = b := by
  unfold String.fromUTF8? at read
  split at read
  · cases read
    rfl
  · cases read

theorem beBytes_beNat {b : ByteArray} (two : b.size = 2) : ByteArray.mk (beBytes 2 (beNat b)).toArray = b := by
  obtain ⟨⟨bytes⟩⟩ := b
  match bytes, two with
  | [high, low], _ =>
    have number : beNat ⟨⟨[high, low]⟩⟩ = high.toNat * 256 + low.toNat := by
      rw [beNat, byteArray_foldl]
      simp
    have digits : beBytes 2 (high.toNat * 256 + low.toNat) =
        [((high.toNat * 256 + low.toNat) / 256 % 256).toUInt8, ((high.toNat * 256 + low.toNat) % 256).toUInt8] := by
      simp [beBytes, List.range_succ]
    have highDigit : (high.toNat * 256 + low.toNat) / 256 % 256 = high.toNat := by
      have := high.toNat_lt; have := low.toNat_lt; omega
    have lowDigit : (high.toNat * 256 + low.toNat) % 256 = low.toNat := by
      have := low.toNat_lt; omega
    rw [number, digits, highDigit, lowDigit]
    simp [Nat.toUInt8]

theorem size_lengthBytes (n : Nat) : (ByteArray.mk (beBytes 2 n).toArray).size = 2 := by
  simp [length_beBytes]

theorem encodeMeshFrame_eq {subject : String} (fits : subject.utf8ByteSize ≤ meshSubjectLimit) (payload : ByteArray) :
    encodeMeshFrame subject payload =
      .ok (ByteArray.mk (beBytes 2 subject.utf8ByteSize).toArray ++ subject.toUTF8 ++ payload) :=
  if_neg (Nat.not_lt.mpr fits)

theorem size_encodeMeshFrame {subject : String} {payload frame : ByteArray}
    (encoded : encodeMeshFrame subject payload = .ok frame) : frame.size = 2 + subject.utf8ByteSize + payload.size := by
  unfold encodeMeshFrame at encoded
  dsimp only at encoded
  split at encoded
  · cases encoded
  · cases encoded
    simp [ByteArray.size_append, length_beBytes]

theorem encodeMeshFrame_fails_iff (subject : String) (payload : ByteArray) :
    (encodeMeshFrame subject payload).toOption = none ↔ meshSubjectLimit < subject.utf8ByteSize := by
  unfold encodeMeshFrame
  dsimp only
  split
  · next long => exact ⟨fun _ => long, fun _ => rfl⟩
  · next fits => exact ⟨fun refused => absurd refused (by simp [Except.toOption]), fun long => absurd long fits⟩

theorem decodeMeshFrame_encode {subject : String} (fits : subject.utf8ByteSize ≤ meshSubjectLimit)
    (payload : ByteArray) :
    decodeMeshFrame (ByteArray.mk (beBytes 2 subject.utf8ByteSize).toArray ++ subject.toUTF8 ++ payload) =
      .ok (subject, payload) := by
  generalize lengthBytes : ByteArray.mk (beBytes 2 subject.utf8ByteSize).toArray = header
  have two : header.size = 2 := lengthBytes ▸ size_lengthBytes _
  have announced : beNat ((header ++ subject.toUTF8 ++ payload).extract 0 2) = subject.utf8ByteSize := by
    rw [ByteArray.append_assoc, ByteArray.extract_append_eq_left two.symm, ← lengthBytes, beNat_beBytes]
    unfold meshSubjectLimit at fits
    omega
  have size : (header ++ subject.toUTF8 ++ payload).size = 2 + subject.utf8ByteSize + payload.size := by
    simp [ByteArray.size_append, two]
  have subjectBytes : (header ++ subject.toUTF8 ++ payload).extract 2 (2 + subject.utf8ByteSize) = subject.toUTF8 := by
    have middle := extract_middle header subject.toUTF8 payload
    rwa [two, size_toUTF8] at middle
  have rest : (header ++ subject.toUTF8 ++ payload).extract (2 + subject.utf8ByteSize)
      (header ++ subject.toUTF8 ++ payload).size = payload := by
    apply ByteArray.extract_append_eq_right <;> simp [ByteArray.size_append, two]
  unfold decodeMeshFrame
  rw [if_neg (by omega)]
  dsimp only
  rw [announced, if_neg (by omega), subjectBytes, fromUTF8?_toUTF8]
  dsimp only
  rw [rest]

theorem encodeMeshFrame_of_decode {frame : ByteArray} {subject : String} {payload : ByteArray}
    (decoded : decodeMeshFrame frame = .ok (subject, payload)) : encodeMeshFrame subject payload = .ok frame := by
  unfold decodeMeshFrame at decoded
  by_cases short : frame.size < 2
  · rw [if_pos short] at decoded
    cases decoded
  rw [if_neg short] at decoded
  dsimp only at decoded
  generalize announced : beNat (frame.extract 0 2) = length at decoded
  by_cases truncated : frame.size - 2 < length
  · rw [if_pos truncated] at decoded
    cases decoded
  rw [if_neg truncated] at decoded
  cases read : String.fromUTF8? (frame.extract 2 (2 + length)) with
  | none =>
      rw [read] at decoded
      cases decoded
  | some s =>
      rw [read] at decoded
      cases decoded
      have bytes : subject.toUTF8 = frame.extract 2 (2 + length) := toUTF8_of_fromUTF8? read
      have counted : subject.utf8ByteSize = length := by
        rw [← size_toUTF8, bytes, ByteArray.size_extract]
        omega
      -- the length bytes are the frame's first two bytes
      have header : ByteArray.mk (beBytes 2 length).toArray = frame.extract 0 2 := by
        rw [← announced]
        exact beBytes_beNat (by rw [ByteArray.size_extract]; omega)
      have small : length < 256 ^ 2 := by
        have bound := beNat_lt (frame.extract 0 2)
        rw [announced, ByteArray.size_extract, Nat.min_eq_left (by omega)] at bound
        exact bound
      rw [encodeMeshFrame_eq (by unfold meshSubjectLimit; omega), counted, header, bytes]
      congr 1
      rw [ByteArray.extract_append_extract, Nat.zero_min, Nat.max_eq_right (by omega),
        ByteArray.extract_append_extract, Nat.zero_min, Nat.max_eq_right (by omega), ByteArray.extract_zero_size]

/-- Reading fails exactly on a frame too short for its length bytes, one
whose subject runs past its end, and one whose subject is not UTF-8. -/
theorem decodeMeshFrame_fails_iff (frame : ByteArray) :
    (decodeMeshFrame frame).toOption = none ↔
      frame.size < 2 ∨ frame.size - 2 < beNat (frame.extract 0 2) ∨
        ¬(frame.extract 2 (2 + beNat (frame.extract 0 2))).IsValidUTF8 := by
  unfold decodeMeshFrame
  by_cases short : frame.size < 2
  · rw [if_pos short]
    exact ⟨fun _ => .inl short, fun _ => rfl⟩
  rw [if_neg short]
  dsimp only
  by_cases truncated : frame.size - 2 < beNat (frame.extract 0 2)
  · rw [if_pos truncated]
    exact ⟨fun _ => .inr (.inl truncated), fun _ => rfl⟩
  rw [if_neg truncated]
  unfold String.fromUTF8?
  by_cases valid : (frame.extract 2 (2 + beNat (frame.extract 0 2))).IsValidUTF8
  · rw [dif_pos valid]
    simp [short, truncated, valid, Except.toOption]
  · rw [dif_neg valid]
    exact ⟨fun _ => .inr (.inr valid), fun _ => rfl⟩

/-! ## Publishing on a mesh -/

/-- A link after a frame was offered to it: the frame is queued when the
link takes it. -/
def offeredTo (frame : ByteArray) (link : String × Channel ByteArray) : String × Channel ByteArray :=
  match link.2.trySend frame with
  | .ok taken => (link.1, taken)
  | .error _ => link

/-- What offering a frame to a link answers: `QueueFull` with the link's
address when it is full, `ConnectionClosed` when it has stopped. -/
def offerResult (frame : ByteArray) (link : String × Channel ByteArray) : Except TransportError Unit :=
  match link.2.trySend frame with
  | .ok _ => .ok ()
  | .error .full => .error (.queueFull link.1)
  | .error .closed => .error .connectionClosed

theorem firstFailure_eq_none_iff {ε : Type} (results : List (Except ε Unit)) :
    firstFailure results = none ↔ ∀ r ∈ results, r = .ok () := by
  induction results with
  | nil => simp [firstFailure]
  | cons r rest inductionHypothesis =>
      cases r with
      | ok => simp [firstFailure, inductionHypothesis]
      | error e => simp [firstFailure]

theorem firstFailure_eq_some_iff {ε : Type} (results : List (Except ε Unit)) (e : ε) :
    firstFailure results = some e ↔
      ∃ tried rest, results = tried ++ .error e :: rest ∧ ∀ r ∈ tried, r = .ok () := by
  induction results with
  | nil => simp [firstFailure]
  | cons r rest inductionHypothesis =>
      cases r with
      | ok =>
          rw [firstFailure, inductionHypothesis]
          constructor
          · rintro ⟨tried, later, split, passed⟩
            exact ⟨.ok () :: tried, later, by rw [split]; rfl, by simpa using passed⟩
          · rintro ⟨tried, later, split, passed⟩
            cases tried with
            | nil => cases split
            | cons first tried =>
                obtain ⟨-, rfl⟩ := List.cons.inj split
                exact ⟨tried, later, rfl, fun r held => passed r (List.mem_cons_of_mem _ held)⟩
      | error failure =>
          simp only [firstFailure, Option.some.injEq]
          constructor
          · rintro rfl
            exact ⟨[], rest, rfl, by simp⟩
          · rintro ⟨tried, later, split, passed⟩
            cases tried with
            | nil => exact (Except.error.inj (List.cons.inj split).1)
            | cons first tried =>
                have := passed first List.mem_cons_self
                rw [← (List.cons.inj split).1] at this
                cases this

/-- Offering a frame to the links offers it once to each, whatever the
others answered, and keeps the first refusal. -/
theorem offerLinks_eq (frame : ByteArray) (links : List (String × Channel ByteArray)) :
    Mesh.offerLinks frame links = (links.map (offeredTo frame), firstFailure (links.map (offerResult frame))) := by
  induction links with
  | nil => rfl
  | cons link rest inductionHypothesis =>
      obtain ⟨addr, queue⟩ := link
      simp only [Mesh.offerLinks, inductionHypothesis, List.map_cons, offeredTo, offerResult]
      cases queue.trySend frame with
      | ok taken => rfl
      | error refusal => cases refusal <;> rfl

/-- A mesh publishes by writing one frame and offering it to every link in
turn; the first refusal is the answer. -/
theorem Mesh.publish_eq (m : Mesh) (subject : String) (payload : ByteArray) :
    m.publish subject payload =
      match encodeMeshFrame subject payload with
      | .error e => (m, .error e)
      | .ok frame =>
        ({ m with links := m.links.map (offeredTo frame) },
          match firstFailure (m.links.map (offerResult frame)) with
          | some e => .error e
          | none => .ok ()) := by
  unfold Mesh.publish
  cases encodeMeshFrame subject payload with
  | error e => rfl
  | ok frame =>
      -- split on the first refusal so both sides' matches reduce
      cases failure : firstFailure (m.links.map (offerResult frame)) <;>
        simp only [offerLinks_eq, failure]

theorem size_of_encode {env : Envelope} {text : String} (encoded : env.encode = .ok text) :
    text.toUTF8.size ≤ maxFrameSize := by
  unfold Envelope.encode at encoded
  dsimp only at encoded
  split at encoded
  · cases encoded
  · next fits =>
      cases encoded
      rw [size_toUTF8]
      exact Nat.le_of_not_lt fits

/-- Mesh frames read back, and are the only writing of what they hold:
reading a written frame gives its subject and payload, and a frame that
reads is written from what it reads as; writing fails exactly for a subject
over 65535 bytes, and reading exactly for a frame too short for its length
bytes or its subject, or with a subject that is not UTF-8; and the one frame
a mesh queues when it publishes an envelope the backplane could send, under
a subject that fits, is within the 2 MiB a peer's codec takes. -/
theorem mesh_frames_read_back :
    (∀ (subject : String) (payload : ByteArray), subject.utf8ByteSize ≤ meshSubjectLimit →
        ∃ frame, encodeMeshFrame subject payload = .ok frame ∧ decodeMeshFrame frame = .ok (subject, payload)) ∧
    (∀ (frame : ByteArray) (subject : String) (payload : ByteArray),
        decodeMeshFrame frame = .ok (subject, payload) → encodeMeshFrame subject payload = .ok frame) ∧
    (∀ (subject : String) (payload : ByteArray),
        (encodeMeshFrame subject payload).toOption = none ↔ meshSubjectLimit < subject.utf8ByteSize) ∧
    (∀ frame : ByteArray, (decodeMeshFrame frame).toOption = none ↔
        frame.size < 2 ∨ frame.size - 2 < beNat (frame.extract 0 2) ∨
          ¬(frame.extract 2 (2 + beNat (frame.extract 0 2))).IsValidUTF8) ∧
    ∀ (env : Envelope) (text subject : String) (m : Mesh), env.encode = .ok text →
      subject.utf8ByteSize ≤ meshSubjectLimit →
      ∃ frame, encodeMeshFrame subject text.toUTF8 = .ok frame ∧ frame.size ≤ maxMeshFrame ∧
        (m.publish subject text.toUTF8).1.links = m.links.map (offeredTo frame) := by
  refine ⟨fun subject payload fits => ?_, fun _ _ _ decoded => encodeMeshFrame_of_decode decoded,
    encodeMeshFrame_fails_iff, decodeMeshFrame_fails_iff, fun env text subject m encoded fits => ?_⟩
  · exact ⟨_, encodeMeshFrame_eq fits payload, decodeMeshFrame_encode fits payload⟩
  · refine ⟨_, encodeMeshFrame_eq fits _, ?_, ?_⟩
    · -- two length bytes, a subject of at most 65535 bytes and at most 1 MiB of text
      have sized := size_encodeMeshFrame (encodeMeshFrame_eq fits text.toUTF8)
      have payload := size_of_encode encoded
      unfold meshSubjectLimit at fits
      unfold maxFrameSize at payload
      unfold maxMeshFrame
      omega
    · rw [Mesh.publish_eq, encodeMeshFrame_eq fits]

end Herald.Cluster
