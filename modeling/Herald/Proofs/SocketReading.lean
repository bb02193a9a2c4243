import Herald.Proofs.BinaryFrames
import Herald.Server.Socket

set_option autoImplicit false

/-!
# Frames read from a socket

A client may cut the binary encodings of its frames into WebSocket messages
however it likes. Read one message after another, the messages hand the
session's reader exactly the frames whose bytes have all arrived, in order:
after each message, what is still buffered followed by the messages not yet
read is the encoding of the frames not yet handed over, and what is buffered
is shorter than the next of them (`readAll_binary`). Once every message is
read, every frame has been handed over and nothing is buffered. A text
message that holds a frame is handed over as that frame and leaves the
buffer as it was, wherever it falls among the binary ones
(`take_text_frame`).
-/

namespace Herald.Server

open Cluster Pack

namespace SocketReader

/-- Read messages one after another: the reader after them, and what each
message came to, in order. -/
def readAll (r : SocketReader) : List SocketMessage → SocketReader × List Intake
  | [] => (r, [])
  | m :: rest => (((r.take m).1.readAll rest).1, (r.take m).2 :: ((r.take m).1.readAll rest).2)

/-- The inputs the session's reader was handed, in order. -/
def handed (intakes : List Intake) : List PeerInput := intakes.flatMap (·.inputs)

@[simp] theorem readAll_nil (r : SocketReader) : r.readAll [] = (r, []) := rfl

@[simp] theorem handed_nil : handed [] = [] := rfl

@[simp] theorem handed_cons (i : Intake) (rest : List Intake) :
    handed (i :: rest) = i.inputs ++ handed rest := rfl

/-- A text message that holds a frame, read by a reader that has not
stopped, hands over that frame and nothing else, and leaves the reader,
its buffer included, as it was. -/
theorem take_text_frame (r : SocketReader) (reading : r.stopped = false) {s : String} {f : Frame}
    (fits : s.utf8ByteSize ≤ r.limit) (decodes : decodeFrameText s = .ok f) :
    r.take (.text s) = (r, { inputs := [.frame f] }) := by
  unfold take
  dsimp only
  rw [reading, if_neg Bool.false_ne_true, if_neg (Nat.not_lt.mpr fits), decodes]

/-- A binary message that, after what is buffered, completes some frames and
leaves a part too short to be taken, hands over those frames and keeps
that part. -/
theorem take_binary_frames (r : SocketReader) (reading : r.stopped = false) {d : ByteArray}
    (fits : d.size ≤ r.limit) {fs : List Frame} {bs : List ByteArray}
    (encoded : List.Forall₂ (fun f b => f.Representable ∧ encodeFrameBinary f = .ok b) fs bs)
    {tail : ByteArray} (stream : r.buffer ++ d = concat id bs ++ tail)
    (stuck : decodeFrameFrom tail = .ok none) :
    r.take (.binary d) = ({ r with buffer := tail }, { inputs := fs.map .frame }) := by
  unfold take
  dsimp only
  rw [reading, if_neg Bool.false_ne_true, if_neg (Nat.not_lt.mpr fits), stream,
    decodeFrameStream_concat encoded stuck]

theorem readAll_cons (r : SocketReader) (m : SocketMessage) (rest : List SocketMessage) :
    r.readAll (m :: rest) =
      (((r.take m).1.readAll rest).1, (r.take m).2 :: ((r.take m).1.readAll rest).2) := rfl

/-- Reading binary messages, each within the limit, that carry after what is
buffered the encodings of some frames: after the first `j` of them, the
frames handed over are the first `k`, where what is then buffered, followed
by the messages left, encodes the frames after the first `k`, and is shorter
than the next of them. -/
theorem readAll_binary {fs : List Frame} {bs : List ByteArray}
    (encoded : List.Forall₂ (fun f b => f.Representable ∧ encodeFrameBinary f = .ok b) fs bs)
    (ms : List ByteArray) (r : SocketReader) (reading : r.stopped = false)
    (fit : ∀ m ∈ ms, m.size ≤ r.limit) (carried : r.buffer ++ concat id ms = concat id bs)
    (short : ∀ b ∈ bs.head?, r.buffer.size < b.size) (j : Nat) :
    ∃ k, handed (r.readAll ((ms.take j).map .binary)).2 = (fs.take k).map .frame ∧
      (r.readAll ((ms.take j).map .binary)).1.stopped = false ∧
      (r.readAll ((ms.take j).map .binary)).1.limit = r.limit ∧
      (r.readAll ((ms.take j).map .binary)).1.buffer ++ concat id (ms.drop j) = concat id (bs.drop k) ∧
      ∀ b ∈ (bs.drop k).head?, (r.readAll ((ms.take j).map .binary)).1.buffer.size < b.size := by
  -- one message at a time: it completes the frames its bytes reach the end of
  induction ms generalizing r fs bs j with
  | nil =>
      refine ⟨0, ?_⟩
      simp only [List.take_nil, List.map_nil, readAll_nil, List.drop_nil, List.drop_zero]
      exact ⟨rfl, reading, trivial, carried, short⟩
  | cons m rest inductionHypothesis =>
      cases j with
      | zero =>
          refine ⟨0, ?_⟩
          simp only [List.take_zero, List.map_nil, readAll_nil, List.drop_zero]
          exact ⟨rfl, reading, trivial, carried, short⟩
      | succ j =>
          rw [concat_cons, id, ← ByteArray.append_assoc] at carried
          obtain ⟨k₁, tail, stream, left, tailShort, stuck⟩ := concat_split encoded carried
          have taken := take_binary_frames r reading (fit m List.mem_cons_self)
            (List.forall₂_take k₁ encoded) stream stuck
          obtain ⟨k₂, handedRest, stillReading, sameLimit, leftRest, shortRest⟩ :=
            inductionHypothesis (List.forall₂_drop k₁ encoded) { r with buffer := tail } reading
              (fun m' listed => fit m' (List.mem_cons_of_mem m listed)) left tailShort j
          refine ⟨k₁ + k₂, ?_, ?_, ?_, ?_, ?_⟩
          · rw [List.take_succ_cons, List.map_cons, readAll_cons, taken, handed_cons, handedRest,
              List.take_add, List.map_append]
          · rw [List.take_succ_cons, List.map_cons, readAll_cons, taken]
            exact stillReading
          · rw [List.take_succ_cons, List.map_cons, readAll_cons, taken]
            exact sameLimit
          · rw [List.take_succ_cons, List.map_cons, readAll_cons, taken, List.drop_succ_cons, leftRest,
              List.drop_drop]
          · rw [List.take_succ_cons, List.map_cons, readAll_cons, taken, ← List.drop_drop]
            exact shortRest

end SocketReader

/-- Binary messages that cut the encodings of frames one after another at any
points, each message within the reader's limit (empty ones included), read
from the start of a socket: after each message, the frames handed over are
the first ones, exactly those whose bytes have all arrived, what is buffered
is the start of the next frame, and a text message that holds a frame would
be handed over as that frame with the reader left as it was; after the last
message every frame has been handed over, in order, nothing is buffered,
and the reader still reads. -/
theorem binary_messages_hand_over_frames {fs : List Frame} {bs : List ByteArray}
    (encoded : List.Forall₂ (fun f b => f.Representable ∧ encodeFrameBinary f = .ok b) fs bs)
    (ms : List ByteArray) (cut : concat id ms = concat id bs) (limit : Nat)
    (fit : ∀ m ∈ ms, m.size ≤ limit) :
    (∀ j, ∃ k,
      let read := ({ limit } : SocketReader).readAll ((ms.take j).map .binary)
      SocketReader.handed read.2 = (fs.take k).map .frame ∧
        read.1.buffer ++ concat id (ms.drop j) = concat id (bs.drop k) ∧
        (∀ b ∈ (bs.drop k).head?, read.1.buffer.size < b.size) ∧
        ∀ (s : String) (f : Frame), s.utf8ByteSize ≤ limit → decodeFrameText s = .ok f →
          read.1.take (.text s) = (read.1, { inputs := [.frame f] })) ∧
    let read := ({ limit } : SocketReader).readAll (ms.map .binary)
    SocketReader.handed read.2 = fs.map .frame ∧ read.1.buffer = .empty ∧ read.1.stopped = false := by
  -- an empty buffer is shorter than any encoded frame
  have start : ∀ b ∈ bs.head?, (({ limit } : SocketReader)).buffer.size < b.size := by
    intro b first
    cases encoded with
    | nil => cases first
    | cons frame _ =>
        rw [List.head?_cons, Option.mem_some_iff] at first
        subst first
        have long := size_encodeFrameBinary frame.2
        rw [ByteArray.size_empty]
        omega
  have run := SocketReader.readAll_binary encoded ms { limit } rfl fit
    (by rw [ByteArray.empty_append]; exact cut) start
  refine ⟨fun j => ?_, ?_⟩
  · obtain ⟨k, handed, reading, sameLimit, left, short⟩ := run j
    refine ⟨k, handed, left, short, fun s f fits decodes => ?_⟩
    exact SocketReader.take_text_frame _ reading (sameLimit ▸ fits) decodes
  · obtain ⟨k, handed, reading, -, left, short⟩ := run ms.length
    rw [List.take_length] at handed reading left short
    rw [List.drop_length, concat, List.foldr_nil, ByteArray.append_empty] at left
    -- what is left buffered is shorter than the next frame, so no frame is left
    have finished : bs.drop k = [] := by
      cases remaining : bs.drop k with
      | nil => rfl
      | cons b more =>
          rw [remaining, concat_cons, id] at left
          rw [remaining] at short
          have below := short b rfl
          have sizes := congrArg ByteArray.size left
          rw [ByteArray.size_append] at sizes
          omega
    have all : fs.take k = fs :=
      List.take_of_length_le (encoded.length_eq ▸ List.drop_eq_nil_iff.mp finished)
    rw [finished] at left
    exact ⟨all ▸ handed, left, reading⟩

/-- A ping and a pong, cut into a message of two bytes, one that ends inside
the pong's length, an empty one and the rest: both frames come out in
order and nothing stays buffered. -/
theorem ping_and_pong_cut_across_messages :
    let fs := [Frame.ping (some 7), Frame.pong none]
    let bs : List ByteArray :=
      [⟨#[0, 0, 0, 22, 130, 164, 116, 121, 112, 101, 164, 112, 105, 110, 103, 169, 116, 105, 109,
          101, 115, 116, 97, 109, 112, 7]⟩,
        ⟨#[0, 0, 0, 11, 129, 164, 116, 121, 112, 101, 164, 112, 111, 110, 103]⟩]
    let ms : List ByteArray :=
      [⟨#[0, 0]⟩,
        ⟨#[0, 22, 130, 164, 116, 121, 112, 101, 164, 112, 105, 110, 103, 169, 116, 105, 109, 101, 115,
          116, 97, 109, 112, 7, 0, 0, 0, 11]⟩,
        .empty, ⟨#[129, 164, 116, 121, 112, 101, 164, 112, 111, 110, 103]⟩]
    List.Forall₂ (fun f b => f.Representable ∧ encodeFrameBinary f = .ok b) fs bs ∧
      concat id ms = concat id bs ∧ (∀ m ∈ ms, m.size ≤ 32) ∧
      (∀ j, ∃ k,
        let read := ({ limit := 32 } : SocketReader).readAll ((ms.take j).map .binary)
        SocketReader.handed read.2 = (fs.take k).map .frame ∧
          read.1.buffer ++ concat id (ms.drop j) = concat id (bs.drop k) ∧
          (∀ b ∈ (bs.drop k).head?, read.1.buffer.size < b.size) ∧
          ∀ (s : String) (f : Frame), s.utf8ByteSize ≤ 32 → decodeFrameText s = .ok f →
            read.1.take (.text s) = (read.1, { inputs := [.frame f] })) ∧
      let read := ({ limit := 32 } : SocketReader).readAll (ms.map .binary)
      SocketReader.handed read.2 = fs.map .frame ∧ read.1.buffer = .empty ∧ read.1.stopped = false := by
  intro fs bs ms
  have encoded : List.Forall₂ (fun f b => f.Representable ∧ encodeFrameBinary f = .ok b) fs bs :=
    .cons ⟨fun _ seven => by simp at seven; omega, rfl⟩ (.cons ⟨fun _ absent => (nomatch absent), rfl⟩ .nil)
  have cut : concat id ms = concat id bs := rfl
  exact ⟨encoded, cut, by decide, binary_messages_hand_over_frames encoded ms cut 32 (by decide)⟩

end Herald.Server
