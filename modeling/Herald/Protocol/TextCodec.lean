import Herald.Json.Record
import Herald.Json.Write
import Herald.Protocol.Frame
import Herald.Protocol.Error

set_option autoImplicit false

/-!
Frames as JSON text messages.

Decoding reads the whole value first. An object has its `type` member taken
out (named twice is an error, naming an unknown kind is an error at that
member, and its absence is an error after the closing brace); an array
holds the kind first and the fields after it. Anything else is not a frame.
Only when the whole value has been read are the fields decoded for the
kind, and those errors carry no position. Text past the value is checked
last.
-/

namespace Herald

open Json ReadM

/-- How errors name what a frame is. -/
def frameExpecting : String := "internally tagged enum Frame"

/-- A frame kind named by its tag, with the unknown-variant error otherwise. -/
def FrameType.ofTag (s : String) : Except String FrameType :=
  match FrameType.all.find? (·.tag == s) with
  | some t => .ok t
  | none => .error (unknownVariant s FrameType.tags)

/-- The kind named at the reader's position. -/
def readFrameType : ReadM FrameType := readStringWith "variant identifier" FrameType.ofTag

/-- The members of a frame object, with the kind taken out. -/
def taggedMembers : Nat → Bool → Option FrameType → List (Content × Content) →
    ReadM (FrameType × Content)
  | 0, _, _, _ => failWith (missingField "type")
  | fuel + 1, first, tag, acc => do
    match ← nextKey first with
    | none =>
      match tag with
      | some t => pure (t, .map acc.reverse)
      | none => failWith (missingField "type")
    | some k =>
      if k == "type" then
        if tag.isSome then failWith (duplicateField "type")
        colon
        let t ← readFrameType
        taggedMembers fuel false (some t) acc
      else
        colon
        let v ← readContent 1000000000
        taggedMembers fuel false tag ((.str k, v) :: acc)

/-- The items of an array after the first. -/
def restItems : Nat → List Content → ReadM (List Content)
  | 0, acc => pure acc.reverse
  | fuel + 1, acc => do
    if ← nextItem false then
      let v ← readContent 1000000000
      restItems fuel (v :: acc)
    else pure acc.reverse

/-- The kind of a frame and its remaining content. -/
def readTaggedFrame : ReadM (FrameType × Content) := located do
  let b ← input
  match ← skipBlanks with
  | none => peekError Reason.eofValue
  | some 123 => do
    enterNesting
    eat
    let r ← thenAlways (taggedMembers (b.size + 1) true none []) endObject
    leaveNesting
    pure r
  | some 91 => do
    enterNesting
    eat
    let r ← thenAlways (do
        if ← nextItem true then
          let t ← readFrameType
          let rest ← restItems (b.size + 1) []
          pure (t, Content.seq rest)
        else failWith (missingField "type")) endList
    leaveNesting
    pure r
  | some _ => do
    let v ← readContent 4
    failWith (invalidType Dialect.json v frameExpecting)

/-- Decode a frame from its JSON text. -/
def decodeFrameText (text : String) : Except ProtocolError Frame :=
  let bytes := text.toUTF8
  if bytes.size > maxFrameSize then .error (.frameTooLarge bytes.size)
  else
    let r := runReader (do
      let (t, c) ← readTaggedFrame
      let f ← ofExcept (Frame.decodeFields t Dialect.json c)
      finish
      pure f) bytes
    r.mapError fun e => .json e.render

def Frame.toJson (f : Frame) : Json := ofContent (f.encode true)

def encodeFrameText (f : Frame) : Except ProtocolError String :=
  let text := render f.toJson
  if text.utf8ByteSize > maxFrameSize then .error (.frameTooLarge text.utf8ByteSize) else .ok text

/-- Decode an event from JSON text: the value is read whole, then taken as a
message or a notification. -/
def decodeEventText (text : String) : Except ReadError Event :=
  runReader (do
    let c ← readContent 1000000000
    let e ← ofExcept (Event.decoder Dialect.json c)
    finish
    pure e) text.toUTF8

def Event.toJson (e : Event) : Json := ofContent (e.encode true)

def Message.toJson (m : Message) : Json := ofContent (m.encode true)

def Notification.toJson (n : Notification) : Json := ofContent (n.encode true)

end Herald
