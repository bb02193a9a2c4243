set_option autoImplicit false

/-!
What can go wrong when frames are encoded or decoded.

A frame, as text or as binary payload, may be at most 1 MiB
(`maxFrameSize` bytes). A binary frame starts with a 4-byte big-endian
length, so a buffer may also hold too little of one.
-/

namespace Herald

def maxFrameSize : Nat := 1048576

/-- The length prefix of a binary frame, in bytes. -/
def lengthPrefixSize : Nat := 4

/-- A frame-level failure. -/
inductive ProtocolError where
  | frameTooLarge (size : Nat)
  | incomplete (needed : Nat)
  | decode (reason : String)
  | json (reason : String)
  | invalid (reason : String)
  deriving DecidableEq, Repr, Inhabited

namespace ProtocolError

def kind : ProtocolError → String
  | .frameTooLarge _ => "FrameTooLarge"
  | .incomplete _ => "Incomplete"
  | .decode _ => "Decode"
  | .json _ => "Json"
  | .invalid _ => "Invalid"

def message : ProtocolError → String
  | .frameTooLarge n => s!"Frame size {n} exceeds maximum {maxFrameSize}"
  | .incomplete n => s!"Incomplete frame: need {n} more bytes"
  | .decode r => s!"Decoding error: {r}"
  | .json r => s!"JSON error: {r}"
  | .invalid r => s!"Invalid frame: {r}"

end ProtocolError

end Herald
