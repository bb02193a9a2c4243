import Herald.Protocol.Error

set_option autoImplicit false

/-!
How frames travel on a client connection: as JSON text messages or as
length-prefixed binary messages. A connection names its format `text`
(also `json`) or `binary` (also `msgpack`), matched exactly.
-/

namespace Herald

/-- How frames are carried on a client connection. -/
inductive WireFormat where
  | text
  | binary
  deriving DecidableEq, Repr, Inhabited

namespace WireFormat

def name : WireFormat → String
  | .text => "text"
  | .binary => "binary"

def parse (s : String) : Except ProtocolError WireFormat :=
  match s with
  | "text" | "json" => .ok .text
  | "binary" | "msgpack" => .ok .binary
  | other => .error (.invalid s!"unknown wire format: {other}")

end WireFormat

end Herald
