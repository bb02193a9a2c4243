set_option autoImplicit false

/-!
Fan-out keys.

A topic is a chat room or one user's notification feed, written `room:<id>`
or `user:<id>`. Identifiers are checked before use: not empty, at most 256
bytes, and only printable ASCII other than the space.
-/

namespace Herald

def maxTopicIdLength : Nat := 256

/-- Check a room or user identifier; the error is the first rule it breaks. -/
def validateTopicId (id : String) : Except String Unit :=
  if id.isEmpty then .error "identifier cannot be empty"
  else if id.utf8ByteSize > maxTopicIdLength then .error "identifier too long"
  else if id.toList.all (fun c => c.toNat < 127 && c.toNat > 32) then .ok ()
  else .error "identifier contains invalid characters"

/-- A fan-out key. -/
inductive Topic where
  | room (id : String)
  | user (id : String)
  deriving DecidableEq, Repr, Inhabited

namespace Topic

def id : Topic → String
  | .room i | .user i => i

def display : Topic → String
  | .room i => s!"room:{i}"
  | .user i => s!"user:{i}"

end Topic

end Herald
