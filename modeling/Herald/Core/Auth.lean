import Herald.Text.Unicode

set_option autoImplicit false

/-!
Who is acting, and what they may do.

Identity is established before the core sees it: an `Actor` is an id and a
`Role`. Privileged roles post anywhere and notify anyone. A plain user may
post into a room whose id names them (the id split on `:` and `_` has a
segment equal to theirs, as `dm:alice_bob` names both `alice` and `bob`),
or when they are the message's receiver, and may notify only themselves.
-/

namespace Herald

/-- The role of an authenticated caller. -/
inductive Role where
  | admin
  | moderator
  | system
  | user
  deriving DecidableEq, Repr, Inhabited

namespace Role

/-- Privileged roles may post into any room and notify any user. -/
def privileged : Role → Bool
  | .admin | .moderator | .system => true
  | .user => false

def name : Role → String
  | .admin => "admin"
  | .moderator => "moderator"
  | .system => "system"
  | .user => "user"

/-- Read a role: blanks around it are dropped, ASCII case is ignored, and
the empty text means `user`. The error names the normalized text. -/
def parse (s : String) : Except String Role :=
  match Text.asciiLower (Text.trim s) with
  | "admin" => .ok .admin
  | "moderator" => .ok .moderator
  | "system" => .ok .system
  | "user" | "" => .ok .user
  | other => .error s!"unknown role: {other}"

end Role

/-- An authenticated caller. -/
structure Actor where
  id : String
  role : Role := .user
  deriving DecidableEq, Repr, Inhabited

namespace Actor

def display (a : Actor) : String := s!"{a.id} ({a.role.name})"

/-- Whether a room id embeds this actor's id as one of its `:`/`_` segments. -/
def namedIn (a : Actor) (roomId : String) : Bool :=
  (Text.splitOn roomId (fun c => c == ':' || c == '_')).any
    fun segment => !segment.isEmpty && segment == a.id

/-- Whether this actor may post into `roomId`, possibly addressing `receiverId`. -/
def canPost (a : Actor) (roomId : String) (receiverId : Option String) : Bool :=
  a.role.privileged || a.namedIn roomId || receiverId == some a.id

/-- Whether this actor may publish a notification to `userId`. -/
def canNotify (a : Actor) (userId : String) : Bool :=
  a.role.privileged || a.id == userId

end Actor

end Herald
