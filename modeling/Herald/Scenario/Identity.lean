import Herald.Core.Auth
import Herald.Core.Topic
import Herald.Scenario.Request

set_option autoImplicit false

/-!
Scenario operations on identities: roles, actors and topic identifiers.
-/

namespace Herald.Scenario

open Json

/-- `role_parse`: the role and whether it is privileged, or the parse error. -/
def roleParse (req : Json) : Except Json Json := do
  let input ← textArg req "input"
  match Role.parse input with
  | .ok r => pure (.obj [("role", .str r.name), ("privileged", .bool r.privileged)])
  | .error m => pure (failure "role" m)

/-- An actor argument `{id, role?}`; an unknown role is a request error. -/
def actorArg (req : Json) (key : String) : Except Json Actor := do
  let a ← valueArg req key
  let id ← textArg a "id"
  let role ← match ← optTextArg a "role" with
    | none => pure Role.user
    | some r => match Role.parse r with
      | .ok role => pure role
      | .error m => throw (requestError m)
  pure { id, role }

/-- `auth`: what an actor may do in a room and towards a user. -/
def authRules (req : Json) : Except Json Json := do
  let actor ← actorArg req "actor"
  let roomId ← textArg req "room_id"
  let receiverId ← optTextArg req "receiver_id"
  let userId ← textArg req "user_id"
  pure (.obj [("display", .str actor.display), ("named_in", .bool (actor.namedIn roomId)),
    ("can_post", .bool (actor.canPost roomId receiverId)),
    ("can_notify", .bool (actor.canNotify userId))])

/-- `topic_id`: validate an identifier and show its two topics. -/
def topicId (req : Json) : Except Json Json := do
  let id ← textArg req "id"
  match validateTopicId id with
  | .ok () => pure (.obj [("valid", .bool true), ("room", .str (Topic.room id).display),
      ("user", .str (Topic.user id).display)])
  | .error m => pure (failure "validation" m)

end Herald.Scenario
