import Herald.Core.Store
import Herald.Core.Recall
import Herald.Text.Unicode

set_option autoImplicit false

/-!
The rules the chat and notification services share.

A request is checked in a fixed order and the first failure is reported:
identifiers as topic identifiers, content not blank and not longer than the
service's limit (counted in characters before sanitizing), and a type tag
that is present, at most 32 bytes, and made of ASCII letters, digits, `_`,
`-` and `.`. A history page size defaults to the service's default and is
clamped to between one and the service's maximum.
-/

namespace Herald

/-- Why a service call failed. -/
inductive ServiceError where
  | validation (field : String) (message : String)
  | emptyContent
  | forbidden (what : String)
  | notFound (what : String)
  | unsupported (what : String)
  | store (e : StoreError)
  deriving DecidableEq, Repr

namespace ServiceError

def message : ServiceError → String
  | .validation field m => s!"Invalid {field}: {m}"
  | .emptyContent => "Content empty after sanitization"
  | .forbidden what => s!"Forbidden: {what}"
  | .notFound what => s!"Not found: {what}"
  | .unsupported what => s!"Unsupported: {what}"
  | .store e => s!"Store error: {e.message}"

/-- The numeric code carried in error frames. -/
def code : ServiceError → Nat
  | .validation .. | .emptyContent => 400
  | .forbidden _ => 403
  | .notFound _ => 404
  | .unsupported _ => 405
  | .store _ => 500

/-- Whether the error is a validation failure (empty content included). -/
def isValidation : ServiceError → Bool
  | .validation .. | .emptyContent => true
  | _ => false

/-- A short label of the error's kind. -/
def label : ServiceError → String
  | .validation .. => "validation"
  | .emptyContent => "empty_content"
  | .forbidden _ => "forbidden"
  | .notFound _ => "not_found"
  | .unsupported _ => "unsupported"
  | .store _ => "store"

/-- A store failure as seen by a service: a missing row is `notFound`. -/
def ofStore : StoreError → ServiceError
  | .notFound what => .notFound what
  | e => .store e

end ServiceError

def maxKindLength : Nat := 32

def validateId (field id : String) : Except ServiceError Unit :=
  (validateTopicId id).mapError (ServiceError.validation field)

/-- Whether a character is blank for content checks (Unicode whitespace). -/
def contentBlank (s : String) : Bool := (Text.trim s).isEmpty

/-- Check content: not blank, and at most `maxChars` characters. -/
def validateContent (content : String) (maxChars : Nat) : Except ServiceError Unit :=
  if contentBlank content then .error (.validation "content" "required")
  else if content.length > maxChars then
    .error (.validation "content" s!"longer than {maxChars} characters")
  else .ok ()

/-- Whether a character may appear in a type tag. -/
def kindChar (c : Char) : Bool :=
  ('a' ≤ c && c ≤ 'z') || ('A' ≤ c && c ≤ 'Z') || ('0' ≤ c && c ≤ '9') || c == '_' || c == '-' ||
    c == '.'

def validateKind (kind : String) : Except ServiceError Unit :=
  if kind.isEmpty then .error (.validation "type" "required")
  else if kind.utf8ByteSize > maxKindLength then .error (.validation "type" "too long")
  else if !kind.toList.all kindChar then .error (.validation "type" "invalid characters")
  else .ok ()

/-- A requested page size: the default when absent, then clamped to
`[1, max(maximum, 1)]`. -/
def clampLimit (limit : Option Nat) (default maximum : Nat) : Nat :=
  let l := limit.getD default
  let hi := max maximum 1
  if l < 1 then 1 else if l > hi then hi else l

/-- Chat service settings. -/
structure ChatConfig where
  maxContentLength : Nat := 4000
  defaultHistoryLimit : Nat := 50
  maxHistoryLimit : Nat := 100
  recallEnabled : Bool := true
  recallTtl : Span := ⟨3600, 0⟩
  deriving DecidableEq, Repr, Inhabited

/-- Notification service settings. -/
structure NotificationConfig where
  maxContentLength : Nat := 1000
  defaultHistoryLimit : Nat := 50
  maxHistoryLimit : Nat := 100
  deriving DecidableEq, Repr, Inhabited

/-- The type tag of a notification published from a session without one. -/
def defaultNotificationKind : String := "info"

def recallKey (room : String) : String := "recall:" ++ (Topic.room room).display

end Herald
