import Herald.Json.Value
import Herald.Json.Write
import Herald.Text.Utf8

set_option autoImplicit false

/-!
HTTP requests and responses as a router handles them.

A request has a method, a target (the path, then an optional `?` and query,
then an optional `#` and fragment, which is not sent),
headers whose names compare without case, and a body. Header values are
read as text only when every byte is visible ASCII or a tab. Path segments
and query strings are percent-encoded: `%XY` stands for one byte, and in a
query `+` stands for a blank.
-/

namespace Herald.Http

open Json

/-- An HTTP request. -/
structure Request where
  method : String
  /-- The path, then an optional `?` and the query. -/
  target : String
  /-- Header names in lowercase, with their values, in order. -/
  headers : List (String × String) := []
  body : String := ""
  /-- Whether the connection can be taken over by another protocol. -/
  upgradable : Bool := false
  deriving Inhabited

namespace Request

/-- The target without its fragment: a `#` and what follows it are not
sent. -/
def sentTarget (r : Request) : String := (r.target.splitOn "#").headD ""

def path (r : Request) : String := (r.sentTarget.splitOn "?").headD ""

/-- The query of the target, when it has a `?`. -/
def query? (r : Request) : Option String :=
  match r.sentTarget.splitOn "?" with
  | _ :: rest@(_ :: _) => some ("?".intercalate rest)
  | _ => none

/-- The first value of a header, as raw text. -/
def rawHeader? (r : Request) (name : String) : Option String := r.headers.lookup name

/-- Whether a header byte may be read as text. -/
def visibleByte (b : UInt8) : Bool := (32 ≤ b && b < 127) || b == 9

/-- The first value of a header, when it reads as text. -/
def header? (r : Request) (name : String) : Option String :=
  match r.rawHeader? name with
  | some v => if v.toUTF8.toList.all visibleByte then some v else none
  | none => none

end Request

/-- An HTTP response: status, content type and body. -/
structure Response where
  status : Nat
  contentType : Option String
  body : String
  deriving Inhabited

namespace Response

def text (status : Nat) (body : String) : Response := ⟨status, some "text/plain; charset=utf-8", body⟩

def json (status : Nat) (j : Json) : Response := ⟨status, some "application/json", render j⟩

/-- A response with neither type nor body. -/
def empty (status : Nat) : Response := ⟨status, none, ""⟩

end Response

/-- The value of an ASCII hex digit byte. -/
def hexValue (b : UInt8) : Option Nat :=
  if 48 ≤ b && b ≤ 57 then some (b.toNat - 48)
  else if 65 ≤ b && b ≤ 70 then some (b.toNat - 55)
  else if 97 ≤ b && b ≤ 102 then some (b.toNat - 87)
  else none

/-- Replace each `%XY` of two hex digits by its byte; any other `%` stays. -/
def percentDecode (bytes : List UInt8) : List UInt8 :=
  match bytes with
  | [] => []
  | 37 :: tail@(h :: l :: rest) =>
    match hexValue h, hexValue l with
    | some a, some b => (a * 16 + b).toUInt8 :: percentDecode rest
    | _, _ => 37 :: percentDecode tail
  | b :: rest => b :: percentDecode rest

/-- The bytes a percent-encoded text stands for. -/
def percentBytes (s : String) : ByteArray := ⟨(percentDecode s.toUTF8.toList).toArray⟩

/-- Decode one query component: `+` is a blank, then percent escapes; bytes
that are not UTF-8 become replacement characters. -/
def formComponent (s : String) : String :=
  let plus := s.toUTF8.toList.map fun b => if b == 43 then 32 else b
  Text.decodeLossy ⟨(percentDecode plus).toArray⟩

/-- The name and value pairs of a query: pieces between `&`, empty ones
skipped, each split at its first `=` (no `=` gives an empty value). -/
def formPairs (query : String) : List (String × String) :=
  (query.splitOn "&").filterMap fun piece =>
    if piece.isEmpty then none
    else
      match piece.splitOn "=" with
      | name :: rest => some (formComponent name, formComponent ("=".intercalate rest))
      | [] => none

end Herald.Http
