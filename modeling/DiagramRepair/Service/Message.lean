import DiagramRepair.Encoding.Utf8
import DiagramRepair.Json.Printer

/-! Requests to the service and what it answers. A request that is refused or fails has an
answer too, which tells why.
-/

namespace DiagramRepair.Service

open Encoding (Bytes)

structure Request where
  method : Text
  path : Text
  body : Bytes

/-- Why a request is refused. -/
inductive Refusal where
  | notFound
  | methodNotAllowed
  | notJson
  | notAnObject
  | missing (field : Text)
  | tooLong (field : Text) (limit : Int) (length : Nat)
  | unknownType (choices : List Text)
  | noDiagram

namespace Refusal

def status : Refusal → Nat
  | .notFound => 404
  | .methodNotAllowed => 405
  | .notJson => 400
  | .notAnObject => 400
  | .missing _ => 400
  | .tooLong .. => 413
  | .unknownType _ => 400
  | .noDiagram => 422

def detail : Refusal → Text
  | .notFound => "Not Found".toList
  | .methodNotAllowed => "Method Not Allowed".toList
  | .notJson => "Request body must be JSON".toList
  | .notAnObject => "Request body must be a JSON object".toList
  | .missing field => field ++ " is required".toList
  | .tooLong field limit length =>
      field ++ " exceeds ".toList ++ Text.ofInt limit ++ " characters (".toList
        ++ Text.ofNat length ++ [')']
  | .unknownType choices =>
      "expected_type must be one of: ".toList ++ Text.joinWith ", ".toList choices
  | .noDiagram => "No diagram found in content".toList

end Refusal

/-- Why a request has no answer of its own: it is refused, or it fails because a list or an
object stands where a name has to be looked up, or because its answer cannot be encoded. What was
logged about that answer stays logged. -/
inductive Failure where
  | refused (reason : Refusal)
  | unusableName
  | notEncodable (log : List Text)

inductive Content where
  | json (value : Json)
  | html (text : Text)
  | plain (text : Text)

namespace Content

def type : Content → Text
  | .json _ => "application/json".toList
  | .html _ => "text/html; charset=utf-8".toList
  | .plain _ => "text/plain; charset=utf-8".toList

def text : Content → Text
  | .json value => Json.compact .unicode value
  | .html text => text
  | .plain text => text

end Content

/-- What a request that succeeds is answered with, and what is logged on the way. -/
structure Answer where
  content : Content
  log : List Text

structure Response where
  status : Nat
  content : Content

def Refusal.response (reason : Refusal) : Response :=
  { status := reason.status
    content := .json (.object [("detail".toList, .string reason.detail)]) }

def Response.internalError : Response :=
  ⟨500, .plain "Internal Server Error".toList⟩

def Failure.response : Failure → Response
  | .refused reason => reason.response
  | .unusableName => .internalError
  | .notEncodable _ => .internalError

def Failure.log : Failure → List Text
  | .refused _ => []
  | .unusableName => []
  | .notEncodable log => log

/-- The response to a request, whatever came of it. -/
def Response.ofResult : Except Failure Answer → Response
  | .ok answer => ⟨200, answer.content⟩
  | .error failure => failure.response

end DiagramRepair.Service
