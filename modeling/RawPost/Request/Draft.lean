import RawPost.Request
import RawPost.Text.CodePoint

/-!
# Drafts of requests

The texts of a draft may hold surrogates, and its port may be any number.  A request is a draft without
surrogates; whether its octets can be put together is asked of the draft.
-/

namespace RawPost.Request

open Text

structure Draft where
  method : CodePoints
  host : CodePoints
  port : Int
  path : CodePoints
  body : Option CodePoints := none
  headers : List CodePoints := []
  portText : Option CodePoints := none
  deriving DecidableEq, Repr

def draft (request : Request) : Draft where
  method := codePoints request.method
  host := codePoints request.host
  port := request.port
  path := codePoints request.path
  body := request.body.map codePoints
  headers := request.headers.map codePoints
  portText := request.portText.map codePoints

/-- What keeps the octets of a request from being put together. -/
inductive Misfit where
  | port
  | text (run : Unencodable)
  | uneven (size position : Nat)
  deriving DecidableEq, Repr

def Misfit.message : Misfit → String
  | .port => Number.unwritableMessage
  | .text run => run.message
  | .uneven size position =>
    "request sized " ++ Number.integerText size ++ " bytes but " ++
      Number.integerText position ++ " were written"

namespace Draft

def target (draft : Draft) : CodePoints :=
  if draft.path.isEmpty then codePoints "/" else draft.path

/-- The port as it was given, or else its number. -/
def hostPort (draft : Draft) : Except Misfit CodePoints :=
  match draft.portText with
  | some text => .ok text
  | none =>
    match Number.writeInteger? draft.port with
    | some number => .ok (codePoints number)
    | none => .error .port

def head (draft : Draft) (version : CodePoints) : Except Misfit CodePoints := do
  let port ← draft.hostPort
  return draft.method ++ codePoints " " ++ draft.target ++ codePoints " " ++ version ++
    codePoints crlf ++ codePoints "Host: " ++ draft.host ++ codePoints ":" ++ port ++
    codePoints crlf

def pieces (draft : Draft) (version : CodePoints) : Except Misfit (List CodePoints) := do
  let head ← draft.head version
  return head :: draft.headers.flatMap (fun header => [header, codePoints crlf]) ++
    codePoints crlf :: draft.body.toList

end Draft

end RawPost.Request
