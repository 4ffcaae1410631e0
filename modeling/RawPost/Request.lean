import RawPost.Destination
import RawPost.Settings
import RawPost.Text.Utf8

/-!
# Requests

A request is a request line, a line that names the host, further header lines and a body.  Whatever its
parts contain, they are written as they are.  Its texts are of characters, so each of them can be encoded.
-/

namespace RawPost

structure Request where
  method : String
  host : String
  port : Int
  path : String
  body : Option String := none
  headers : List String := []
  portText : Option String := none
  deriving DecidableEq, Repr

namespace Request

inductive Refusal where
  | method
  | port (excess : Destination.TooManyDigits)
  deriving DecidableEq, Repr

def supportedMethods : List String := ["POST"]

/-- The request that texts ask for; the text of the port is kept as it was given. -/
def ofTexts (settings : Settings) (method host port path : String) (body : Option String)
    (headers : List String) : Except Refusal Request :=
  if supportedMethods.contains method then
    match Destination.portOr settings.defaultPort port with
    | .error excess => .error (.port excess)
    | .ok number =>
      .ok {
        method
        host := Destination.hostOr settings.defaultHost host
        port := number
        path
        body
        headers
        portText := some port }
  else
    .error .method

def target (request : Request) : String :=
  if request.path.isEmpty then "/" else request.path

/-- The port as it was given, or else its number, also one that has too many digits to be written. -/
def hostPort (request : Request) : String :=
  request.portText.getD (Number.integerText request.port)

def crlf : String := "\r\n"

def head (request : Request) (version : String) : String :=
  request.method ++ " " ++ request.target ++ " " ++ version ++ crlf ++
    "Host: " ++ request.host ++ ":" ++ request.hostPort ++ crlf

def pieces (request : Request) (version : String) : List String :=
  request.head version :: request.headers.flatMap (fun header => [header, crlf]) ++
    crlf :: request.body.toList

def text (request : Request) (version : String) : String :=
  String.join (request.pieces version)

/-- How many octets the text of a request takes. -/
def size (request : Request) (version : String) : Nat :=
  (Text.encode (request.text version)).length

def display (octets : Octets) : String :=
  "Request:\n" ++ Text.decode octets ++ "\n"

end Request

end RawPost
