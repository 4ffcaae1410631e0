import RawPost.Connection.Event

/-!
# Settings

Settings say where a request goes if it does not say so itself, how long calls may take, how much of a
response is kept and how much is printed.

They are put together from layers: a value that a layer gives hides those below it, and what no layer
gives has its default.  Only the merged values are checked, in a fixed order: the response limit, the
chunk size, the connect timeout, the read timeout.  A limit has to be positive and so has a timeout, if
there is one; a timeout that is no number is not at or below zero, so it passes.
-/

namespace RawPost

structure Settings where
  defaultHost : String
  defaultPort : Int
  version : String
  connectTimeout : Timeout
  readTimeout : Timeout
  responseLimit : Int
  chunkSize : Int
  printResponse : Bool
  debug : Bool
  deriving DecidableEq, Repr

namespace Settings

/-- Five seconds and ten seconds as binary64 words. -/
def defaults : Settings where
  defaultHost := "localhost"
  defaultPort := 80
  version := "HTTP/2"
  connectTimeout := some ⟨0x4014000000000000⟩
  readTimeout := some ⟨0x4024000000000000⟩
  responseLimit := 2048
  chunkSize := 1024
  printResponse := false
  debug := false

inductive Quantity where
  | responseLimit
  | chunkSize
  | connectTimeout
  | readTimeout
  deriving DecidableEq, Repr

inductive Defect where
  | malformedSeconds (name raw : String)
  | malformedInteger (name raw : String)
  | notPositive (quantity : Quantity)
  | blank (quantity : Quantity)
  deriving DecidableEq, Repr

/-- What a layer gives for a number: a value, or the place for one that was left blank. -/
inductive Entry (α : Type) where
  | value (a : α)
  | blank
  deriving DecidableEq, Repr

structure Layer where
  defaultHost : Option String := none
  defaultPort : Option Int := none
  version : Option String := none
  connectTimeout : Option (Entry Timeout) := none
  readTimeout : Option (Entry Timeout) := none
  responseLimit : Option (Entry Int) := none
  chunkSize : Option Int := none
  printResponse : Option Bool := none
  debug : Option Bool := none
  deriving DecidableEq, Repr

/-- Two layers as one, what the upper one gives hiding what the lower one gives. -/
def Layer.over (upper lower : Layer) : Layer where
  defaultHost := upper.defaultHost.or lower.defaultHost
  defaultPort := upper.defaultPort.or lower.defaultPort
  version := upper.version.or lower.version
  connectTimeout := upper.connectTimeout.or lower.connectTimeout
  readTimeout := upper.readTimeout.or lower.readTimeout
  responseLimit := upper.responseLimit.or lower.responseLimit
  chunkSize := upper.chunkSize.or lower.chunkSize
  printResponse := upper.printResponse.or lower.printResponse
  debug := upper.debug.or lower.debug

/-- Zero or less, so that a call could not take any time at all. -/
def isExpired : Timeout → Bool
  | none => false
  | some seconds => seconds.isNonpositive

def checked {α : Type} (quantity : Quantity) (isBad : α → Bool) (entry : Option (Entry α))
    (default : α) : Except Defect α :=
  match entry.getD (.value default) with
  | .blank => .error (.blank quantity)
  | .value a => if isBad a then .error (.notPositive quantity) else .ok a

def Layer.settle (layer : Layer) : Except Defect Settings := do
  let responseLimit ← checked .responseLimit (· ≤ 0) layer.responseLimit defaults.responseLimit
  let chunkSize ← checked .chunkSize (· ≤ 0) (layer.chunkSize.map .value) defaults.chunkSize
  let connectTimeout ←
    checked .connectTimeout isExpired layer.connectTimeout defaults.connectTimeout
  let readTimeout ← checked .readTimeout isExpired layer.readTimeout defaults.readTimeout
  return {
    defaultHost := layer.defaultHost.getD defaults.defaultHost
    defaultPort := layer.defaultPort.getD defaults.defaultPort
    version := layer.version.getD defaults.version
    connectTimeout
    readTimeout
    responseLimit
    chunkSize
    printResponse := layer.printResponse.getD defaults.printResponse
    debug := layer.debug.getD defaults.debug }

end Settings

end RawPost
