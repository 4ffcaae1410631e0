import RawPost.Number.Decimal
import RawPost.Settings

/-!
# Settings from the environment

Four variables give settings.  A variable that is there has to be well formed even if its setting is
hidden by another layer; whether its value is allowed is not asked before the layers are merged.
-/

namespace RawPost

abbrev Environment := List (String × String)

namespace Settings

def connectTimeoutVariable : String := "RPCPOST_CONNECT_TIMEOUT"

def readTimeoutVariable : String := "RPCPOST_READ_TIMEOUT"

def responseLimitVariable : String := "RPCPOST_MAX_RESPONSE_BYTES"

def debugVariable : String := "RPCPOST_DEBUG"

/-- The words for no timeout and for a switch that is on. -/
def noTimeoutWords : List String := ["", "none"]

def onWords : List String := ["1", "true", "yes", "on"]

def plainWord (raw : String) : String :=
  Text.lower (Text.strip raw)

def readTimeout? (raw : String) : Option Timeout :=
  let word := plainWord raw
  if noTimeoutWords.contains word then some none else (Number.readDecimal? word).map some

def readLimit? (raw : String) : Option Int :=
  Number.readInteger? (Text.strip raw)

def isOn (raw : String) : Bool :=
  onWords.contains (plainWord raw)

def readVariable {α : Type} (environment : Environment) (name : String) (read? : String → Option α)
    (defect : String → String → Defect) : Except Defect (Option (Entry α)) :=
  match environment.lookup name with
  | none => .ok none
  | some raw =>
    match read? raw with
    | none => .error (defect name raw)
    | some value => .ok (some (.value value))

def Layer.ofEnvironment (environment : Environment) : Except Defect Layer := do
  let connectTimeout ←
    readVariable environment connectTimeoutVariable readTimeout? .malformedSeconds
  let readTimeout ← readVariable environment readTimeoutVariable readTimeout? .malformedSeconds
  let responseLimit ← readVariable environment responseLimitVariable readLimit? .malformedInteger
  let debug := (environment.lookup debugVariable).map isOn
  return { connectTimeout, readTimeout, responseLimit, debug }

def ofEnvironment (environment : Environment) (above : Layer) : Except Defect Settings := do
  let below ← Layer.ofEnvironment environment
  (above.over below).settle

end Settings

end RawPost
