import RawPost.Settings
import RawPost.Text.Quoted

/-!
# What defects say
-/

namespace RawPost.Settings

def Quantity.requirement : Quantity → String
  | .responseLimit => "max_response_bytes must be positive"
  | .chunkSize => "chunk_size must be positive"
  | .connectTimeout => "connect_timeout must be positive or None"
  | .readTimeout => "read_timeout must be positive or None"

def Defect.message : Defect → String
  | .malformedSeconds name raw =>
    name ++ " must be a number of seconds, got " ++ Text.quote raw
  | .malformedInteger name raw => name ++ " must be an integer, got " ++ Text.quote raw
  | .notPositive quantity => quantity.requirement
  | .blank _ => "'<=' not supported between instances of 'list' and 'int'"

end RawPost.Settings
