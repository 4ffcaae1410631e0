/-!
# Switches

A switch is an option of the command line.  Some switches take a value; the others turn something on.
-/

namespace RawPost.CommandLine

inductive Switch where
  | help
  | connectTimeout
  | readTimeout
  | responseLimit
  | printResponse
  | debug
  deriving DecidableEq, Repr

def switchNames : List (String × Switch) :=
  [("-h", .help),
   ("--help", .help),
   ("--connect-timeout", .connectTimeout),
   ("--read-timeout", .readTimeout),
   ("--max-response-bytes", .responseLimit),
   ("--print-response", .printResponse),
   ("--debug", .debug),
   ("-D", .debug)]

namespace Switch

def title : Switch → String
  | help => "-h/--help"
  | connectTimeout => "--connect-timeout"
  | readTimeout => "--read-timeout"
  | responseLimit => "--max-response-bytes"
  | printResponse => "--print-response"
  | debug => "--debug/-D"

def takesValue : Switch → Bool
  | connectTimeout | readTimeout | responseLimit => true
  | help | printResponse | debug => false

def valueType : Switch → String
  | responseLimit => "int"
  | _ => "float"

end Switch

end RawPost.CommandLine
