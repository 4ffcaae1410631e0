/-!
# Help
-/

namespace RawPost.CommandLine

def programName : String := "rpcpost"

/-- The line that answers a command line that cannot be read. -/
def usage : String := "Parameters: <method> <host> <port> <path> [<data> [<headers>]]"

def helpLines : List String :=
  ["usage: rpcpost [-h] [--connect-timeout CONNECT_TIMEOUT]",
   "               [--read-timeout READ_TIMEOUT]",
   "               [--max-response-bytes MAX_RESPONSE_BYTES] [--print-response]",
   "               [--debug]",
   "               method host port path [body] [headers ...]",
   "",
   "Send a raw HTTP POST request and read the reply",
   "",
   "positional arguments:",
   "  method                HTTP method, only POST is accepted",
   "  host                  target host name or IP address",
   "  port                  target port, falls back to 80 when not a positive",
   "                        integer",
   "  path                  request path, '/' when empty",
   "  body                  raw request body",
   "  headers               extra header lines, one per argument",
   "",
   "options:",
   "  -h, --help            show this help message and exit",
   "  --connect-timeout CONNECT_TIMEOUT",
   "                        seconds to wait for connect",
   "  --read-timeout READ_TIMEOUT",
   "                        seconds to wait for each read",
   "  --max-response-bytes MAX_RESPONSE_BYTES",
   "                        response buffer capacity",
   "  --print-response      write the received bytes to stdout",
   "  --debug, -D           enable debug logging"]

def help : String :=
  String.join (helpLines.map (· ++ "\n"))

end RawPost.CommandLine
