import RawPost.CommandLine.Arguments
import RawPost.CommandLine.Help
import RawPost.Exchange
import RawPost.Request.Assembly
import RawPost.Settings.Defect
import RawPost.Settings.Environment

/-!
# The program

The program reads its command line and the environment, shows the request that it is going to send, runs
the exchange, and shows the response if it was asked to.  It ends with a status, unless something happens
that it does not treat.
-/

namespace RawPost.Program

/-- What the program does not treat. -/
inductive Escape where
  | defect (defect : Settings.Defect)
  | noPort
  | excess (excess : Destination.TooManyDigits)
  | misfit (misfit : Request.Misfit)
  | fault (fault : Fault)
  | noBuffer (refusal : Response.Refusal)
  | template (e : Text.Template.Error)
  deriving DecidableEq, Repr

def Escape.message : Escape → String
  | .defect d => d.message
  | .noPort => "expected string or bytes-like object, got 'list'"
  | .excess e => e.message
  | .misfit m => m.message
  | .fault f => f.text
  | .noBuffer r => r.message
  | .template e => e.message

/-- How the program ends: with a status of its own, by its command line, or by something untreated. -/
inductive Ending where
  | returned (status : Nat)
  | exited (status : Nat)
  | escaped (cause : Escape)
  deriving DecidableEq, Repr

/-- A line for the user who looks for what went wrong; log records carry a time stamp. -/
inductive Diagnostic where
  | plain (message : String)
  | record (level : Level) (message : String)
  deriving DecidableEq, Repr

def Diagnostic.render (stamp : String) : Diagnostic → String
  | .plain message => message ++ "\n"
  | .record level message => stamp ++ " - " ++ level.name ++ " - " ++ message ++ "\n"

structure Outcome where
  ending : Ending
  output : String := ""
  diagnostics : List Diagnostic := []
  trace : Trace := []

def Outcome.errorOutput (outcome : Outcome) (stamp : String) : String :=
  String.join (outcome.diagnostics.map (Diagnostic.render stamp))

def records (debug : Bool) (trace : Trace) : List Diagnostic :=
  trace.filterMap fun event =>
    match event with
    | .logged .debug message => if debug then some (.record .debug message) else none
    | .logged level message => some (.record level message)
    | _ => none

def stopped [Memory] : Exchange.Stop → Ending × List Diagnostic
  | .fault fault => (.escaped (.fault fault), [])
  | .noBuffer refusal => (.escaped (.noBuffer refusal), [])
  | .failure failure =>
    match failure.report with
    | .error e => (.escaped (.template e), [])
    | .ok report => (.returned report.status, [.record .error ("Error: " ++ report.message)])

def exchange [Memory] (settings : Settings) (request : Request) (octets : Octets) (peer : Peer) : Outcome :=
  let shown := Request.display octets
  let step := Exchange.run settings request octets peer
  let records := records settings.debug step.events
  match step.outcome with
  | .error stop =>
    let (ending, told) := stopped stop
    ⟨ending, shown, records ++ told, step.events⟩
  | .ok response =>
    let output := if settings.printResponse then Text.decode response.octets else ""
    ⟨.returned 0, shown ++ output, records, step.events⟩

/-- The request that the arguments ask for; a port that is missing is not looked at before the method. -/
def requestOf (settings : Settings) (arguments : CommandLine.Arguments) :
    Except (Option Escape) Request :=
  let port := arguments.port.getD ""
  match Request.ofTexts settings (arguments.method.getD "") (arguments.host.getD "") port
      (arguments.path.getD "") arguments.body arguments.headers with
  | .error .method => .error none
  | .error (.port excess) => .error (some (.excess excess))
  | .ok request => if arguments.port.isNone then .error (some .noPort) else .ok request

def unsupported [Memory] : Outcome :=
  match Failure.notSupported.report with
  | .error e => { ending := .escaped (.template e) }
  | .ok report => { ending := .returned report.status, output := report.message ++ "\n" }

def send [Memory] (settings : Settings) (arguments : CommandLine.Arguments) (peer : Peer) : Outcome :=
  match requestOf settings arguments with
  | .error none => unsupported
  | .error (some cause) => { ending := .escaped cause }
  | .ok request =>
    match request.assemble settings.version with
    | .error misfit => { ending := .escaped (.misfit misfit) }
    | .ok octets => exchange settings request octets peer

/-- The end of a program whose settings have a defect; a blank entry is not treated. -/
def defective (defect : Settings.Defect) : Outcome :=
  match defect with
  | .blank _ => { ending := .escaped (.defect defect) }
  | _ => { ending := .returned 1, diagnostics := [.plain ("Error: " ++ defect.message)] }

def halted : CommandLine.Halt → Outcome
  | .help => { ending := .exited 0, output := CommandLine.help }
  | .misuse misuse => {
      ending := .exited 1
      output := CommandLine.usage ++ "\n"
      diagnostics := [.plain (CommandLine.programName ++ ": " ++ misuse.message)] }

def run [Memory] (texts : List String) (environment : Environment) (peer : Peer) : Outcome :=
  match CommandLine.read texts with
  | .error halt => halted halt
  | .ok (layer, arguments) =>
    match Settings.ofEnvironment environment layer with
    | .error defect => defective defect
    | .ok settings => send settings arguments peer

end RawPost.Program
