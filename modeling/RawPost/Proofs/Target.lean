import RawPost.Proofs.Port
import RawPost.Proofs.Preparation
import RawPost.Proofs.Program
import RawPost.Proofs.Selection

/-!
# Where the program connects

The host and the port of a command line go two ways: as texts into the line of the request that names the
host, and as a name to be resolved and a number to be connected to.  Both ways come from the same two
arguments.  No switch and no variable has a say in it, so an empty host is always the local one and a text
that is no port always stands for the same port.
-/

namespace RawPost

namespace Settings

/-- The layer leaves the default destination and the version as they are. -/
structure Layer.KeepsDestination (layer : Layer) : Prop where
  defaultHost : layer.defaultHost = none
  defaultPort : layer.defaultPort = none
  version : layer.version = none

theorem Layer.KeepsDestination.over {upper lower : Layer}
    (hupper : upper.KeepsDestination) (hlower : lower.KeepsDestination) :
    (upper.over lower).KeepsDestination := by
  constructor
  · simp [Layer.over, hupper.defaultHost, hlower.defaultHost]
  · simp [Layer.over, hupper.defaultPort, hlower.defaultPort]
  · simp [Layer.over, hupper.version, hlower.version]

theorem keepsDestination_of_ofEnvironment {environment : Environment}
    {layer : Layer} (hlayer : Layer.ofEnvironment environment = .ok layer) :
    layer.KeepsDestination := by
  rw [(isReadFrom_of_ofEnvironment hlayer).eq]
  exact ⟨rfl, rfl, rfl⟩

/-- The default destination and the version of all programs. -/
structure HasDestination (settings : Settings) : Prop where
  defaultHost : settings.defaultHost = "localhost"
  defaultPort : settings.defaultPort = 80
  version : settings.version = "HTTP/2"

theorem Layer.KeepsDestination.settle {layer : Layer} {settings : Settings}
    (hkeeps : layer.KeepsDestination) (hsettle : layer.settle = .ok settings) :
    settings.HasDestination := by
  unfold Layer.settle at hsettle
  obtain ⟨_, _, hsettle⟩ := exists_of_bind_eq_ok hsettle
  obtain ⟨_, _, hsettle⟩ := exists_of_bind_eq_ok hsettle
  obtain ⟨_, _, hsettle⟩ := exists_of_bind_eq_ok hsettle
  obtain ⟨_, _, hsettle⟩ := exists_of_bind_eq_ok hsettle
  simp only [pure, Except.pure, Except.ok.injEq] at hsettle
  rw [← hsettle, hkeeps.defaultHost, hkeeps.defaultPort, hkeeps.version]
  exact ⟨rfl, rfl, rfl⟩

theorem Layer.KeepsDestination.ofEnvironment {environment : Environment}
    {above : Layer} {settings : Settings} (habove : above.KeepsDestination)
    (hsettled : Settings.ofEnvironment environment above = .ok settings) :
    settings.HasDestination := by
  obtain ⟨below, hbelow, hsettle⟩ := exists_of_bind_eq_ok hsettled
  have hmerged := habove.over (keepsDestination_of_ofEnvironment hbelow)
  exact hmerged.settle hsettle

end Settings

theorem CommandLine.switchesKeep_keepsDestination :
    SwitchesKeep Settings.Layer.KeepsDestination := by
  constructor
  · intro named layer after hkeeps hturn
    cases turnedOn_of_turnOn hturn with
    | printResponse => exact ⟨hkeeps.defaultHost, hkeeps.defaultPort, hkeeps.version⟩
    | debug => exact ⟨hkeeps.defaultHost, hkeeps.defaultPort, hkeeps.version⟩
  · intro named value layer after hkeeps hassign
    cases assigned_of_assign hassign with
    | connectTimeout => exact ⟨hkeeps.defaultHost, hkeeps.defaultPort, hkeeps.version⟩
    | readTimeout => exact ⟨hkeeps.defaultHost, hkeeps.defaultPort, hkeeps.version⟩
    | responseLimit => exact ⟨hkeeps.defaultHost, hkeeps.defaultPort, hkeeps.version⟩

namespace Program

open Settings

variable {texts : List String} {environment : Environment}
  {layer : Layer} {arguments : CommandLine.Arguments}
  {settings : Settings} {request : Request}

theorem Asks.hasDestination
    (hasks : Asks texts environment layer arguments settings request) :
    settings.HasDestination := by
  have hkeeps := CommandLine.read_keeps
    CommandLine.switchesKeep_keepsDestination ⟨rfl, rfl, rfl⟩ hasks.read
  exact hkeeps.ofEnvironment hasks.settled

/-- What an argument stands for, if there is a default for an empty one; an argument that was left blank is
empty. -/
inductive StandsForText (default : String) : Option String → String → Prop
  | given {text : String} (hsome : text ≠ "") : StandsForText default (some text) text
  | empty : StandsForText default (some "") default
  | blank : StandsForText default none default

theorem standsForText_getD (default : String) (argument : Option String) :
    StandsForText default argument
      (if (argument.getD "").isEmpty then default else argument.getD "") := by
  cases argument with
  | none => exact .blank
  | some text =>
      by_cases hempty : text = ""
      · subst hempty
        exact .empty
      · rw [Option.getD_some, if_neg (by simpa using hempty)]
        exact .given hempty

/-- A text that begins with the line of a request and the line of its host, which names the host and has the
port argument as it is. -/
def NamesHost (arguments : CommandLine.Arguments) (name text : String) : Prop :=
  ∃ path port rest,
    StandsForText "/" arguments.path path ∧ arguments.port = some port ∧
    text = "POST " ++ path ++ " HTTP/2\r\nHost: " ++ name ++ ":" ++ port ++
      "\r\n" ++ rest

/-- A request that has been asked for, in terms of the arguments. -/
structure IsRequested (arguments : CommandLine.Arguments) (settings : Settings)
    (request : Request) (port : String) : Prop where
  port_eq : arguments.port = some port
  portText_eq : request.portText = some port
  method_eq : request.method = "POST"
  path_eq : request.path = arguments.path.getD ""
  host_eq : request.host =
    Destination.hostOr settings.defaultHost (arguments.host.getD "")
  portOr_eq : Destination.portOr settings.defaultPort port = .ok request.port

theorem exists_isRequested
    (hrequest : requestOf settings arguments = .ok request) :
    ∃ port, IsRequested arguments settings request port := by
  have hmethod := method_of_requested hrequest
  cases hport : arguments.port with
  | none =>
      simp only [requestOf, hport] at hrequest
      split at hrequest <;> simp at hrequest
  | some port =>
      have hsupported : Request.supportedMethods.contains "POST" = true := rfl
      simp only [requestOf, Request.ofTexts, hmethod, hport, Option.getD_some,
        if_pos hsupported] at hrequest
      cases hnumber : Destination.portOr settings.defaultPort port with
      | error excess =>
          rw [hnumber] at hrequest
          contradiction
      | ok number =>
          simp only [hnumber, Option.isNone_some, Bool.false_eq_true, if_false,
            Except.ok.injEq] at hrequest
          subst hrequest
          exact ⟨port, hport, rfl, rfl, rfl, rfl, hnumber⟩

theorem text_eq_head_append (request : Request) (version : String) :
    ∃ rest, request.text version = request.head version ++ rest :=
  ⟨_, String.join_cons⟩

variable {port : String}

theorem IsRequested.namesHost
    (hrequested : IsRequested arguments settings request port)
    (hdestination : settings.HasDestination) :
    StandsForText "localhost" arguments.host request.host ∧
      NamesHost arguments request.host (request.text settings.version) := by
  constructor
  · rw [hrequested.host_eq, hdestination.defaultHost]
    exact standsForText_getD _ _
  · obtain ⟨rest, htext⟩ := text_eq_head_append request settings.version
    refine ⟨request.target, port, rest, ?_, hrequested.port_eq, ?_⟩
    · rw [Request.target, hrequested.path_eq]
      exact standsForText_getD _ _
    · rw [htext, Request.head, Request.hostPort, hrequested.portText_eq,
        hrequested.method_eq, hdestination.version]
      simp [Request.crlf, String.append_assoc]

theorem IsRequested.standsForPort
    (hrequested : IsRequested arguments settings request port)
    (hdestination : settings.HasDestination) :
    Destination.StandsForPort 80 port request.port := by
  have hport := hrequested.portOr_eq
  rw [hdestination.defaultPort] at hport
  exact Destination.standsForPort_of_portOr hport

/-- Whatever port has been asked for, its number can be told. -/
theorem Asks.isWritable
    (hasks : Asks texts environment layer arguments settings request) :
    Number.IsWritable request.port := by
  obtain ⟨port, hrequested⟩ := exists_isRequested hasks.requested
  exact (hrequested.standsForPort hasks.hasDestination).isWritable

/-! ## The calls of the program -/

variable {peer : Peer}

theorem asks_of_mem_trace [Memory] {event : Event}
    (hmem : event ∈ (run texts environment peer).trace) :
    ∃ layer arguments settings request,
      Asks texts environment layer arguments settings request := by
  rcases asks_or_idle texts environment peer with hasks | hidle
  · exact hasks
  · rw [hidle.trace_eq] at hmem
    contradiction

theorem Asks.trace_eq [Memory]
    (hasks : Asks texts environment layer arguments settings request)
    (peer : Peer) :
    (run texts environment peer).trace =
      (Exchange.run settings request
        (Text.encode (request.text settings.version)) peer).events := by
  rw [hasks.run_eq, exchange_trace]

theorem Asks.eq_host_of_resolved [Memory]
    (hasks : Asks texts environment layer arguments settings request)
    {name : String} {answer : Except Fault String}
    (hmem : .resolved name answer ∈ (run texts environment peer).trace) :
    name = request.host := by
  rw [hasks.trace_eq] at hmem
  have hprepared := Exchange.mem_preparation_of_mem_run hmem rfl
  simp only [Exchange.preparation, List.mem_cons, reduceCtorEq,
    Event.resolved.injEq, List.not_mem_nil, or_false] at hprepared
  exact hprepared.1

theorem run_countP_le_one [Memory] (texts : List String) (environment : Environment)
    (peer : Peer) {kind : Event → Bool}
    (hkind : ∀ event, kind event = true → event.isPreparing = true)
    (honce : ∀ settings request,
      (Exchange.preparation settings request peer).countP kind = 1) :
    (run texts environment peer).trace.countP kind ≤ 1 := by
  rcases asks_or_idle texts environment peer with
    ⟨layer, arguments, settings, request, hasks⟩ | hidle
  · rw [hasks.trace_eq, ← honce settings request]
    exact Exchange.run_countP_le settings request _ peer hkind
  · simp [hidle.trace_eq]

/-- The program looks up at most one name and makes at most one connection.  The name is that of the host
argument, and the request that it shows and sends names the host so, with the port argument as it is.  The
connection goes to the address of that name, at the port that the port argument stands for.  If a request is
asked for, an open socket is enough for the name to be looked up, and an address for the connection. -/
theorem run_goes_where_told [Memory] (texts : List String) (environment : Environment)
    (peer : Peer) :
    let outcome := run texts environment peer
    outcome.trace.countP Event.isResolution ≤ 1 ∧
    outcome.trace.countP Event.isConnection ≤ 1 ∧
    (∀ name answer, .resolved name answer ∈ outcome.trace →
      ∃ layer arguments settings request,
        Asks texts environment layer arguments settings request ∧
        StandsForText "localhost" arguments.host name ∧
        NamesHost arguments name (request.text settings.version) ∧
        ShowsWhatItSends settings request outcome) ∧
    (∀ address port answer, .connected address port answer ∈ outcome.trace →
      (∃ name, .resolved name (.ok address) ∈ outcome.trace) ∧
      Destination.IsPort port ∧
      ∃ layer arguments text,
        CommandLine.read texts = .ok (layer, arguments) ∧
        arguments.port = some text ∧
        Destination.StandsForPort 80 text port) ∧
    (∀ layer arguments settings request,
      Asks texts environment layer arguments settings request →
      peer.opening = .ok () →
        (∃ name, .resolved name peer.resolution ∈ outcome.trace) ∧
        ∀ address, peer.resolution = .ok address → peer.setTimeout.1 = .ok () →
          ∃ port, .connected address port peer.connecting ∈ outcome.trace) := by
  intro outcome
  refine ⟨?_, ?_, ?_, ?_, ?_⟩
  · apply run_countP_le_one _ _ _ _ fun _ _ => rfl
    intro event hevent
    simp [Event.isPreparing, hevent]
  · apply run_countP_le_one _ _ _ _ fun _ _ => rfl
    intro event hevent
    simp [Event.isPreparing, hevent]
  · intro name answer hmem
    obtain ⟨layer, arguments, settings, request, hasks⟩ := asks_of_mem_trace hmem
    obtain ⟨port, hrequested⟩ := exists_isRequested hasks.requested
    obtain ⟨hstands, hnames⟩ := hrequested.namesHost hasks.hasDestination
    rw [← hasks.eq_host_of_resolved hmem] at hstands hnames
    refine ⟨layer, arguments, settings, request, hasks, hstands, hnames, ?_⟩
    simp only [outcome, hasks.run_eq]
    exact exchange_showsWhatItSends settings request peer
  · intro address number answer hmem
    obtain ⟨layer, arguments, settings, request, hasks⟩ := asks_of_mem_trace hmem
    simp only [outcome, hasks.trace_eq] at hmem ⊢
    obtain ⟨rfl, hresolved⟩ := Exchange.resolved_of_connected hmem
    obtain ⟨port, hrequested⟩ := exists_isRequested hasks.requested
    have hstands := hrequested.standsForPort hasks.hasDestination
    have hdefault : Destination.IsPort 80 := by
      constructor <;> decide
    exact ⟨⟨request.host, hresolved⟩, hstands.isPort hdefault, layer, arguments, port,
      hasks.read, hrequested.port_eq, hstands⟩
  · intro layer arguments settings request hasks hopening
    simp only [outcome, hasks.trace_eq]
    obtain ⟨hresolved, hconnected⟩ := Exchange.run_prepares settings request
      (Text.encode (request.text settings.version)) hopening
    refine ⟨⟨request.host, hresolved⟩, ?_⟩
    intro address hgiven hset
    exact ⟨request.port, hconnected address hgiven hset⟩

/-- A connection that is refused, for an empty host and a port between white space, a sign and a letter. -/
theorem run_goes_where_told_on_refusal :
    let refusal : Fault := ⟨.system .refused, "refused"⟩
    let peer : Peer := { connecting := .error refusal }
    let outcome := run ["POST", "", " +8080x", "/"] [] peer
    .resolved "localhost" (.ok "192.0.2.1") ∈ outcome.trace ∧
    .connected "192.0.2.1" 8080 (.error refusal) ∈ outcome.trace ∧
    Destination.StandsForPort 80 " +8080x" 8080 ∧
    ∃ layer arguments settings request,
      Asks ["POST", "", " +8080x", "/"] [] layer arguments settings request ∧
      NamesHost arguments "localhost" (request.text settings.version) := by
  intro refusal peer outcome
  have hasks : Asks ["POST", "", " +8080x", "/"] [] {}
      ⟨some "POST", some "", some " +8080x", some "/", none, []⟩ Settings.defaults
      { method := "POST", host := "localhost", port := 8080, path := "/",
        portText := some " +8080x" } :=
    ⟨rfl, rfl, rfl, rfl, _, Request.assemble_eq (by nofun) _⟩
  obtain ⟨hresolved, hconnected⟩ : _ ∈ outcome.trace ∧ _ := by
    simp only [outcome, hasks.trace_eq]
    exact Exchange.run_prepares _ _ _ rfl
  have hconnection := hconnected _ rfl rfl
  obtain ⟨-, -, hlookup, hconnect, -⟩ :=
    run_goes_where_told ["POST", "", " +8080x", "/"] [] peer
  obtain ⟨-, -, layer, arguments, text, hread, htext, hstands⟩ :=
    hconnect _ _ _ hconnection
  rw [hasks.read, Except.ok.injEq, Prod.mk.injEq] at hread
  rw [← hread.2, Option.some.injEq] at htext
  obtain ⟨_, _, _, _, hgiven, -, hnames, -⟩ := hlookup _ _ hresolved
  rw [← htext] at hstands
  exact ⟨hresolved, hconnection, hstands, _, _, _, _, hgiven, hnames⟩

end Program

end RawPost
