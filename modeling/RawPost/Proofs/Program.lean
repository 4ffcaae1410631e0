import RawPost.Program
import RawPost.Proofs.Assembly
import RawPost.Proofs.Transfer

/-!
# What the program shows and what it sends

The program calls the resolver or the socket only for a request that it has been asked for and that it has
shown.  What it shows is the text of the request, and that text, encoded, is what it sends; what it shows
of the response is the text of what came in.  If there is no such request, it calls nothing.
-/

namespace RawPost.Program

/-- A command line and an environment ask for a request: the arguments can be read, the settings are valid,
the method is the supported one, and the request can be built. -/
structure Asks (texts : List String) (environment : Environment)
    (layer : Settings.Layer) (arguments : CommandLine.Arguments)
    (settings : Settings) (request : Request) : Prop where
  read : CommandLine.read texts = .ok (layer, arguments)
  settled : Settings.ofEnvironment environment layer = .ok settings
  method : arguments.method = some "POST"
  requested : requestOf settings arguments = .ok request
  assembled : ∃ octets, request.assemble settings.version = .ok octets

def shownResponse (settings : Settings) (outcome : Outcome) : String :=
  if outcome.ending = .returned 0 ∧ settings.printResponse = true then
    Text.decode outcome.trace.delivered
  else
    ""

/-- The request is shown, and nothing but its text goes out: all of it before anything comes in, and all of
it if the program ends well. -/
structure ShowsWhatItSends (settings : Settings) (request : Request)
    (outcome : Outcome) : Prop where
  output_eq : outcome.output =
    "Request:\n" ++ request.text settings.version ++ "\n" ++
      shownResponse settings outcome
  written_isPrefix : ∀ before : Trace, before <+: outcome.trace →
    before.written <+: Text.encode (request.text settings.version)
  written_before_receipt : ∀ (before : Trace) (event : Event) (after : Trace),
    outcome.trace = before ++ event :: after → event.isReceive = true →
      before.written = Text.encode (request.text settings.version)
  written_of_returned : outcome.ending = .returned 0 →
    outcome.trace.written = Text.encode (request.text settings.version)

/-- Nothing is called, and no request is shown. -/
structure Idle (outcome : Outcome) : Prop where
  trace_eq : outcome.trace = []
  output_ne : ∀ shown, outcome.output ≠ "Request:\n" ++ shown

variable {texts : List String} {environment : Environment}
  {layer : Settings.Layer} {arguments : CommandLine.Arguments}
  {settings : Settings} {request : Request}

/-! ## With a request -/

theorem stopped_ne_returned [Memory] (stop : Exchange.Stop) :
    (stopped stop).1 ≠ .returned 0 := by
  cases stop with
  | fault fault => simp [stopped]
  | noBuffer refusal => simp [stopped]
  | failure failure =>
      cases hreport : failure.report with
      | error e => simp [stopped, hreport]
      | ok report =>
          have hstatus : report.status = 1 := by
            unfold Failure.report Report.compose at hreport
            cases hrender : Text.Template.render (.text failure.template)
                failure.values with
            | error e => simp [hrender, Except.map] at hreport
            | ok message =>
                simp only [hrender, Except.map, Except.ok.injEq] at hreport
                rw [← hreport]
          simp [stopped, hreport, hstatus]

theorem exchange_trace [Memory] (settings : Settings) (request : Request)
    (octets : Octets) (peer : Peer) :
    (exchange settings request octets peer).trace =
      (Exchange.run settings request octets peer).events := by
  cases houtcome : (Exchange.run settings request octets peer).outcome with
  | error stop => simp [exchange, houtcome]
  | ok response => simp [exchange, houtcome]

theorem outcome_of_returned [Memory] {octets : Octets} {peer : Peer}
    (hending :
      (exchange settings request octets peer).ending = .returned 0) :
    ∃ response,
      (Exchange.run settings request octets peer).outcome = .ok response := by
  unfold exchange at hending
  cases houtcome : (Exchange.run settings request octets peer).outcome with
  | error stop =>
      simp only [houtcome] at hending
      exact absurd hending (stopped_ne_returned stop)
  | ok response => exact ⟨response, rfl⟩

theorem exchange_output [Memory] (settings : Settings) (request : Request)
    (octets : Octets) (peer : Peer) :
    (exchange settings request octets peer).output =
      Request.display octets ++
        shownResponse settings (exchange settings request octets peer) := by
  cases houtcome : (Exchange.run settings request octets peer).outcome with
  | error stop =>
      have hending := stopped_ne_returned stop
      simp [shownResponse, exchange, houtcome, hending]
  | ok response =>
      have hdelivered := (Exchange.run_octets_of_ok houtcome).2
      simp [shownResponse, exchange, houtcome, hdelivered]

theorem exchange_showsWhatItSends [Memory] (settings : Settings) (request : Request)
    (peer : Peer) :
    ShowsWhatItSends settings request
      (exchange settings request
        (Text.encode (request.text settings.version)) peer) := by
  constructor
  · rw [exchange_output, Request.display, Text.decode_encode]
  · intro before hbefore
    rw [exchange_trace] at hbefore
    obtain ⟨after, hafter⟩ := hbefore
    have hwhole := Exchange.run_written_isPrefix settings request
      (Text.encode (request.text settings.version)) peer
    rw [← hafter, Trace.written_append] at hwhole
    exact (List.prefix_append _ _).trans hwhole
  · intro before event after hsplit hreceive
    rw [exchange_trace] at hsplit
    exact Exchange.run_written_before_receipt hsplit hreceive
  · intro hending
    obtain ⟨response, houtcome⟩ := outcome_of_returned hending
    rw [exchange_trace]
    exact (Exchange.run_octets_of_ok houtcome).1

theorem written_of_requested (hrequest : requestOf settings arguments = .ok request) :
    request.portText = none → Number.IsWritable request.port := by
  simp only [requestOf] at hrequest
  split at hrequest
  next => nomatch hrequest
  next => nomatch hrequest
  next found hfound =>
    split at hrequest
    next => nomatch hrequest
    next =>
      rw [← Except.ok.inj hrequest]
      exact Request.written_of_ofTexts hfound

theorem Asks.run_eq [Memory]
    (hasks : Asks texts environment layer arguments settings request)
    (peer : Peer) :
    run texts environment peer =
      exchange settings request
        (Text.encode (request.text settings.version)) peer := by
  simp only [run, hasks.read, hasks.settled, send, hasks.requested,
    Request.assemble_eq (written_of_requested hasks.requested)]

/-! ## Without a request -/

theorem ne_of_head {text : String} (hhead : text.toList.head? ≠ some 'R')
    (shown : String) : text ≠ "Request:\n" ++ shown := by
  rintro rfl
  apply hhead
  rw [String.toList_append]
  rfl

theorem unsupported_idle [Memory] : Idle unsupported := by
  constructor
  · rfl
  · apply ne_of_head
    change "Invalid HTTP request.\n".toList.head? ≠ some 'R'
    decide

theorem idle_of_no_output {outcome : Outcome} (htrace : outcome.trace = [])
    (houtput : outcome.output = "") : Idle outcome := by
  constructor
  · exact htrace
  · apply ne_of_head
    rw [houtput]
    decide

theorem defective_idle (defect : Settings.Defect) :
    Idle (defective defect) := by
  cases defect <;> exact idle_of_no_output rfl rfl

theorem halted_idle (halt : CommandLine.Halt) : Idle (halted halt) := by
  cases halt with
  | help =>
      constructor
      · rfl
      · apply ne_of_head
        change CommandLine.help.toList.head? ≠ some 'R'
        rw [CommandLine.help, CommandLine.helpLines, List.map_cons,
          String.join_cons, String.toList_append, String.toList_append]
        decide
  | misuse misuse =>
      constructor
      · rfl
      · apply ne_of_head
        change (CommandLine.usage ++ "\n").toList.head? ≠ some 'R'
        rw [String.toList_append]
        decide

theorem method_of_requested
    (hrequest : requestOf settings arguments = .ok request) :
    arguments.method = some "POST" := by
  by_cases hmethod :
      Request.supportedMethods.contains (arguments.method.getD "") = true
  · cases hgiven : arguments.method with
    | none => simp [hgiven, Request.supportedMethods] at hmethod
    | some method =>
        simpa [hgiven, Request.supportedMethods] using hmethod
  · have hrefused : requestOf settings arguments = .error none := by
      simp only [requestOf, Request.ofTexts, if_neg hmethod]
    rw [hrefused] at hrequest
    contradiction

/-- Either there is a request and it is exchanged, or the program stays idle. -/
theorem asks_or_idle [Memory] (texts : List String) (environment : Environment)
    (peer : Peer) :
    (∃ layer arguments settings request,
        Asks texts environment layer arguments settings request) ∨
      Idle (run texts environment peer) := by
  unfold run
  cases hread : CommandLine.read texts with
  | error halt => exact .inr (halted_idle halt)
  | ok given =>
      obtain ⟨layer, arguments⟩ := given
      cases hsettled : Settings.ofEnvironment environment layer with
      | error defect =>
          right
          simpa only [hsettled] using defective_idle defect
      | ok settings =>
          simp only [hsettled, send]
          cases hrequest : requestOf settings arguments with
          | error cause =>
              right
              cases cause with
              | none => exact unsupported_idle
              | some cause => exact idle_of_no_output rfl rfl
          | ok request =>
              left
              refine ⟨layer, arguments, settings, request, ?_⟩
              exact ⟨hread, hsettled, method_of_requested hrequest, hrequest,
                _, Request.assemble_eq (written_of_requested hrequest) settings.version⟩

theorem Asks.calls_ne_nil [Memory]
    (hasks : Asks texts environment layer arguments settings request)
    (peer : Peer) :
    (run texts environment peer).trace.calls ≠ [] := by
  rw [hasks.run_eq, exchange_trace]
  exact Exchange.run_calls_ne_nil _ _ _ _

/-- The resolver or the socket is called exactly when there is a request; then the request is shown and
sent as it is shown; and when nothing is called, no request is shown either. -/
theorem run_shows_what_it_sends [Memory] (texts : List String)
    (environment : Environment) (peer : Peer) :
    let outcome := run texts environment peer
    (outcome.trace.calls ≠ [] ↔
      ∃ layer arguments settings request,
        Asks texts environment layer arguments settings request) ∧
    (∀ layer arguments settings request,
      Asks texts environment layer arguments settings request →
        ShowsWhatItSends settings request outcome) ∧
    (outcome.trace.calls = [] → Idle outcome) := by
  refine ⟨⟨?_, ?_⟩, ?_, ?_⟩
  · intro hcalls
    rcases asks_or_idle texts environment peer with hasks | hidle
    · exact hasks
    · rw [hidle.trace_eq] at hcalls
      contradiction
  · rintro ⟨layer, arguments, settings, request, hasks⟩
    exact hasks.calls_ne_nil peer
  · intro layer arguments settings request hasks
    simp only [hasks.run_eq peer]
    exact exchange_showsWhatItSends settings request peer
  · intro hcalls
    rcases asks_or_idle texts environment peer with
      ⟨layer, arguments, settings, request, hasks⟩ | hidle
    · exact absurd hcalls (hasks.calls_ne_nil peer)
    · exact hidle

/-- A request that the socket accepts in two pieces. -/
theorem run_shows_what_it_sends_in_pieces :
    ShowsWhatItSends Settings.defaults
      { method := "POST", host := "h", port := 80, path := "/",
        portText := some "80" }
      (run ["POST", "h", "80", "/"] [] { sends := [.ok 3] }) := by
  apply (run_shows_what_it_sends _ _ _).2.1 {}
    ⟨some "POST", some "h", some "80", some "/", none, []⟩
  exact ⟨rfl, rfl, rfl, rfl, _, Request.assemble_eq (by nofun) _⟩

end RawPost.Program
