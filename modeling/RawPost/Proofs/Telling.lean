import RawPost.Proofs.Ending
import RawPost.Proofs.Quotation
import RawPost.Proofs.Session

/-!
# What is told of a failure

A stage that fails says so in fixed words, with the values that it met between them: the host or the address
and the port that it was given, the octets that it has counted, and the text of the fault that its last call
came back with.  The values are told as they are, since none of them is ever read as a template.

The program passes on what a stage says.  It adds a word in front and an end of line behind, and reads
nothing in between.
-/

namespace RawPost

namespace Exchange

/-- What is told of a demand that failed, by the last of its calls; a port that is told can be written. -/
inductive Tells (settings : Settings) : Demand → Trace → Concern → String → Prop where
  | notOpened {events : Trace} {fault : Fault} (hsystem : fault.isSystem = true)
      (hcall : events.lastCall? = some (.opened (.error fault))) :
      Tells settings .openSocket events .socket ("Cannot open socket: " ++ fault.text)
  | notResolved {host : String} {events : Trace} {fault : Fault}
      (hfault : fault.isSystem = true ∨ fault.isEncoding = true)
      (hcall : events.lastCall? = some (.resolved host (.error fault))) :
      Tells settings (.resolve host) events .resolution
        ("No such host " ++ Text.quote host ++ ": " ++ fault.text)
  | connectTimedOut {address : String} {port : Int} {events : Trace} {fault : Fault}
      (hport : Number.IsWritable port) (htimeout : fault.isTimeout = true)
      (hcall : events.lastCall? = some (.connected address port (.error fault))) :
      Tells settings (.connect address port) events .connecting
        ("Timed out connecting to " ++ address ++ ":" ++ Number.integerText port)
  | notConnected {address : String} {port : Int} {events : Trace} {fault : Fault}
      (hport : Number.IsWritable port) (htimeout : fault.isTimeout = false)
      (hsystem : fault.isSystem = true)
      (hcall : events.lastCall? = some (.connected address port (.error fault))) :
      Tells settings (.connect address port) events .connecting
        ("Cannot connect to " ++ address ++ ":" ++ Number.integerText port ++ ": " ++
          fault.text)
  | invalidPort {address : String} {port : Int} {events : Trace} {fault : Fault}
      (hport : Number.IsWritable port) (hrange : fault.isRange = true)
      (hcall : events.lastCall? = some (.connected address port (.error fault))) :
      Tells settings (.connect address port) events .connecting
        ("Invalid port " ++ Number.integerText port ++ ": " ++ fault.text)
  | closedWhileSending {octets unsent : Octets} {events : Trace}
      (hcall : events.lastCall? = some (.sent unsent (.ok 0))) :
      Tells settings (.send octets) events .writing
        ("Connection closed after " ++ Number.integerText events.written.length ++ " of " ++
          Number.integerText octets.length ++ " bytes")
  | sendTimedOut {octets unsent : Octets} {events : Trace} {fault : Fault}
      (htimeout : fault.isTimeout = true)
      (hcall : events.lastCall? = some (.sent unsent (.error fault))) :
      Tells settings (.send octets) events .writing
        ("Timed out after writing " ++ Number.integerText events.written.length ++ " of " ++
          Number.integerText octets.length ++ " bytes")
  | notSent {octets unsent : Octets} {events : Trace} {fault : Fault}
      (htimeout : fault.isTimeout = false) (hsystem : fault.isSystem = true)
      (hcall : events.lastCall? = some (.sent unsent (.error fault))) :
      Tells settings (.send octets) events .writing
        ("Cannot write request to the socket: " ++ fault.text)
  | tooLarge {events : Trace}
      (hlength : (events.delivered.length : Int) = settings.responseLimit) :
      Tells settings .receive events .capacity
        ("Cannot store the complete response from the socket (limit " ++
          Number.integerText settings.responseLimit ++ " bytes)")
  | receiveTimedOut {room : Nat} {events : Trace} {fault : Fault}
      (htimeout : fault.isTimeout = true)
      (hcall : events.lastCall? = some (.received room (.error fault))) :
      Tells settings .receive events .reading "Timed out reading response from the socket"
  | notReceived {room : Nat} {events : Trace} {fault : Fault}
      (htimeout : fault.isTimeout = false) (hsystem : fault.isSystem = true)
      (hcall : events.lastCall? = some (.received room (.error fault))) :
      Tells settings .receive events .reading
        ("Cannot read response from the socket: " ++ fault.text)

variable {settings : Settings} {peer : Peer} {failure : Failure}

/-! ## Stage by stage -/

theorem eq_of_ofSystem {given : Failure} {fault : Fault}
    (hstop : Stop.ofSystem given fault = .failure failure) :
    fault.isSystem = true ∧ given = failure := by
  unfold Stop.ofSystem at hstop
  split at hstop
  next hsystem =>
    rw [Stop.failure.injEq] at hstop
    exact ⟨hsystem, hstop⟩
  next => contradiction

theorem eq_of_ofPort {given : Failure} {port : Int}
    (hstop : Stop.ofPort port given = .failure failure) :
    Number.IsWritable port ∧ given = failure := by
  unfold Stop.ofPort at hstop
  split at hstop
  next hport => exact ⟨hport, Stop.failure.inj hstop⟩
  next => contradiction

theorem openSocket_tells
    (hfailed : (openSocket peer).outcome = .error (.failure failure)) :
    Tells settings .openSocket (openSocket peer).events failure.concern failure.wording := by
  cases hopening : peer.opening with
  | ok _ =>
      simp [openSocket, Action.openSocket, Action.mapError, hopening, Except.mapError] at hfailed
  | error fault =>
      have hstep : openSocket peer =
          ⟨.error (openStop fault), [.opened (.error fault)], peer⟩ := by
        simp [openSocket, Action.openSocket, Action.mapError, hopening, Except.mapError]
      rw [hstep] at hfailed ⊢
      rw [Except.error.injEq] at hfailed
      obtain ⟨hsystem, rfl⟩ := eq_of_ofSystem hfailed
      exact .notOpened hsystem (Trace.lastCall?_singleton rfl rfl)

theorem resolve_tells {host : String}
    (hfailed : (resolve host peer).outcome = .error (.failure failure)) :
    Tells settings (.resolve host) (resolve host peer).events failure.concern
      failure.wording := by
  cases hresolution : peer.resolution with
  | ok address => simp [resolve_eq_of_ok hresolution] at hfailed
  | error fault =>
      rw [resolve_eq_of_error hresolution] at hfailed ⊢
      rw [Except.error.injEq, resolveStop_eq_failure_iff] at hfailed
      obtain ⟨hfault, rfl⟩ := hfailed
      exact .notResolved hfault (Trace.lastCall?_singleton rfl rfl)

/-- A connection that is refused is told of by the kind of the fault. -/
theorem tells_of_connectStop {address : String} {port : Int} {fault : Fault} {events : Trace}
    (hstop : connectStop address port fault = .failure failure)
    (hcall : events.lastCall? = some (.connected address port (.error fault))) :
    Tells settings (.connect address port) events failure.concern failure.wording := by
  unfold connectStop at hstop
  split at hstop
  next htimeout =>
    obtain ⟨hport, rfl⟩ := eq_of_ofPort hstop
    exact .connectTimedOut hport htimeout hcall
  next htimeout =>
    split at hstop
    next hrange =>
      obtain ⟨hport, rfl⟩ := eq_of_ofPort hstop
      exact .invalidPort hport hrange hcall
    next =>
      split at hstop
      next hsystem =>
        obtain ⟨hport, rfl⟩ := eq_of_ofPort hstop
        exact .notConnected hport (by simpa using htimeout) hsystem hcall
      next => contradiction

theorem Connecting.tells {address : String} {port : Int} {step : Step Stop Unit}
    (hconnecting : Connecting settings address port peer step)
    (hfailed : step.outcome = .error (.failure failure)) :
    Tells settings (.connect address port) step.events failure.concern failure.wording := by
  cases hconnecting with
  | noConnectTimeout => simp at hfailed
  | refused hfirst hconnect =>
      rw [Except.error.injEq] at hfailed
      apply tells_of_connectStop hfailed
      exact Trace.lastCall?_cons (Trace.lastCall?_singleton rfl rfl)
  | noReadTimeout => simp at hfailed
  | unwritten => simp at hfailed
  | connected => simp at hfailed

theorem words_of_tellsOfWriting [Memory] {words : String}
    (htells : TellsOfWriting words (.failure failure)) :
    failure.concern = .writing ∧ failure.wording = words := by
  obtain ⟨told, htold, hreport⟩ := htells
  rw [Stop.failure.injEq] at htold
  rw [← htold, Failure.report_eq_wording, Except.ok.injEq, Report.mk.injEq] at hreport
  exact ⟨hreport.1, hreport.2.1⟩

theorem StopsSending.tells [Memory] {octets unsent : Octets} {answer : Except Fault Nat}
    {events : Trace}
    (hstops : StopsSending events.written.length octets.length answer (.failure failure))
    (hcall : events.lastCall? = some (.sent unsent answer)) :
    Tells settings (.send octets) events failure.concern failure.wording := by
  cases hstops with
  | closed hstop =>
      obtain ⟨hconcern, hwording⟩ := words_of_tellsOfWriting hstop
      rw [hconcern, hwording]
      exact .closedWhileSending hcall
  | timedOut htimeout hstop =>
      obtain ⟨hconcern, hwording⟩ := words_of_tellsOfWriting hstop
      rw [hconcern, hwording]
      exact .sendTimedOut htimeout hcall
  | refused htimeout hsystem hstop =>
      obtain ⟨hconcern, hwording⟩ := words_of_tellsOfWriting hstop
      rw [hconcern, hwording]
      exact .notSent htimeout hsystem hcall

theorem send_tells [Memory] {octets : Octets}
    (hfailed : (send octets peer).outcome = .error (.failure failure)) :
    Tells settings (.send octets) (send octets peer).events failure.concern
      failure.wording := by
  have hrun := sendRest_sending octets.length octets peer
  rcases hloop : sendRest octets.length octets peer with ⟨outcome, events, after⟩
  rw [hloop] at hrun
  cases outcome with
  | ok _ => simp [send_eq_of_ok hloop] at hfailed
  | error stop =>
      rw [send_eq_of_error hloop] at hfailed ⊢
      rw [Except.error.injEq] at hfailed
      rw [hfailed] at hrun
      obtain ⟨before, unsent, answer, hevents, -, -, hstops⟩ := hrun.stops rfl rfl
      apply hstops.tells
      simp only at hevents
      rw [hevents]
      exact Trace.lastCall?_append (Trace.lastCall?_singleton rfl rfl)

/-- A full buffer has the capacity that the settings give. -/
theorem Receiving.capacity_eq [Memory] {chunkSize : Int} {empty last : Response} {fault : Option Fault}
    {step : Step Stop (Response × Option Fault)}
    (hbuffer : Response.ofCapacity settings.responseLimit = .ok empty)
    (hrun : Receiving chunkSize empty peer step) (hok : step.outcome = .ok (last, fault)) :
    (last.capacity : Int) = settings.responseLimit := by
  obtain ⟨hpositive, rfl⟩ := Response.eq_of_ofCapacity hbuffer
  rw [hrun.response_of_ok hok, Response.append]
  exact Int.toNat_of_nonneg hpositive.le

theorem tells_of_receiveStop {fault : Fault} {room : Nat} {events : Trace}
    (hstop : receiveStop fault = .failure failure)
    (hcall : events.lastCall? = some (.received room (.error fault))) :
    Tells settings .receive events failure.concern failure.wording := by
  unfold receiveStop at hstop
  split at hstop
  next htimeout =>
    rw [Stop.failure.injEq] at hstop
    rw [← hstop]
    exact .receiveTimedOut htimeout hcall
  next htimeout =>
    obtain ⟨hsystem, rfl⟩ := eq_of_ofSystem hstop
    exact .notReceived (by simpa using htimeout) hsystem hcall

theorem Reception.tells [Memory] {step : Step Stop Response}
    (hreception : Reception settings peer step)
    (hfailed : step.outcome = .error (.failure failure)) :
    Tells settings .receive step.events failure.concern failure.wording := by
  cases hreception with
  | noBuffer => simp at hfailed
  | escaped hbuffer hloop =>
      obtain ⟨fault, room, hstop, -⟩ := hloop.lastCall?_of_error rfl
      simp [hstop] at hfailed
  | full hbuffer hloop hfull =>
      have hcapacity := hloop.capacity_eq hbuffer rfl
      have hlength := hloop.length_of_full hbuffer rfl hfull
      rw [Except.error.injEq, Stop.failure.injEq] at hfailed
      have hwording : failure.wording =
          "Cannot store the complete response from the socket (limit " ++
            Number.integerText settings.responseLimit ++ " bytes)" := by
        rw [← hfailed, ← hcapacity]
        rfl
      rw [hwording, ← hfailed]
      exact .tooLarge hlength
  | faulty hbuffer hloop hfull =>
      obtain ⟨-, room, hcall⟩ := hloop.lastCall?_of_fault rfl
      rw [Except.error.injEq] at hfailed
      exact tells_of_receiveStop hfailed hcall
  | complete => simp at hfailed

/-- A failure of a stage is told with the values that the stage met. -/
theorem perform_tells [Memory] {demand : Demand}
    (hfailed : (demand.perform settings peer).outcome = .error (.failure failure)) :
    Tells settings demand (demand.perform settings peer).events failure.concern
      failure.wording := by
  cases demand with
  | openSocket => exact openSocket_tells (Step.eq_error_of_map hfailed)
  | resolve host => exact resolve_tells (Step.eq_error_of_map hfailed)
  | connect address port =>
      exact (connect_connecting settings address port peer).tells
        (Step.eq_error_of_map hfailed)
  | send octets => exact send_tells (Step.eq_error_of_map hfailed)
  | receive =>
      exact (receive_reception settings peer).tells (Step.eq_error_of_map hfailed)

/-! ## The stage at which an exchange fails -/

/-- What an exchange asks for. -/
inductive Asked (request : Request) (octets : Octets) : Demand → Prop where
  | openSocket : Asked request octets .openSocket
  | resolve : Asked request octets (.resolve request.host)
  | connect (address : String) : Asked request octets (.connect address request.port)
  | send : Asked request octets (.send octets)
  | receive : Asked request octets .receive

variable {request : Request} {octets : Octets}

theorem mem_stage {α : Type} {product : α → Product} {step : Step Stop α}
    {next : α → Peer → List (Step Stop Product)} {member : Step Stop Product}
    (hmem : member ∈ stage product step next) :
    member = step.map product ∨
      ∃ a, step.outcome = .ok a ∧ member ∈ next a step.peer := by
  rcases List.mem_cons.mp hmem with hfirst | hrest
  · exact .inl hfirst
  · right
    cases houtcome : step.outcome with
    | error stop => simp [houtcome] at hrest
    | ok a => exact ⟨a, rfl, by simpa [houtcome] using hrest⟩

theorem exists_demand_of_mem [Memory] {step : Step Stop Product}
    (hmem : step ∈ conversationStages settings request octets peer) :
    ∃ demand before, Asked request octets demand ∧ step = demand.perform settings before := by
  rcases mem_stage hmem with hstep | ⟨address, -, hmem⟩
  · exact ⟨.resolve request.host, _, .resolve, hstep⟩
  rcases mem_stage hmem with hstep | ⟨_, -, hmem⟩
  · exact ⟨.connect address request.port, _, .connect address, hstep⟩
  rcases mem_stage hmem with hstep | ⟨_, -, hmem⟩
  · exact ⟨.send octets, _, .send, hstep⟩
  rcases mem_stage hmem with hstep | ⟨_, -, hmem⟩
  · exact ⟨.receive, _, .receive, hstep⟩
  · contradiction

theorem failed_of_afterClosing {outcome : Except Stop Response} {closed : Except Fault Unit}
    (hfailed : afterClosing outcome closed = .error (.failure failure)) :
    outcome = .error (.failure failure) := by
  cases closed with
  | ok _ => exact hfailed
  | error fault =>
      rw [afterClosing] at hfailed
      split at hfailed
      · exact hfailed
      · simp at hfailed

/-- An exchange that fails does so in one of its stages, and tells what that stage tells. -/
theorem run_tells [Memory]
    (hfailed : (run settings request octets peer).outcome = .error (.failure failure)) :
    ∃ demand part, Asked request octets demand ∧
      part <:+: (run settings request octets peer).events ∧
      Tells settings demand part failure.concern failure.wording := by
  cases hopen : (openSocket peer).outcome with
  | error stop =>
      rw [run_eq_of_openSocket_error hopen] at hfailed ⊢
      obtain rfl : stop = .failure failure := by simpa using hfailed
      exact ⟨.openSocket, _, .openSocket, List.infix_rfl, openSocket_tells hopen⟩
  | ok _ =>
      rw [run_eq_of_openSocket_ok hopen] at hfailed ⊢
      have hconverse := failed_of_afterClosing hfailed
      obtain ⟨hevents, last, hlast, houtcome, -⟩ :=
        converse_compose settings request octets peer
      have hmem := List.mem_of_getLast? hlast
      obtain ⟨demand, before, hasked, rfl⟩ := exists_demand_of_mem hmem
      rw [hconverse] at houtcome
      refine ⟨demand, _, hasked, ?_, perform_tells houtcome.symm⟩
      have hpart : (demand.perform settings before).events <:+:
          (converse settings request octets peer).events := by
        rw [hevents]
        exact List.infix_of_mem_flatten (List.mem_map_of_mem hmem)
      exact (hpart.trans (List.infix_append' _ _ _))

end Exchange

namespace Program

open Exchange

variable {texts : List String} {environment : Environment} {layer : Settings.Layer}
  {arguments : CommandLine.Arguments} {settings : Settings} {request : Request} {peer : Peer}

/-! ## What the program tells -/

theorem requestOf_ne_template (e : Text.Template.Error) :
    requestOf settings arguments ≠ .error (some (.template e)) := by
  unfold requestOf
  intro hrequest
  dsimp only at hrequest
  split at hrequest
  · simp at hrequest
  · simp at hrequest
  · split at hrequest <;> simp at hrequest

theorem stopped_ne_template [Memory] (stop : Stop) (e : Text.Template.Error) :
    (stopped stop).1 ≠ .escaped (.template e) := by
  cases stop with
  | failure failure => simp [stopped, failure.report_eq]
  | fault fault => simp [stopped]
  | noBuffer refusal => simp [stopped]

theorem exchange_ne_template [Memory] (settings : Settings) (request : Request) (octets : Octets)
    (peer : Peer) (e : Text.Template.Error) :
    (exchange settings request octets peer).ending ≠ .escaped (.template e) := by
  cases houtcome : (Exchange.run settings request octets peer).outcome with
  | ok response => simp [exchange, houtcome]
  | error stop =>
      simp only [exchange, houtcome]
      exact stopped_ne_template stop e

theorem run_ne_template [Memory] (texts : List String) (environment : Environment) (peer : Peer)
    (e : Text.Template.Error) :
    (run texts environment peer).ending ≠ .escaped (.template e) := by
  cases hread : CommandLine.read texts with
  | error halt => cases halt <;> simp [run, hread, halted]
  | ok given =>
      obtain ⟨layer, arguments⟩ := given
      cases hsettled : Settings.ofEnvironment environment layer with
      | error defect => cases defect <;> simp [run, hread, hsettled, defective]
      | ok settings =>
          simp only [run, hread, hsettled, send]
          cases hrequest : requestOf settings arguments with
          | error cause =>
              cases cause with
              | none => simp [unsupported_eq]
              | some cause =>
                  intro hending
                  rw [Ending.escaped.injEq] at hending
                  rw [hending] at hrequest
                  exact requestOf_ne_template e hrequest
          | ok request =>
              simp only [Request.assemble_eq (written_of_requested hrequest)]
              exact exchange_ne_template _ _ _ _ e

theorem exchange_of_failed [Memory] {octets : Octets} {failure : Failure}
    (hfailed : (Exchange.run settings request octets peer).outcome =
      .error (.failure failure)) :
    exchange settings request octets peer = {
      ending := .returned 1
      output := Request.display octets
      diagnostics :=
        records settings.debug (Exchange.run settings request octets peer).events ++
          [.record .error ("Error: " ++ failure.wording)]
      trace := (Exchange.run settings request octets peer).events } := by
  simp only [exchange, hfailed, stopped, failure.report_eq_wording]

theorem errorOutput_append_error {outcome : Outcome} {told : List Diagnostic}
    {message : String}
    (hdiagnostics : outcome.diagnostics = told ++ [.record .error ("Error: " ++ message)])
    (stamp : String) :
    outcome.errorOutput stamp = String.join (told.map (Diagnostic.render stamp)) ++
      (stamp ++ " - ERROR - Error: " ++ message ++ "\n") := by
  have hmark : stamp ++ " - " ++ "ERROR" ++ " - " ++ "Error: " =
      stamp ++ " - ERROR - Error: " := by
    rw [String.append_assoc, String.append_assoc, String.append_assoc]
    rfl
  rw [Outcome.errorOutput, hdiagnostics, List.map_append, String.join_append]
  simp [Diagnostic.render, Level.name, ← String.append_assoc, hmark]

/-- What the program tells of failures.  It has a message for each; the one about the method stands by itself,
and the one about an exchange stands behind a word and all that was logged. -/
structure TellsFailures [Memory] (texts : List String) (environment : Environment) (peer : Peer)
    (outcome : Outcome) : Prop where
  renders : ∀ e, outcome.ending ≠ .escaped (.template e)
  unsupported : ∀ layer arguments settings,
    CommandLine.read texts = .ok (layer, arguments) →
    Settings.ofEnvironment environment layer = .ok settings →
    arguments.method ≠ some "POST" →
      outcome = { ending := .returned 1, output := "Invalid HTTP request.\n" }
  failed : ∀ layer arguments settings request failure,
    Asks texts environment layer arguments settings request →
    (Exchange.run settings request (Text.encode (request.text settings.version)) peer).outcome =
      .error (.failure failure) →
    ∃ demand part,
      Asked request (Text.encode (request.text settings.version)) demand ∧
      part <:+: outcome.trace ∧
      Tells settings demand part failure.concern failure.wording ∧
      outcome.ending = .returned 1 ∧
      ∀ stamp, outcome.errorOutput stamp =
        String.join ((records settings.debug outcome.trace).map (Diagnostic.render stamp)) ++
          (stamp ++ " - ERROR - Error: " ++ failure.wording ++ "\n")

theorem run_tellsFailures [Memory] (texts : List String) (environment : Environment) (peer : Peer) :
    TellsFailures texts environment peer (run texts environment peer) := by
  constructor
  · exact run_ne_template texts environment peer
  · intro layer arguments settings hread hsettled hmethod
    simp only [run, hread, hsettled, send, requestOf_of_method hmethod, unsupported_eq]
  · intro layer arguments settings request failure hasks hfailed
    rw [hasks.run_eq, exchange_of_failed hfailed]
    obtain ⟨demand, part, hasked, hpart, htells⟩ := run_tells hfailed
    exact ⟨demand, part, hasked, hpart, htells, rfl, errorOutput_append_error rfl⟩

/-- Every failure has its message, whatever its values are.  A failure of a stage has the values that the stage
met, and they stand in the message as they are; the program passes the message on as it is. -/
theorem failures_told_literally [Memory] :
    (∀ failure : Failure, failure.report = .ok ⟨failure.concern, failure.wording, 1⟩) ∧
    (∀ settings peer demand failure,
      (Demand.perform settings peer demand).outcome = .error (.failure failure) →
        Tells settings demand (Demand.perform settings peer demand).events
          failure.concern failure.wording) ∧
    ∀ texts environment peer,
      TellsFailures texts environment peer (run texts environment peer) := by
  refine ⟨Failure.report_eq_wording, ?_, run_tellsFailures⟩
  intro settings peer demand failure hfailed
  exact perform_tells hfailed

/-- A host and a fault with marks of templates in them. -/
theorem failures_told_literally_of_marks :
    let fault : Fault := ⟨.system .hostLookup, "100% \x7b0\x7d %d"⟩
    let peer : Peer := { resolution := .error fault }
    Tells Settings.defaults (.resolve "%s") [.resolved "%s" (.error fault)] .resolution
      "No such host '%s': 100% \x7b0\x7d %d" ∧
    (run ["POST", "%s", "80", "/"] [] peer).errorOutput "now" =
      "now - ERROR - Error: No such host '%s': 100% \x7b0\x7d %d\n" := by
  intro fault peer
  let failure : Failure := .notResolved "%s" fault
  have hwording : failure.wording = "No such host '%s': 100% \x7b0\x7d %d" := by
    decide
  have htells := failures_told_literally.2.1 Settings.defaults peer (.resolve "%s") failure rfl
  rw [hwording] at htells
  refine ⟨htells, ?_⟩
  have hasks : Asks ["POST", "%s", "80", "/"] [] {}
      ⟨some "POST", some "%s", some "80", some "/", none, []⟩ Settings.defaults
      { method := "POST", host := "%s", port := 80, path := "/", portText := some "80" } :=
    ⟨rfl, rfl, rfl, rfl, _, Request.assemble_eq (by nofun) _⟩
  have hrecords : records Settings.defaults.debug
      (run ["POST", "%s", "80", "/"] [] peer).trace = [] := by
    rw [hasks.run_eq]
    rfl
  obtain ⟨_, _, -, -, -, -, hprinted⟩ :=
    (failures_told_literally.2.2 ["POST", "%s", "80", "/"] [] peer).failed _ _ _ _ failure
      hasks rfl
  rw [hprinted "now", hrecords, hwording]
  rfl

end Program

end RawPost
