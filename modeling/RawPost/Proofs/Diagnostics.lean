import RawPost.Proofs.Ending
import RawPost.Proofs.Interleaving

/-!
# What diagnostics leave alone

Whether everything is logged and whether the response is printed are the last things that the program asks
its settings: the request, the exchange and its end are the same in any case.  So the variable that turns
the log on changes nothing but which records of the lowest level are told, and the switch that prints the
response changes nothing but that the response stands behind the request if there is one.
-/

namespace RawPost

namespace Settings

/-- Settings with a choice of what is told. -/
def withDiagnostics (settings : Settings) (printResponse debug : Bool) : Settings :=
  { settings with printResponse, debug }

def Layer.withDiagnostics (layer : Layer) (printResponse debug : Option Bool) : Layer :=
  { layer with printResponse, debug }

/-- The two choices are not looked at before the four checks have been passed. -/
theorem Layer.settle_withDiagnostics (layer : Layer)
    (printResponse debug : Option Bool) :
    (layer.withDiagnostics printResponse debug).settle =
      layer.settle.map fun settings =>
        settings.withDiagnostics (printResponse.getD defaults.printResponse)
          (debug.getD defaults.debug) := by
  simp only [Layer.settle, map_bind_eq]
  rfl

theorem Layer.over_withDiagnostics (upper lower : Layer)
    (printResponse debug below : Option Bool) :
    (upper.withDiagnostics printResponse debug).over (lower.withDiagnostics none below) =
      (upper.over lower).withDiagnostics printResponse (debug.or below) := by
  simp [Layer.over, Layer.withDiagnostics]

variable {first second : Environment}

theorem layer_withDiagnostics (hagree : AgreeBut debugVariable first second) :
    Layer.ofEnvironment second =
      (Layer.ofEnvironment first).map fun layer =>
        layer.withDiagnostics none ((second.lookup debugVariable).map isOn) := by
  have hconnect := hagree connectTimeoutVariable (by decide)
  have hread := hagree readTimeoutVariable (by decide)
  have hlimit := hagree responseLimitVariable (by decide)
  simp only [Layer.ofEnvironment, map_bind_eq, readVariable_congr hconnect,
    readVariable_congr hread, readVariable_congr hlimit]
  rfl

theorem ofEnvironment_withDiagnostics (hagree : AgreeBut debugVariable first second)
    (above : Layer) (printResponse debug : Option Bool) :
    ofEnvironment second (above.withDiagnostics printResponse debug) =
      (ofEnvironment first above).map fun settings =>
        settings.withDiagnostics (printResponse.getD defaults.printResponse)
          ((debug.or ((second.lookup debugVariable).map isOn)).getD defaults.debug) := by
  rw [ofEnvironment, layer_withDiagnostics hagree, ofEnvironment]
  cases Layer.ofEnvironment first with
  | error defect => rfl
  | ok below =>
      simp only [Except.map, bind, Except.bind, Layer.over_withDiagnostics,
        Layer.settle_withDiagnostics]

end Settings

theorem Exchange.run_withDiagnostics [Memory] (settings : Settings) (printResponse debug : Bool)
    (request : Request) (octets : Octets) :
    run (settings.withDiagnostics printResponse debug) request octets =
      run settings request octets := rfl

namespace Program

open CommandLine Settings

/-! ## Outcomes -/

/-- A log record of the lowest level; a plain line is no log record. -/
def Diagnostic.isDebug : Diagnostic → Bool
  | .record .debug _ => true
  | _ => false

/-- The same but for log records of the lowest level. -/
structure SameButDebug (first second : Outcome) : Prop where
  ending_eq : second.ending = first.ending
  output_eq : second.output = first.output
  trace_eq : second.trace = first.trace
  diagnostics_eq : second.diagnostics.filter (!·.isDebug) =
    first.diagnostics.filter (!·.isDebug)

/-- The same, and if the program ends well the text of what came in is told behind all else. -/
structure AppendsResponse (quiet telling : Outcome) : Prop where
  ending_eq : telling.ending = quiet.ending
  trace_eq : telling.trace = quiet.trace
  diagnostics_eq : telling.diagnostics = quiet.diagnostics
  output_eq : telling.output = quiet.output ++
    if quiet.ending = .returned 0 then Text.decode quiet.trace.delivered else ""

theorem SameButDebug.refl (outcome : Outcome) : SameButDebug outcome outcome :=
  ⟨rfl, rfl, rfl, rfl⟩

theorem AppendsResponse.refl {outcome : Outcome} (hending : outcome.ending ≠ .returned 0) :
    AppendsResponse outcome outcome := by
  refine ⟨rfl, rfl, rfl, ?_⟩
  rw [if_neg hending, String.append_empty]

theorem filter_records (debug : Bool) (trace : Trace) :
    (records debug trace).filter (!·.isDebug) = records false trace := by
  induction trace with
  | nil => rfl
  | cons event trace ih =>
      unfold records at ih ⊢
      rw [List.filterMap_cons, List.filterMap_cons]
      cases event with
      | logged level message =>
          cases level with
          | debug => cases debug <;> simpa [Diagnostic.isDebug] using ih
          | warning => simpa [Diagnostic.isDebug] using ih
          | error => simpa [Diagnostic.isDebug] using ih
      | _ => simpa using ih

variable {texts : List String} {environment first second : Environment} {layer : Layer}
  {arguments : Arguments} {settings : Settings} {peer : Peer}

/-! ## The exchange -/

theorem exchange_sameButDebug [Memory] (settings : Settings) (request : Request) (octets : Octets)
    (peer : Peer) (printResponse debug other : Bool) :
    SameButDebug
      (exchange (settings.withDiagnostics printResponse debug) request octets peer)
      (exchange (settings.withDiagnostics printResponse other) request octets peer) := by
  simp only [exchange, Exchange.run_withDiagnostics]
  cases (Exchange.run settings request octets peer).outcome with
  | error stop =>
      refine ⟨rfl, rfl, rfl, ?_⟩
      simp only [List.filter_append, filter_records]
  | ok response =>
      refine ⟨rfl, rfl, rfl, ?_⟩
      simp only [filter_records]

theorem exchange_appendsResponse [Memory] (settings : Settings) (request : Request)
    (octets : Octets) (peer : Peer) (debug : Bool) :
    AppendsResponse
      (exchange (settings.withDiagnostics false debug) request octets peer)
      (exchange (settings.withDiagnostics true debug) request octets peer) := by
  simp only [exchange, Exchange.run_withDiagnostics]
  cases houtcome : (Exchange.run settings request octets peer).outcome with
  | error stop => exact .refl (stopped_ne_returned stop)
  | ok response =>
      refine ⟨rfl, rfl, rfl, ?_⟩
      have hdelivered := (Exchange.run_octets_of_ok houtcome).2
      simp [withDiagnostics, hdelivered]

/-- Whether there is an exchange is decided before anything is told. -/
theorem send_withDiagnostics [Memory] (settings : Settings) (arguments : Arguments) (peer : Peer) :
    (∃ request octets, ∀ printResponse debug,
      send (settings.withDiagnostics printResponse debug) arguments peer =
        exchange (settings.withDiagnostics printResponse debug) request octets peer) ∨
    ∃ outcome : Outcome, outcome.ending ≠ .returned 0 ∧ ∀ printResponse debug,
      send (settings.withDiagnostics printResponse debug) arguments peer = outcome := by
  have hsame (printResponse debug : Bool) :
      requestOf (settings.withDiagnostics printResponse debug) arguments =
        requestOf settings arguments := rfl
  cases hrequest : requestOf settings arguments with
  | error cause =>
      right
      cases cause with
      | none =>
          refine ⟨unsupported, by simp [unsupported_eq], ?_⟩
          intro printResponse debug
          simp only [send, hsame, hrequest]
      | some cause =>
          refine ⟨{ ending := .escaped cause }, by simp, ?_⟩
          intro printResponse debug
          simp only [send, hsame, hrequest]
  | ok request =>
      left
      refine ⟨request, Text.encode (request.text settings.version), ?_⟩
      intro printResponse debug
      simp only [send, hsame, hrequest, Request.assemble_eq (written_of_requested hrequest)]
      rfl

theorem send_sameButDebug [Memory] (settings : Settings) (arguments : Arguments) (peer : Peer)
    (printResponse debug other : Bool) :
    SameButDebug (send (settings.withDiagnostics printResponse debug) arguments peer)
      (send (settings.withDiagnostics printResponse other) arguments peer) := by
  rcases send_withDiagnostics settings arguments peer with
    ⟨request, octets, hsend⟩ | ⟨outcome, -, hsend⟩
  · rw [hsend, hsend]
    exact exchange_sameButDebug settings request octets peer printResponse debug other
  · rw [hsend, hsend]
    exact .refl outcome

theorem send_appendsResponse [Memory] (settings : Settings) (arguments : Arguments) (peer : Peer)
    (debug : Bool) :
    AppendsResponse (send (settings.withDiagnostics false debug) arguments peer)
      (send (settings.withDiagnostics true debug) arguments peer) := by
  rcases send_withDiagnostics settings arguments peer with
    ⟨request, octets, hsend⟩ | ⟨outcome, hending, hsend⟩
  · rw [hsend, hsend]
    exact exchange_appendsResponse settings request octets peer debug
  · rw [hsend, hsend]
    exact .refl hending

/-! ## The program -/

theorem halted_ne_returned (halt : Halt) : (halted halt).ending ≠ .returned 0 := by
  cases halt <;> simp [halted]

theorem defective_ne_returned (defect : Defect) :
    (defective defect).ending ≠ .returned 0 := by
  cases defect <;> simp [defective]

/-- The program under a choice of what is told is the program without it, up to what it sends under. -/
theorem run_withDiagnostics [Memory] (hagree : AgreeBut debugVariable first second)
    {printResponse debug : Option Bool}
    (hread : read texts = .ok (layer.withDiagnostics printResponse debug, arguments))
    (peer : Peer) :
    run texts second peer =
      match ofEnvironment first layer with
      | .error defect => defective defect
      | .ok settings =>
        send
          (settings.withDiagnostics (printResponse.getD defaults.printResponse)
            ((debug.or ((second.lookup debugVariable).map isOn)).getD defaults.debug))
          arguments peer := by
  simp only [run, hread, ofEnvironment_withDiagnostics hagree]
  cases ofEnvironment first layer <;> rfl

theorem run_sameButDebug [Memory] (hagree : AgreeBut debugVariable first second)
    (texts : List String) (peer : Peer) :
    SameButDebug (run texts first peer) (run texts second peer) := by
  cases hread : read texts with
  | error halt =>
      simp only [run, hread]
      exact .refl _
  | ok given =>
      obtain ⟨layer, arguments⟩ := given
      have hsame := AgreeBut.refl debugVariable first
      have hkept : layer = layer.withDiagnostics layer.printResponse layer.debug := rfl
      rw [hkept] at hread
      rw [run_withDiagnostics hsame hread, run_withDiagnostics hagree hread]
      cases ofEnvironment first layer with
      | error defect => exact .refl _
      | ok settings => exact send_sameButDebug settings arguments peer _ _ _

theorem run_appendsResponse [Memory] (positionals : List Positional) (environment : Environment)
    (peer : Peer) :
    AppendsResponse (run (positionals.map Subtype.val) environment peer)
      (run ("--print-response" :: positionals.map Subtype.val) environment peer) := by
  have hquiet : read (positionals.map Subtype.val) =
      (misusing (slotted (positionals.map Subtype.val))).map fun arguments =>
        (({} : Layer).withDiagnostics none none, arguments) :=
    (read_arguments positionals).trans (readApart_of_applied rfl positionals)
  have htelling : read ("--print-response" :: positionals.map Subtype.val) =
      (misusing (slotted (positionals.map Subtype.val))).map fun arguments =>
        (({} : Layer).withDiagnostics (some true) none, arguments) :=
    (read_option_first .printResponse positionals).trans
      (readApart_of_applied rfl positionals)
  cases hslots : misusing (slotted (positionals.map Subtype.val)) with
  | error halt =>
      rw [hslots] at hquiet htelling
      simp only [run, hquiet, htelling, Except.map]
      exact .refl (halted_ne_returned halt)
  | ok arguments =>
      rw [hslots] at hquiet htelling
      have hsame := AgreeBut.refl debugVariable environment
      rw [run_withDiagnostics hsame hquiet, run_withDiagnostics hsame htelling]
      cases ofEnvironment environment {} with
      | error defect => exact .refl (defective_ne_returned defect)
      | ok settings => exact send_appendsResponse settings arguments peer _

/-- The variable for the log changes nothing but which log records of the lowest level are told: the end,
the output, all calls and all other lines for the user stay as they are.  The switch for the response
changes nothing but that, if the program ends well, the text of what came in follows the other output. -/
theorem run_apart_from_diagnostics [Memory] (peer : Peer) :
    (∀ (texts : List String) (first second : Environment),
      AgreeBut debugVariable first second →
        SameButDebug (run texts first peer) (run texts second peer)) ∧
    ∀ (positionals : List Positional) (environment : Environment),
      AppendsResponse (run (positionals.map Subtype.val) environment peer)
        (run ("--print-response" :: positionals.map Subtype.val) environment peer) := by
  constructor
  · intro texts first second hagree
    exact run_sameButDebug hagree texts peer
  · intro positionals environment
    exact run_appendsResponse positionals environment peer

/-- A read that fails after the first octet, with the log turned on by a word in white space. -/
theorem run_apart_from_diagnostics_of_reset :
    let peer : Peer := { incoming := [.ok [0x41], .error ⟨.system .reset, "reset"⟩] }
    let texts := ["POST", "h", "80", "/"]
    let quiet := run texts [] peer
    let telling := run texts [("RPCPOST_DEBUG", " On\n")] peer
    telling.ending = quiet.ending ∧
      telling.diagnostics.filter (!·.isDebug) = quiet.diagnostics.filter (!·.isDebug) := by
  intro peer texts quiet telling
  have hagree : AgreeBut debugVariable [] [("RPCPOST_DEBUG", " On\n")] :=
    agreeBut_cons _ _ _
  have hsame := (run_apart_from_diagnostics peer).1 texts [] _ hagree
  exact ⟨hsame.ending_eq, hsame.diagnostics_eq⟩

end Program

end RawPost
