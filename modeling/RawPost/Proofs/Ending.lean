import RawPost.Proofs.Blank
import RawPost.Proofs.Ordinary
import RawPost.Proofs.Recoding
import RawPost.Proofs.Target
import RawPost.Proofs.Wording

/-!
# How the program ends

With an ordinary peer, a port that can be read and a buffer that is there, the program ends with a status in
all cases but one: a place of the command line that was left blank where a number, or the port of a
request, is needed.  The status is zero for a successful exchange and for help, and one in every other
case; then there is a message that says why, and nothing of what came in is told.
-/

namespace RawPost.Program

/-- A separator stands in the place of a number, or of the port of a request. -/
inductive LeavesBlank (texts : List String) (environment : Environment) : Prop where
  | number {layer : Settings.Layer} {arguments : CommandLine.Arguments}
      {quantity : Settings.Quantity}
      (hread : CommandLine.read texts = .ok (layer, arguments))
      (hblank : Settings.ofEnvironment environment layer = .error (.blank quantity))
  | port {layer : Settings.Layer} {arguments : CommandLine.Arguments}
      {settings : Settings}
      (hread : CommandLine.read texts = .ok (layer, arguments))
      (hsettled : Settings.ofEnvironment environment layer = .ok settings)
      (hmethod : arguments.method = some "POST")
      (hport : arguments.port = none)

/-- The ends without success, each with its reason and with all that is told but the log of an exchange. -/
inductive Fails (texts : List String) (environment : Environment) :
    Outcome → Prop where
  | misused {misuse : CommandLine.Misuse}
      (hread : CommandLine.read texts = .error (.misuse misuse)) :
      Fails texts environment {
        ending := .exited 1
        output := CommandLine.usage ++ "\n"
        diagnostics :=
          [.plain (CommandLine.programName ++ ": " ++ misuse.message)] }
  | defective {layer : Settings.Layer} {arguments : CommandLine.Arguments}
      {defect : Settings.Defect}
      (hread : CommandLine.read texts = .ok (layer, arguments))
      (hdefect : Settings.ofEnvironment environment layer = .error defect) :
      Fails texts environment {
        ending := .returned 1
        diagnostics := [.plain ("Error: " ++ defect.message)] }
  | unsupported {layer : Settings.Layer} {arguments : CommandLine.Arguments}
      {settings : Settings}
      (hread : CommandLine.read texts = .ok (layer, arguments))
      (hsettled : Settings.ofEnvironment environment layer = .ok settings)
      (hmethod : arguments.method ≠ some "POST") :
      Fails texts environment {
        ending := .returned 1
        output := "Invalid HTTP request.\n" }
  | stopped {layer : Settings.Layer} {arguments : CommandLine.Arguments}
      {settings : Settings} {request : Request} {records : List Diagnostic}
      {trace : Trace}
      (hasks : Asks texts environment layer arguments settings request)
      (failure : Failure) :
      Fails texts environment {
        ending := .returned 1
        output := "Request:\n" ++ request.text settings.version ++ "\n"
        diagnostics :=
          records ++ [.record .error ("Error: " ++ failure.sentence)]
        trace }

variable {texts : List String} {environment : Environment}
  {layer : Settings.Layer} {arguments : CommandLine.Arguments}
  {settings : Settings} {request : Request} {peer : Peer}

/-! ## The request -/

theorem supported_iff :
    Request.supportedMethods.contains (arguments.method.getD "") = true ↔
      arguments.method = some "POST" := by
  cases arguments.method <;> simp [Request.supportedMethods]

theorem portOr_of_readable (default : Int) {text : String}
    (hdigits : (Destination.leadingInteger text.toList).2.length ≤
      Number.maxDigits) :
    ∃ port, Destination.portOr default text = .ok port := by
  simp only [Destination.portOr]
  rw [if_neg (Nat.not_lt.mpr hdigits)]
  exact ⟨_, rfl⟩

theorem requestOf_of_method (hmethod : arguments.method ≠ some "POST") :
    requestOf settings arguments = .error none := by
  have hunsupported := mt supported_iff.mp hmethod
  simp only [requestOf, Request.ofTexts, if_neg hunsupported]

theorem requestOf_of_no_port (hmethod : arguments.method = some "POST")
    (hport : arguments.port = none) :
    requestOf settings arguments = .error (some .noPort) := by
  have hempty : (Destination.leadingInteger "".toList).2.length ≤
      Number.maxDigits := by decide
  obtain ⟨port, hportOr⟩ := portOr_of_readable settings.defaultPort hempty
  simp only [requestOf, Request.ofTexts, if_pos (supported_iff.mpr hmethod),
    hport, Option.getD_none, hportOr]
  rfl

theorem exists_requestOf {text : String}
    (hmethod : arguments.method = some "POST")
    (hport : arguments.port = some text)
    (hdigits : (Destination.leadingInteger text.toList).2.length ≤
      Number.maxDigits) :
    ∃ request, requestOf settings arguments = .ok request := by
  obtain ⟨port, hportOr⟩ := portOr_of_readable settings.defaultPort hdigits
  simp only [requestOf, Request.ofTexts, if_pos (supported_iff.mpr hmethod),
    hport, Option.getD_some, hportOr]
  exact ⟨_, rfl⟩

theorem LeavesBlank.escapes [Memory] (hblank : LeavesBlank texts environment)
    (peer : Peer) :
    ∃ cause, (run texts environment peer).ending = .escaped cause := by
  cases hblank with
  | @number layer arguments quantity hread hblank =>
      refine ⟨.defect (.blank quantity), ?_⟩
      simp only [run, hread, hblank, defective]
  | port hread hsettled hmethod hport =>
      refine ⟨.noPort, ?_⟩
      simp only [run, hread, hsettled, send, requestOf_of_no_port hmethod hport]

/-- The words that leave a place blank can be seen on the command line. -/
theorem LeavesBlank.exists_separator (hblank : LeavesBlank texts environment) :
    ∃ text ∈ texts, CommandLine.HasSeparator text.toList := by
  by_contra hnone
  have hplain : ∀ text ∈ texts, ¬ CommandLine.HasSeparator text.toList := by
    intro text hmem htext
    exact hnone ⟨text, hmem, htext⟩
  cases hblank with
  | number hread hblank =>
      have hfilled := (CommandLine.filled_of_read hplain hread).1
      exact Settings.ofEnvironment_ne_blank hfilled environment _ hblank
  | port hread hsettled hmethod hport =>
      exact (CommandLine.filled_of_read hplain hread).2 hport

/-! ## The exchange -/

theorem exchange_of_ends [Memory] {octets : Octets} {succeeds : Prop}
    (hends : Exchange.Ends succeeds
      (Exchange.run settings request octets peer).outcome) :
    (succeeds ∧
      (exchange settings request octets peer).ending = .returned 0) ∨
    (¬ succeeds ∧ ∃ (failure : Failure) (records : List Diagnostic),
      exchange settings request octets peer = {
        ending := .returned 1
        output := Request.display octets
        diagnostics :=
          records ++ [.record .error ("Error: " ++ failure.sentence)]
        trace := (Exchange.run settings request octets peer).events }) := by
  cases houtcome : (Exchange.run settings request octets peer).outcome with
  | error stop =>
      rw [houtcome] at hends
      cases hends with
      | failed hfails failure =>
          right
          refine ⟨hfails, failure, records settings.debug
            (Exchange.run settings request octets peer).events, ?_⟩
          simp only [exchange, houtcome, stopped, failure.report_eq]
  | ok response =>
      rw [houtcome] at hends
      left
      refine ⟨hends.of_ok, ?_⟩
      simp only [exchange, houtcome]

theorem unsupported_eq [Memory] :
    unsupported =
      { ending := .returned 1, output := "Invalid HTTP request.\n" } := by
  rfl

/-- An ordinary peer, a port that is not too long to be read, and a buffer that can be allocated. -/
structure IsOrdinary [Memory] (texts : List String) (environment : Environment)
    (peer : Peer) : Prop where
  peer : peer.IsOrdinary
  port : ∀ layer arguments text,
    CommandLine.read texts = .ok (layer, arguments) →
    arguments.port = some text →
    (Destination.leadingInteger text.toList).2.length ≤ Number.maxDigits
  buffer : ∀ layer arguments settings,
    CommandLine.read texts = .ok (layer, arguments) →
    Settings.ofEnvironment environment layer = .ok settings →
    ∃ empty, Response.ofCapacity settings.responseLimit = .ok empty

/-- There is a request to send, and the exchange of it succeeds. -/
def Succeeds (texts : List String) (environment : Environment) (peer : Peer) :
    Prop :=
  ∃ layer arguments settings request,
    Asks texts environment layer arguments settings request ∧
    Exchange.Succeeds settings (Text.encode (request.text settings.version)) peer

theorem Asks.ends [Memory]
    (hasks : Asks texts environment layer arguments settings request)
    (hordinary : IsOrdinary texts environment peer) :
    Exchange.Ends
      (Exchange.Succeeds settings
        (Text.encode (request.text settings.version)) peer)
      (Exchange.run settings request
        (Text.encode (request.text settings.version)) peer).outcome := by
  have hvalid := Settings.isValid_of_ofEnvironment hasks.settled
  obtain ⟨empty, hbuffer⟩ :=
    hordinary.buffer _ _ _ hasks.read hasks.settled
  have hlimit : settings.responseLimit < Memory.limit := by
    by_contra hlarge
    obtain ⟨refusal, hrefusal⟩ :=
      Response.exists_refusal (Int.not_lt.mp hlarge)
    rw [hbuffer] at hrefusal
    contradiction
  exact Exchange.run_ends hordinary.peer
    ⟨hvalid.responseLimit_pos, hvalid.chunkSize_pos⟩ hlimit
    hasks.isWritable _

/-- The four ways in which the program ends. -/
inductive Comes (texts : List String) (environment : Environment) (peer : Peer)
    (outcome : Outcome) : Prop where
  | helped (hread : CommandLine.read texts = .error .help)
      (hending : outcome.ending = .exited 0)
  | blank (hblank : LeavesBlank texts environment) (cause : Escape)
      (hending : outcome.ending = .escaped cause)
  | well (hsucceeds : Succeeds texts environment peer)
      (hending : outcome.ending = .returned 0)
  | failed (hfails : Fails texts environment outcome)
      (hending : outcome.ending = .returned 1 ∨ outcome.ending = .exited 1)

namespace Comes

variable {outcome : Outcome}

theorem blank_of_escaped (hcomes : Comes texts environment peer outcome)
    {cause : Escape} (hending : outcome.ending = .escaped cause) :
    LeavesBlank texts environment := by
  cases hcomes with
  | blank hblank => exact hblank
  | helped hread hother => simp [hother] at hending
  | well hsucceeds hother => simp [hother] at hending
  | failed hfails hother => simp [hending] at hother

theorem succeeds_of_returned (hcomes : Comes texts environment peer outcome)
    (hending : outcome.ending = .returned 0) :
    Succeeds texts environment peer := by
  cases hcomes with
  | well hsucceeds => exact hsucceeds
  | helped hread hother => simp [hother] at hending
  | blank hblank cause hother => simp [hother] at hending
  | failed hfails hother => simp [hending] at hother

theorem help_of_exited (hcomes : Comes texts environment peer outcome)
    (hending : outcome.ending = .exited 0) :
    CommandLine.read texts = .error .help := by
  cases hcomes with
  | helped hread => exact hread
  | well hsucceeds hother => simp [hother] at hending
  | blank hblank cause hother => simp [hother] at hending
  | failed hfails hother => simp [hending] at hother

end Comes

theorem Asks.comes [Memory]
    (hasks : Asks texts environment layer arguments settings request)
    (hordinary : IsOrdinary texts environment peer) :
    Comes texts environment peer (run texts environment peer) := by
  rw [hasks.run_eq]
  rcases exchange_of_ends (hasks.ends hordinary) with
    ⟨hsucceeds, hending⟩ | ⟨_, failure, records, hstopped⟩
  · exact .well ⟨_, _, _, _, hasks, hsucceeds⟩ hending
  · rw [hstopped, Request.display, Text.decode_encode]
    exact .failed (.stopped hasks failure) (.inl rfl)

theorem Succeeds.returns [Memory] (hsucceeds : Succeeds texts environment peer)
    (hordinary : IsOrdinary texts environment peer) :
    (run texts environment peer).ending = .returned 0 := by
  obtain ⟨layer, arguments, settings, request, hasks, hsucceeds⟩ := hsucceeds
  rw [hasks.run_eq]
  rcases exchange_of_ends (hasks.ends hordinary) with
    ⟨_, hending⟩ | ⟨hfails, _⟩
  · exact hending
  · exact absurd hsucceeds hfails

theorem comes_of_settled [Memory]
    (hread : CommandLine.read texts = .ok (layer, arguments))
    (hsettled : Settings.ofEnvironment environment layer = .ok settings)
    (hordinary : IsOrdinary texts environment peer) :
    Comes texts environment peer (run texts environment peer) := by
  have hrun : run texts environment peer = send settings arguments peer := by
    simp only [run, hread, hsettled]
  -- A missing port is only missed once the method has been accepted.
  by_cases hmethod : arguments.method = some "POST"
  · cases hport : arguments.port with
    | none =>
        rw [hrun]
        apply Comes.blank (.port hread hsettled hmethod hport) .noPort
        simp only [send, requestOf_of_no_port hmethod hport]
    | some text =>
        obtain ⟨request, hrequest⟩ := exists_requestOf hmethod hport
          (hordinary.port _ _ _ hread hport)
        have hasks : Asks texts environment layer arguments settings request :=
          ⟨hread, hsettled, hmethod, hrequest, _,
            Request.assemble_eq (written_of_requested hrequest) settings.version⟩
        exact hasks.comes hordinary
  · rw [hrun]
    simp only [send, requestOf_of_method hmethod, unsupported_eq]
    exact .failed (.unsupported hread hsettled hmethod) (.inl rfl)

theorem run_comes [Memory] (hordinary : IsOrdinary texts environment peer) :
    Comes texts environment peer (run texts environment peer) := by
  cases hread : CommandLine.read texts with
  | error halt =>
      have hrun : run texts environment peer = halted halt := by
        simp only [run, hread]
      rw [hrun]
      cases halt with
      | help => exact .helped hread rfl
      | misuse misuse => exact .failed (.misused hread) (.inr rfl)
  | ok given =>
      obtain ⟨layer, arguments⟩ := given
      cases hsettled : Settings.ofEnvironment environment layer with
      | ok settings => exact comes_of_settled hread hsettled hordinary
      | error defect =>
          have hrun : run texts environment peer = defective defect := by
            simp only [run, hread, hsettled]
          rw [hrun]
          cases defect with
          | blank quantity =>
              exact .blank (.number hread hsettled) _ rfl
          | _ => exact .failed (.defective hread hsettled) (.inl rfl)

/-! ## Under a code -/

theorem records_recode (code : UInt8 → UInt8) (debug : Bool) (trace : Trace) :
    records debug (trace.map (Event.recode code)) = records debug trace := by
  induction trace with
  | nil => rfl
  | cons event trace ih =>
      unfold records at ih ⊢
      rw [List.map_cons, List.filterMap_cons, List.filterMap_cons, ih]
      cases event <;> rfl

/-- What is told, the response apart. -/
structure TellsTheSame (outcome other : Outcome) : Prop where
  ending_eq : other.ending = outcome.ending
  diagnostics_eq : other.diagnostics = outcome.diagnostics
  output_eq : outcome.ending ≠ .returned 0 → other.output = outcome.output

theorem exchange_recode [Memory] (code : UInt8 → UInt8) (settings : Settings)
    (request : Request) (octets : Octets) (peer : Peer) :
    TellsTheSame (exchange settings request octets peer)
      (exchange settings request octets (peer.recode code)) := by
  have hagrees := @Exchange.agrees_run code _ settings request octets peer
  cases houtcome : (Exchange.run settings request octets peer).outcome with
  | error stop =>
      constructor <;>
        simp [exchange, hagrees, Step.recode, houtcome, Except.map,
          records_recode]
  | ok response =>
      constructor <;>
        simp [exchange, hagrees, Step.recode, houtcome, Except.map,
          records_recode]

theorem TellsTheSame.refl (outcome : Outcome) : TellsTheSame outcome outcome :=
  ⟨rfl, rfl, fun _ => rfl⟩

theorem run_recode [Memory] (code : UInt8 → UInt8) (texts : List String)
    (environment : Environment) (peer : Peer) :
    TellsTheSame (run texts environment peer)
      (run texts environment (peer.recode code)) := by
  unfold run
  cases CommandLine.read texts with
  | error halt => exact .refl _
  | ok given =>
      obtain ⟨layer, arguments⟩ := given
      cases hsettled : Settings.ofEnvironment environment layer with
      | error defect =>
          simp only [hsettled]
          exact .refl _
      | ok settings =>
          simp only [hsettled, send]
          cases hrequest : requestOf settings arguments with
          | error cause =>
              cases cause with
              | none => exact .refl _
              | some cause => exact .refl _
          | ok request =>
              simp only [Request.assemble_eq (written_of_requested hrequest)]
              exact exchange_recode code settings request _ peer

/-! ## Status and message -/

theorem join_ne_empty {texts : List String} {text : String}
    (hmem : text ∈ texts) (htext : text ≠ "") : String.join texts ≠ "" := by
  induction texts with
  | nil => simp at hmem
  | cons first texts ih =>
      rw [String.join_cons]
      intro hnil
      have hparts := String.append_eq_empty_iff.mp hnil
      rcases List.mem_cons.mp hmem with rfl | hmem
      · exact htext hparts.1
      · exact ih hmem hparts.2

theorem errorOutput_ne_empty {outcome : Outcome} {diagnostic : Diagnostic}
    (hmem : diagnostic ∈ outcome.diagnostics) (stamp : String) :
    outcome.errorOutput stamp ≠ "" := by
  apply join_ne_empty (List.mem_map_of_mem hmem)
  cases diagnostic <;> simp [Diagnostic.render]

/-- There is a line for the user on the error output, or the one line of output says what is wrong. -/
theorem Fails.told {outcome : Outcome}
    (hfails : Fails texts environment outcome) (stamp : String) :
    outcome.errorOutput stamp ≠ "" ∨
      outcome.output = "Invalid HTTP request.\n" := by
  cases hfails with
  | misused =>
      exact .inl (errorOutput_ne_empty (List.mem_singleton_self _) stamp)
  | defective =>
      exact .inl (errorOutput_ne_empty (List.mem_singleton_self _) stamp)
  | unsupported => exact .inr rfl
  | stopped =>
      exact .inl (errorOutput_ne_empty
        (List.mem_append_right _ (List.mem_singleton_self _)) stamp)

/-- Nothing is left to the runtime but a blank place, and that takes a separator.  The status is zero exactly
for a successful exchange and for help; otherwise it is one, there is a message, and what is told does not
depend on the octets that came in.  The texts of the command line are of characters: this is about arguments
that could be decoded, since a request with a surrogate in one of its texts is not put together. -/
theorem run_ending [Memory] (hordinary : IsOrdinary texts environment peer) :
    let outcome := run texts environment peer
    ((∃ cause, outcome.ending = .escaped cause) ↔
      LeavesBlank texts environment) ∧
    (LeavesBlank texts environment →
      ∃ text ∈ texts, CommandLine.HasSeparator text.toList) ∧
    (outcome.ending = .returned 0 ↔ Succeeds texts environment peer) ∧
    (outcome.ending = .exited 0 ↔ CommandLine.read texts = .error .help) ∧
    (¬ LeavesBlank texts environment → ¬ Succeeds texts environment peer →
      CommandLine.read texts ≠ .error .help →
      (outcome.ending = .returned 1 ∨ outcome.ending = .exited 1) ∧
      Fails texts environment outcome ∧
      (∀ stamp, outcome.errorOutput stamp ≠ "" ∨
        outcome.output = "Invalid HTTP request.\n") ∧
      ∀ code, TellsTheSame outcome (run texts environment (peer.recode code))) := by
  intro outcome
  have hcomes : Comes texts environment peer outcome := run_comes hordinary
  refine ⟨⟨?_, ?_⟩, ?_, ⟨?_, ?_⟩, ⟨?_, ?_⟩, ?_⟩
  · rintro ⟨cause, hending⟩
    exact hcomes.blank_of_escaped hending
  · intro hblank
    exact hblank.escapes peer
  · exact LeavesBlank.exists_separator
  · exact hcomes.succeeds_of_returned
  · intro hsucceeds
    exact hsucceeds.returns hordinary
  · exact hcomes.help_of_exited
  · intro hread
    simp only [outcome, run, hread, halted]
  · intro hplaced hunsuccessful hasked
    have hsame (code : UInt8 → UInt8) := run_recode code texts environment peer
    cases hcomes with
    | failed hfails hending => exact ⟨hending, hfails, hfails.told, hsame⟩
    | helped hread => exact absurd hread hasked
    | blank hblank => exact absurd hblank hplaced
    | well hsucceeds => exact absurd hsucceeds hunsuccessful

/-- A request that goes out in pieces, and a response of one octet where there is room for two. -/
theorem run_ending_of_pieces :
    (run ["POST", "h", "80", "/", "--max-response-bytes=2"] []
      { sends := [.ok 3], closing := .error ⟨.system .reset, "reset"⟩
        incoming := [.ok [0x41], .ok []] }).ending = .returned 0 := by
  have hread :
      CommandLine.read ["POST", "h", "80", "/", "--max-response-bytes=2"] =
        .ok ({ responseLimit := some (.value 2) },
          ⟨some "POST", some "h", some "80", some "/", none, []⟩) := rfl
  have hsettled : Settings.ofEnvironment [] { responseLimit := some (.value 2) } =
      .ok { Settings.defaults with responseLimit := 2 } := rfl
  have hordinary : IsOrdinary
      ["POST", "h", "80", "/", "--max-response-bytes=2"] []
      { sends := [.ok 3], closing := .error ⟨.system .reset, "reset"⟩
        incoming := [.ok [0x41], .ok []] } := by
    constructor
    · constructor <;> simp [Fault.isSystem]
    · intro layer arguments text hgiven hport
      rw [hread, Except.ok.injEq, Prod.mk.injEq] at hgiven
      rw [← hgiven.2, Option.some.injEq] at hport
      rw [← hport]
      decide
    · intro layer arguments settings hgiven hmerged
      rw [hread, Except.ok.injEq, Prod.mk.injEq] at hgiven
      rw [← hgiven.1, hsettled, Except.ok.injEq] at hmerged
      rw [← hmerged]
      exact ⟨⟨2, []⟩, by decide⟩
  apply (run_ending hordinary).2.2.1.mpr
  refine ⟨_, _, _, _,
    ⟨hread, hsettled, rfl, rfl, _, Request.assemble_eq (by nofun) _⟩, ?_⟩
  refine ⟨rfl, ⟨_, rfl⟩, rfl, ?_, rfl, by decide⟩
  exact ⟨by decide, trivial⟩

/-- A separator attached to a switch takes the place of a number. -/
theorem not_run_ending_of_separator :
    ¬ ∀ (texts : List String) (environment : Environment) (peer : Peer),
      IsOrdinary texts environment peer →
      ∃ status, (run texts environment peer).ending = .returned status ∨
        (run texts environment peer).ending = .exited status := by
  intro hall
  have hread : CommandLine.read ["--read-timeout=--", "POST", "h", "80", "/"] =
      .ok ({ readTimeout := some .blank },
        ⟨some "POST", some "h", some "80", some "/", none, []⟩) := rfl
  have hblank : Settings.ofEnvironment [] { readTimeout := some .blank } =
      .error (.blank .readTimeout) := rfl
  have hordinary :
      IsOrdinary ["--read-timeout=--", "POST", "h", "80", "/"] [] {} := by
    constructor
    · constructor <;> simp
    · intro layer arguments text hgiven hport
      rw [hread, Except.ok.injEq, Prod.mk.injEq] at hgiven
      rw [← hgiven.2, Option.some.injEq] at hport
      rw [← hport]
      decide
    · intro layer arguments settings hgiven hmerged
      rw [hread, Except.ok.injEq, Prod.mk.injEq] at hgiven
      rw [← hgiven.1, hblank] at hmerged
      contradiction
  obtain ⟨status, hending⟩ := hall _ _ _ hordinary
  obtain ⟨cause, hescaped⟩ := (LeavesBlank.number hread hblank).escapes {}
  simp [hescaped] at hending

end RawPost.Program
