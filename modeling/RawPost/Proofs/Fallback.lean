import RawPost.Proofs.Ending
import RawPost.Proofs.Interleaving
import RawPost.Proofs.Scan

/-!
# A text in the place of a port

A text that is no port falls back to the default port, so that a request can be made with any text in the
place of its port, but for one kind: a text that begins with an integer of more digits than are read at
all.  The program asks for no other than the request's own port text, so apart from such a text only a
slot of the port that was left blank keeps it from making the request.
-/

namespace RawPost

namespace Destination

/-- The digits behind the white space and the sign of a text are more than can be read. -/
def HasTooManyDigits (text : String) : Prop :=
  ∃ scan : Scan text.toList, 4300 < scan.digits.length

variable {text : String} {chars : List Char}

theorem hasTooManyDigits_iff (htext : text.toList = chars) (scan : Scan chars) :
    HasTooManyDigits text ↔ 4300 < scan.digits.length := by
  subst htext
  refine ⟨?_, fun hlong => ⟨scan, hlong⟩⟩
  rintro ⟨other, hlong⟩
  have hsame : scan.values = other.values :=
    congrArg Prod.snd (scan.leadingInteger_eq.symm.trans other.leadingInteger_eq)
  rwa [← scan.length_values, hsame, other.length_values]

theorem portOr_of_hasTooManyDigits (default : Int) (hlong : HasTooManyDigits text) :
    ∃ excess, portOr default text = .error excess := by
  obtain ⟨scan, hlong⟩ := hlong
  exact ⟨_, portOr_of_long default rfl hlong⟩

/-- The port that any other text gives: its own, if it has one, or the default. -/
theorem exists_portOr (default : Int) (hshort : ¬ HasTooManyDigits text) :
    ∃ port, portOr default text = .ok port ∧ (port = default ∨ IsPort port) := by
  obtain ⟨scan⟩ := Scan.nonempty text.toList
  rw [hasTooManyDigits_iff rfl scan, Nat.not_lt] at hshort
  exact ⟨scan.port default, portOr_of_short default rfl hshort,
    scan.port_eq_or_isPort default⟩

theorem hasTooManyDigits_replicate {count : Nat} (hcount : 4300 < count) :
    HasTooManyDigits (String.ofList (List.replicate count '1')) := by
  have hdigits : ∀ c ∈ List.replicate count '1', Text.isDigit c = true := by
    intro c hc
    rw [List.eq_of_mem_replicate hc]
    decide
  have hsome : List.replicate count '1' ≠ [] := by
    simp [List.replicate_eq_nil_iff]
    omega
  let scan : Scan ([] ++ (none.toList ++ (List.replicate count '1' ++ []))) :=
    Scan.ofParts (by simp) (by simp) hdigits hsome (by simp)
  have hlength : scan.digits.length = count := List.length_replicate
  rw [hasTooManyDigits_iff (by simp) scan, hlength]
  exact hcount

end Destination

namespace CommandLine

theorem isPositional_replicate {count : Nat} (hcount : 0 < count) :
    IsPositional (String.ofList (List.replicate count '1')) := by
  left
  rw [IsDashed, String.toList_ofList, List.head?_replicate,
    if_neg (Nat.ne_of_gt hcount)]
  decide

end CommandLine

namespace Request

open Destination

variable {settings : Settings} {host port path : String} {body : Option String}
  {headers : List String}

/-- The request that is made of texts with the supported method, a port being given. -/
def addressed (settings : Settings) (host port path : String) (body : Option String)
    (headers : List String) (number : Int) : Request where
  method := "POST"
  host := hostOr settings.defaultHost host
  port := number
  path
  body
  headers
  portText := some port

theorem ofTexts_of_portOr {number : Int}
    (hport : portOr settings.defaultPort port = .ok number) :
    ofTexts settings "POST" host port path body headers =
      .ok (addressed settings host port path body headers number) := by
  have hsupported : supportedMethods.contains "POST" = true := by decide
  rw [ofTexts, if_pos hsupported, hport]
  rfl

theorem ofTexts_of_excess {excess : TooManyDigits}
    (hport : portOr settings.defaultPort port = .error excess) :
    ofTexts settings "POST" host port path body headers = .error (.port excess) := by
  have hsupported : supportedMethods.contains "POST" = true := by decide
  rw [ofTexts, if_pos hsupported, hport]

end Request

namespace Program

open Destination

/-- The program ends with an exception because of the port. -/
inductive Ending.BlamesPort : Ending → Prop
  | missing : BlamesPort (.escaped .noPort)
  | tooLong (excess : TooManyDigits) : BlamesPort (.escaped (.excess excess))

/-- A request is asked for, but its port was left blank, or it has too many digits. -/
inductive LacksPort (texts : List String) (environment : Environment) : Prop
  | blank {layer : Settings.Layer} {arguments : CommandLine.Arguments}
      {settings : Settings}
      (hread : CommandLine.read texts = .ok (layer, arguments))
      (hsettled : Settings.ofEnvironment environment layer = .ok settings)
      (hmethod : arguments.method = some "POST")
      (hport : arguments.port = none)
  | tooLong {layer : Settings.Layer} {arguments : CommandLine.Arguments}
      {settings : Settings} {text : String}
      (hread : CommandLine.read texts = .ok (layer, arguments))
      (hsettled : Settings.ofEnvironment environment layer = .ok settings)
      (hmethod : arguments.method = some "POST")
      (hport : arguments.port = some text)
      (hlong : HasTooManyDigits text)

variable {texts : List String} {environment : Environment}
  {arguments : CommandLine.Arguments} {settings : Settings} {peer : Peer}

theorem requestOf_of_excess {text : String} {excess : TooManyDigits}
    (hmethod : arguments.method = some "POST") (hport : arguments.port = some text)
    (hexcess : portOr settings.defaultPort text = .error excess) :
    requestOf settings arguments = .error (some (.excess excess)) := by
  simp only [requestOf, hmethod, hport, Option.getD_some,
    Request.ofTexts_of_excess hexcess]

theorem exchange_not_blamesPort [Memory] (request : Request) (octets : Octets) :
    ¬ (exchange settings request octets peer).ending.BlamesPort := by
  intro hblames
  cases houtcome : (Exchange.run settings request octets peer).outcome with
  | ok response =>
      simp only [exchange, houtcome] at hblames
      cases hblames
  | error stop =>
      simp only [exchange, houtcome] at hblames
      cases stop with
      | fault fault => cases hblames
      | noBuffer refusal => cases hblames
      | failure failure =>
          simp only [stopped, failure.report_eq] at hblames
          cases hblames

/-- Whether sending ends because of the port is settled before anything is sent. -/
theorem send_blamesPort_iff [Memory] :
    (send settings arguments peer).ending.BlamesPort ↔
      arguments.method = some "POST" ∧
        ∀ text ∈ arguments.port, HasTooManyDigits text := by
  by_cases hmethod : arguments.method = some "POST"
  · simp only [hmethod, true_and]
    cases hport : arguments.port with
    | none =>
        simp only [send, requestOf_of_no_port hmethod hport]
        exact iff_of_true .missing (by simp)
    | some text =>
        simp only [Option.mem_some_iff, forall_eq']
        by_cases hlong : HasTooManyDigits text
        · obtain ⟨excess, hexcess⟩ :=
            portOr_of_hasTooManyDigits settings.defaultPort hlong
          simp only [send, requestOf_of_excess hmethod hport hexcess]
          exact iff_of_true (.tooLong excess) hlong
        · obtain ⟨scan⟩ := Scan.nonempty text.toList
          have hshort := hlong
          rw [hasTooManyDigits_iff rfl scan, Nat.not_lt] at hshort
          have hdigits : (leadingInteger text.toList).2.length ≤ Number.maxDigits := by
            rw [scan.leadingInteger_eq, scan.length_values]
            exact hshort
          have hmade : ∃ request, requestOf settings arguments = .ok request :=
            exists_requestOf hmethod hport hdigits
          obtain ⟨request, hrequest⟩ := hmade
          simp only [send, hrequest, Request.assemble_eq (written_of_requested hrequest)]
          exact iff_of_false (exchange_not_blamesPort request _) hlong
  · simp only [send, requestOf_of_method hmethod, unsupported_eq]
    refine iff_of_false ?_ (fun hall => hmethod hall.1)
    intro hblames
    cases hblames

theorem run_blamesPort_iff [Memory] (texts : List String) (environment : Environment)
    (peer : Peer) :
    (run texts environment peer).ending.BlamesPort ↔ LacksPort texts environment := by
  constructor
  · intro hblames
    cases hread : CommandLine.read texts with
    | error halt =>
        simp only [run, hread] at hblames
        cases halt <;> cases hblames
    | ok given =>
        obtain ⟨layer, arguments⟩ := given
        cases hsettled : Settings.ofEnvironment environment layer with
        | error defect =>
            simp only [run, hread, hsettled] at hblames
            cases defect <;> cases hblames
        | ok settings =>
            simp only [run, hread, hsettled] at hblames
            obtain ⟨hmethod, hlong⟩ := send_blamesPort_iff.mp hblames
            cases hport : arguments.port with
            | none => exact .blank hread hsettled hmethod hport
            | some text =>
                exact .tooLong hread hsettled hmethod hport (hlong text hport)
  · intro hlacks
    cases hlacks with
    | blank hread hsettled hmethod hport =>
        simp only [run, hread, hsettled]
        exact send_blamesPort_iff.mpr ⟨hmethod, by simp [hport]⟩
    | tooLong hread hsettled hmethod hport hlong =>
        simp only [run, hread, hsettled]
        exact send_blamesPort_iff.mpr ⟨hmethod, by simpa [hport] using hlong⟩

/-! ## A port among the arguments -/

/-- A port that is given as it is takes its slot, so only its digits can be to blame. -/
theorem lacksPort_positional_iff (host port path : CommandLine.Positional)
    (others : List CommandLine.Positional) (environment : Environment) :
    LacksPort ("POST" :: host.val :: port.val :: path.val :: others.map Subtype.val)
        environment ↔
      HasTooManyDigits port.val ∧
        ∃ settings, Settings.ofEnvironment environment {} = .ok settings := by
  let method : CommandLine.Positional := ⟨"POST", by decide⟩
  let given := "POST" :: host.val :: port.val :: path.val :: others.map Subtype.val
  let slots : CommandLine.Arguments :=
    ⟨some "POST", some host.val, some port.val, some path.val,
      (others.map Subtype.val).head?, (others.map Subtype.val).tail⟩
  have hread : CommandLine.read given = .ok ({}, slots) :=
    CommandLine.read_arguments (method :: host :: port :: path :: others)
  constructor
  · intro hlacks
    cases hlacks with
    | blank hother _ _ hport =>
        rw [hread, Except.ok.injEq, Prod.mk.injEq] at hother
        simp [← hother.2, slots] at hport
    | tooLong hother hsettled _ hport hlong =>
        rw [hread, Except.ok.injEq, Prod.mk.injEq] at hother
        rw [← hother.1] at hsettled
        rw [← hother.2, Option.some.injEq] at hport
        rw [hport]
        exact ⟨hlong, _, hsettled⟩
  · rintro ⟨hlong, settings, hsettled⟩
    exact .tooLong hread hsettled rfl rfl hlong

/-- A text in the place of a port gives its own port or the default one, and a request is made with it,
exactly if its digits are not too many to be read; and the program ends because of a port exactly if it is
asked for a request whose port has too many digits or was left blank.  The texts of the command line are of
characters, so all of this is about arguments that could be decoded. -/
theorem port_falls_back_iff [Memory] (environment : Environment) (peer : Peer) :
    (∀ (default : Int) (text : String),
      (∃ port, portOr default text = .ok port ∧ (port = default ∨ IsPort port)) ↔
        ¬ HasTooManyDigits text) ∧
    (∀ (settings : Settings) (host port path : String) (body : Option String)
        (headers : List String),
      (∃ number,
        Request.ofTexts settings "POST" host port path body headers =
          .ok (Request.addressed settings host port path body headers number) ∧
        (number = settings.defaultPort ∨ IsPort number)) ↔
        ¬ HasTooManyDigits port) ∧
    (∀ texts : List String,
      (run texts environment peer).ending.BlamesPort ↔ LacksPort texts environment) ∧
    (∀ (host port path : CommandLine.Positional) (others : List CommandLine.Positional),
      (run ("POST" :: host.val :: port.val :: path.val :: others.map Subtype.val)
          environment peer).ending.BlamesPort ↔
        HasTooManyDigits port.val ∧
          ∃ settings, Settings.ofEnvironment environment {} = .ok settings) := by
  refine ⟨?_, ?_, fun texts => run_blamesPort_iff texts environment peer, ?_⟩
  · intro default text
    refine ⟨?_, exists_portOr default⟩
    rintro ⟨port, hport, -⟩ hlong
    obtain ⟨excess, hexcess⟩ := portOr_of_hasTooManyDigits default hlong
    rw [hport] at hexcess
    contradiction
  · intro settings host port path body headers
    constructor
    · rintro ⟨number, hmade, -⟩ hlong
      obtain ⟨excess, hexcess⟩ := portOr_of_hasTooManyDigits settings.defaultPort hlong
      rw [Request.ofTexts_of_excess hexcess] at hmade
      contradiction
    · intro hshort
      obtain ⟨number, hnumber, hrange⟩ := exists_portOr settings.defaultPort hshort
      exact ⟨number, Request.ofTexts_of_portOr hnumber, hrange⟩
  · intro host port path others
    rw [run_blamesPort_iff, lacksPort_positional_iff]

/-- One digit more than can be read keeps a text from being read, a request from being made, and the
program from coming to an end of its own. -/
theorem not_port_falls_back_of_many_digits :
    (¬ ∀ (default : Int) (text : String), ∃ port, portOr default text = .ok port) ∧
    (¬ ∀ (settings : Settings) (host port path : String) (body : Option String)
        (headers : List String),
      ∃ request,
        Request.ofTexts settings "POST" host port path body headers = .ok request) ∧
    (¬ ∀ (texts : List String) (environment : Environment) (peer : Peer),
      ¬ (run texts environment peer).ending.BlamesPort) := by
  obtain ⟨ones, hones⟩ : ∃ ones, ones = String.ofList (List.replicate 4301 '1') :=
    ⟨_, rfl⟩
  have hlong : HasTooManyDigits ones := hones ▸ hasTooManyDigits_replicate (by omega)
  refine ⟨?_, ?_, ?_⟩
  · intro hall
    obtain ⟨port, hport⟩ := hall 80 ones
    obtain ⟨excess, hexcess⟩ := portOr_of_hasTooManyDigits 80 hlong
    rw [hport] at hexcess
    contradiction
  · intro hall
    obtain ⟨request, hmade⟩ := hall .defaults "h" ones "/" none []
    obtain ⟨excess, hexcess⟩ :=
      portOr_of_hasTooManyDigits Settings.defaults.defaultPort hlong
    rw [Request.ofTexts_of_excess hexcess] at hmade
    contradiction
  · intro hall
    let host : CommandLine.Positional := ⟨"h", by decide⟩
    let port : CommandLine.Positional :=
      ⟨ones, hones ▸ CommandLine.isPositional_replicate (by omega)⟩
    let path : CommandLine.Positional := ⟨"/", by decide⟩
    have hlacks := (lacksPort_positional_iff host port path [] []).mpr
      ⟨hlong, Settings.defaults, rfl⟩
    exact hall _ [] {} ((run_blamesPort_iff _ [] {}).mpr hlacks)

end Program

end RawPost
