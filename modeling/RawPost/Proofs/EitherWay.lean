import RawPost.Proofs.Ending
import RawPost.Proofs.Interleaving
import RawPost.Proofs.Spelling

/-!
# A setting given either way

Each setting that a switch with a value gives can be given by a variable instead.  The switch reads its value
as it stands, and the variable reads a plain word made of it; both read the same number, or neither reads
one.  So the program does the same in both ways if the text is a number, and if it is none the program is
refused in both ways, with messages that differ.

One text goes past the switch although it is no number.  The separator leaves the place of the number blank,
and then the checks of the settings are not passed and the program ends by something that it does not treat.
-/

namespace RawPost

namespace CommandLine

open Settings

namespace ValuedSwitch

def variableName : ValuedSwitch → String
  | connectTimeout => connectTimeoutVariable
  | readTimeout => readTimeoutVariable
  | responseLimit => responseLimitVariable

/-- The number that a text stands for, as a layer with nothing else. -/
def layer? (named : ValuedSwitch) (text : String) : Option Layer :=
  match named with
  | connectTimeout =>
    (secondsOf? text).map fun timeout => { connectTimeout := some (.value timeout) }
  | readTimeout =>
    (secondsOf? text).map fun timeout => { readTimeout := some (.value timeout) }
  | responseLimit =>
    (Number.readInteger? text).map fun limit => { responseLimit := some (.value limit) }

/-- A text means the same to a switch and to a variable: no character is white space to one of them only, and
it is no word for no timeout, which no switch knows. -/
structure IsCommon (named : ValuedSwitch) (text : String) : Prop where
  no_separator : text.toList.any Text.isInformationSeparator = false
  no_word : named ≠ responseLimit → plainWord text ∉ noTimeoutWords

variable {named : ValuedSwitch} {text : String} {layer below : Layer}
  {first second : Environment}

theorem isFilled_of_layer? (hlayer : named.layer? text = some layer) :
    layer.IsFilled := by
  cases named <;>
    · simp only [layer?, Option.map_eq_some_iff] at hlayer
      obtain ⟨value, -, rfl⟩ := hlayer
      constructor <;> simp

theorem layer?_separator (named : ValuedSwitch) :
    named.layer? separatorText = none := by
  cases named <;> rfl

/-! ## By the switch -/

theorem assign_eq (htext : text ≠ separatorText) (named : ValuedSwitch) :
    named.switch.assign text {} = reading named.switch text (named.layer? text) := by
  cases named with
  | connectTimeout =>
      simp only [switch, Switch.assign, entryOf, if_neg htext, layer?]
      cases secondsOf? text <;> rfl
  | readTimeout =>
      simp only [switch, Switch.assign, entryOf, if_neg htext, layer?]
      cases secondsOf? text <;> rfl
  | responseLimit =>
      simp only [switch, Switch.assign, entryOf, if_neg htext, layer?]
      cases Number.readInteger? text <;> rfl

theorem applyAll_attached (named : ValuedSwitch) (text : String) (layer : Layer) :
    OptionGroup.applyAll [.attached named text] layer =
      named.switch.assign text layer := by
  rw [OptionGroup.applyAll_cons, OptionGroup.apply]
  cases named.switch.assign text layer <;> rfl

/-- All that a switch can do with the value that is attached to it, if it is the only one. -/
inductive Assigns (named : ValuedSwitch) (text : String) : Except Halt Layer → Prop
  | readable {layer : Layer} (hlayer : named.layer? text = some layer) :
      Assigns named text (.ok layer)
  | unreadable (hlayer : named.layer? text = none) (htext : text ≠ separatorText) :
      Assigns named text (.error (.misuse (.malformedValue named.switch text)))
  | separator {layer : Layer} (hlayer : named.layer? text = none)
      (htext : text = separatorText) (hblank : ¬ layer.IsFilled) :
      Assigns named text (.ok layer)

theorem assigns (named : ValuedSwitch) (text : String) :
    Assigns named text (OptionGroup.applyAll [.attached named text] {}) := by
  rw [applyAll_attached]
  by_cases htext : text = separatorText
  · subst htext
    have hlayer := layer?_separator named
    cases named with
    | connectTimeout => exact .separator hlayer rfl fun hfilled => hfilled.connectTimeout rfl
    | readTimeout => exact .separator hlayer rfl fun hfilled => hfilled.readTimeout rfl
    | responseLimit => exact .separator hlayer rfl fun hfilled => hfilled.responseLimit rfl
  · rw [assign_eq htext]
    cases hlayer : named.layer? text with
    | none => exact .unreadable hlayer htext
    | some layer => exact .readable hlayer

/-! ## By the variable -/

theorem IsCommon.readTimeout?_eq (hcommon : IsCommon named text)
    (hnamed : named ≠ responseLimit) : readTimeout? text = secondsOf? text := by
  have hword : noTimeoutWords.contains (plainWord text) ≠ true := by
    rw [Ne, List.contains_iff_mem]
    exact hcommon.no_word hnamed
  rw [readTimeout?, if_neg hword, plainWord, Number.readDecimal?_lower,
    Number.readDecimal?_strip hcommon.no_separator, secondsOf?]

theorem IsCommon.readLimit?_eq (hcommon : IsCommon named text) :
    readLimit? text = Number.readInteger? text :=
  Number.readInteger?_strip hcommon.no_separator

theorem IsCommon.isReadFrom (hcommon : IsCommon named text)
    (hlayer : named.layer? text = some layer)
    (hset : second.lookup named.variableName = some text)
    (hagree : AgreeBut named.variableName first second)
    (hbelow : below.IsReadFrom first) : (layer.over below).IsReadFrom second := by
  have hkept {α : Type} {name : String} {read? : String → Option α}
      {defect : String → String → Defect} (hname : name ≠ named.variableName) :
      readVariable second name read? defect = readVariable first name read? defect :=
    (readVariable_congr (hagree name hname)).symm
  have hdebug : first.lookup debugVariable = second.lookup debugVariable :=
    hagree debugVariable (by cases named <;> decide)
  have heq := hbelow.eq
  rw [hdebug] at heq
  cases named with
  | connectTimeout =>
      simp only [layer?, Option.map_eq_some_iff] at hlayer
      obtain ⟨timeout, hread, rfl⟩ := hlayer
      rw [← hcommon.readTimeout?_eq (by decide)] at hread
      refine ⟨readVariable_of_readable hset hread, ?_, ?_, ?_⟩
      · exact (hkept (by decide)).trans hbelow.readTimeout
      · exact (hkept (by decide)).trans hbelow.responseLimit
      · rw [heq]
        rfl
  | readTimeout =>
      simp only [layer?, Option.map_eq_some_iff] at hlayer
      obtain ⟨timeout, hread, rfl⟩ := hlayer
      rw [← hcommon.readTimeout?_eq (by decide)] at hread
      refine ⟨?_, readVariable_of_readable hset hread, ?_, ?_⟩
      · exact (hkept (by decide)).trans hbelow.connectTimeout
      · exact (hkept (by decide)).trans hbelow.responseLimit
      · rw [heq]
        rfl
  | responseLimit =>
      simp only [layer?, Option.map_eq_some_iff] at hlayer
      obtain ⟨limit, hread, rfl⟩ := hlayer
      rw [← hcommon.readLimit?_eq] at hread
      refine ⟨?_, ?_, readVariable_of_readable hset hread, ?_⟩
      · exact (hkept (by decide)).trans hbelow.connectTimeout
      · exact (hkept (by decide)).trans hbelow.readTimeout
      · rw [heq]
        rfl

theorem IsCommon.exists_layer? (hcommon : IsCommon named text)
    (hset : second.lookup named.variableName = some text)
    (hread : layer.IsReadFrom second) : ∃ given, named.layer? text = some given := by
  cases named with
  | connectTimeout =>
      obtain ⟨timeout, htimeout⟩ := readable_of_readVariable hset hread.connectTimeout
      rw [hcommon.readTimeout?_eq (by decide)] at htimeout
      exact ⟨_, by rw [layer?, htimeout, Option.map_some]⟩
  | readTimeout =>
      obtain ⟨timeout, htimeout⟩ := readable_of_readVariable hset hread.readTimeout
      rw [hcommon.readTimeout?_eq (by decide)] at htimeout
      exact ⟨_, by rw [layer?, htimeout, Option.map_some]⟩
  | responseLimit =>
      obtain ⟨limit, hlimit⟩ := readable_of_readVariable hset hread.responseLimit
      rw [hcommon.readLimit?_eq] at hlimit
      exact ⟨_, by rw [layer?, hlimit, Option.map_some]⟩

/-- The variable gives the number over what the other variables give, or nothing can be read. -/
theorem IsCommon.toOption_ofEnvironment (hcommon : IsCommon named text)
    (hset : second.lookup named.variableName = some text)
    (hagree : AgreeBut named.variableName first second)
    (hbelow : Layer.ofEnvironment first = .ok below) :
    (Layer.ofEnvironment second).toOption =
      (named.layer? text).map fun layer => layer.over below := by
  cases hlayer : named.layer? text with
  | some layer =>
      have hread := hcommon.isReadFrom hlayer hset hagree
        (isReadFrom_of_ofEnvironment hbelow)
      rw [hread.ofEnvironment_eq]
      rfl
  | none =>
      cases hsecond : Layer.ofEnvironment second with
      | error defect => rfl
      | ok layer =>
          have hread := isReadFrom_of_ofEnvironment hsecond
          obtain ⟨given, hgiven⟩ := hcommon.exists_layer? hset hread
          rw [hlayer] at hgiven
          contradiction

end ValuedSwitch

/-! ## In front of the positional arguments -/

theorem read_attached_first (named : ValuedSwitch) (text : String)
    (positionals : List Positional) :
    read (attachedText named text :: positionals.map Subtype.val) =
      readApart positionals [.attached named text] :=
  read_option_first (.attached named text) positionals

/-- If the options can be applied, then only the slots can fail; filled slots have a port. -/
theorem cases_of_readApart {texts : List String} {positionals : List Positional}
    {options : List OptionGroup} {layer : Layer}
    (hread : read texts = readApart positionals options)
    (happlied : OptionGroup.applyAll options {} = .ok layer) :
    (∃ misuse, read texts = .error (.misuse misuse)) ∨
      ∃ arguments, read texts = .ok (layer, arguments) ∧ arguments.port ≠ none := by
  rw [hread, readApart_of_applied happlied]
  unfold slotted
  split
  next => exact .inr ⟨_, rfl, by simp⟩
  next => exact .inl ⟨_, rfl⟩

end CommandLine

namespace Program

open CommandLine Settings

/-- The program ends with status one and nothing has been called. -/
structure Outcome.IsRefused (outcome : Outcome) : Prop where
  ending_eq : outcome.ending = .returned 1 ∨ outcome.ending = .exited 1
  trace_eq : outcome.trace = []

/-- A setting is given either way: the same happens if the text is a number, and else both are refused. -/
structure MeansTheSame (named : ValuedSwitch) (text : String)
    (bySwitch byVariable : Outcome) : Prop where
  eq_of_number : ∀ layer, named.layer? text = some layer → bySwitch = byVariable
  refused : named.layer? text = none → bySwitch.IsRefused ∧ byVariable.IsRefused

variable {named : ValuedSwitch} {text : String} {texts : List String}
  {first second environment : Environment} {layer below : Layer}
  {options : List OptionGroup} {positionals : List Positional}

theorem isRefused_of_blocked [Memory] (hread : read texts = readApart positionals options)
    (happlied : OptionGroup.applyAll options {} = .ok layer)
    (hblocked : ∀ settings, ofEnvironment environment layer ≠ .ok settings)
    (hplaced : ¬ LeavesBlank texts environment) (peer : Peer) :
    (run texts environment peer).IsRefused := by
  rcases cases_of_readApart hread happlied with ⟨misuse, hmisuse⟩ | ⟨arguments, hgiven, -⟩
  · simp only [run, hmisuse]
    exact ⟨.inr rfl, rfl⟩
  · cases hsettled : ofEnvironment environment layer with
    | ok settings => exact absurd hsettled (hblocked settings)
    | error defect =>
        cases defect with
        | blank quantity => exact absurd (.number hgiven hsettled) hplaced
        | _ =>
            simp only [run, hgiven, hsettled]
            exact ⟨.inl rfl, rfl⟩

theorem not_leavesBlank_of_filled (hread : read texts = readApart positionals options)
    (happlied : OptionGroup.applyAll options {} = .ok layer) (hfilled : layer.IsFilled) :
    ¬ LeavesBlank texts environment := by
  intro hblank
  rcases cases_of_readApart hread happlied with ⟨misuse, hmisuse⟩ | ⟨arguments, hok, hport⟩
  · cases hblank with
    | number hgiven => simp [hmisuse] at hgiven
    | port hgiven => simp [hmisuse] at hgiven
  · cases hblank with
    | number hgiven hblank =>
        rw [hok, Except.ok.injEq, Prod.mk.injEq] at hgiven
        rw [← hgiven.1] at hblank
        exact ofEnvironment_ne_blank hfilled environment _ hblank
    | port hgiven _ _ hmissing =>
        rw [hok, Except.ok.injEq, Prod.mk.injEq] at hgiven
        rw [← hgiven.2] at hmissing
        exact hport hmissing

theorem LeavesBlank.exists_read (hblank : LeavesBlank texts environment) :
    ∃ given, read texts = .ok given := by
  cases hblank with
  | number hread => exact ⟨_, hread⟩
  | port hread => exact ⟨_, hread⟩

theorem LeavesBlank.not_isRefused [Memory] {peer : Peer} (hblank : LeavesBlank texts environment) :
    ¬ (run texts environment peer).IsRefused := by
  intro hrefused
  obtain ⟨cause, hescaped⟩ := hblank.escapes peer
  simpa [hescaped] using hrefused.ending_eq

/-! ## Numbers and other texts -/

theorem leavesBlank_of_attached
    (hblank : LeavesBlank (attachedText named text :: positionals.map Subtype.val)
      environment) : text = separatorText := by
  have hread := read_attached_first named text positionals
  have hassigns := named.assigns text
  generalize hresult : OptionGroup.applyAll [.attached named text] {} = result at hassigns
  cases hassigns with
  | readable hlayer =>
      have hfilled := ValuedSwitch.isFilled_of_layer? hlayer
      exact absurd hblank (not_leavesBlank_of_filled hread hresult hfilled)
  | unreadable =>
      rw [readApart_of_halted hresult] at hread
      obtain ⟨given, hgiven⟩ := hblank.exists_read
      rw [hread] at hgiven
      contradiction
  | separator _ htext => exact htext

/-- The switch refuses all but the separator; the checks refuse that, unless they find a place blank. -/
theorem bySwitch_isRefused [Memory] (hlayer : named.layer? text = none)
    (hplaced : ¬ LeavesBlank (attachedText named text :: positionals.map Subtype.val)
      environment) (peer : Peer) :
    (run (attachedText named text :: positionals.map Subtype.val) environment
      peer).IsRefused := by
  have hread := read_attached_first named text positionals
  have hassigns := named.assigns text
  generalize hresult : OptionGroup.applyAll [.attached named text] {} = result at hassigns
  cases hassigns with
  | readable hnumber => simp [hlayer] at hnumber
  | unreadable =>
      rw [readApart_of_halted hresult] at hread
      simp only [run, hread]
      exact ⟨.inr rfl, rfl⟩
  | separator _ _ hblank =>
      apply isRefused_of_blocked hread hresult _ hplaced
      intro settings hsettled
      obtain ⟨below, -, hsettle⟩ := exists_of_bind_eq_ok hsettled
      exact hblank (isFilled_of_settle hsettle).of_over

theorem byVariable_isRefused [Memory] {environment : Environment}
    (hnone : ∀ layer, Layer.ofEnvironment environment ≠ .ok layer)
    (positionals : List Positional) (peer : Peer) :
    (run (positionals.map Subtype.val) environment peer).IsRefused := by
  have hread := read_arguments positionals
  have hempty : ({} : Layer).IsFilled := by constructor <;> simp
  have hplaced : ¬ LeavesBlank (positionals.map Subtype.val) environment :=
    not_leavesBlank_of_filled hread rfl hempty
  apply isRefused_of_blocked hread rfl _ hplaced
  intro settings hsettled
  obtain ⟨layer, hlayer, -⟩ := exists_of_bind_eq_ok hsettled
  exact hnone layer hlayer

theorem eitherWay_of_number [Memory] (hlayer : named.layer? text = some layer)
    (hbelow : Layer.ofEnvironment first = .ok below)
    (hmerged : Layer.ofEnvironment second = .ok (layer.over below))
    (positionals : List Positional) (peer : Peer) :
    run (attachedText named text :: positionals.map Subtype.val) first peer =
      run (positionals.map Subtype.val) second peer := by
  have htext : text ≠ separatorText := by
    rintro rfl
    rw [named.layer?_separator] at hlayer
    contradiction
  have hassigned : OptionGroup.applyAll [.attached named text] {} = .ok layer := by
    rw [ValuedSwitch.applyAll_attached, ValuedSwitch.assign_eq htext, hlayer]
    rfl
  have hread := read_attached_first named text positionals
  rw [readApart_of_applied hassigned] at hread
  have hother := read_arguments positionals
  rw [readApart_of_applied rfl] at hother
  have hsettled : ofEnvironment first layer = ofEnvironment second {} := by
    simp only [ofEnvironment, hbelow, hmerged]
    rfl
  simp only [run, hread, hother]
  cases misusing (slotted (positionals.map Subtype.val)) with
  | error halt => rfl
  | ok arguments => simp only [Except.map, hsettled]

/-- A number in front of the positional arguments and the same number in the variable come to the same,
whatever number the variable gave before: what the variable gives is the number over what the other variables
give, and what the switch takes is the number.  Any other text is refused in both ways, unless it leaves a
place blank; only a separator can. -/
theorem run_eitherWay [Memory] (hcommon : named.IsCommon text)
    (hformed : Layer.ofEnvironment first = .ok below)
    (hset : second.lookup named.variableName = some text)
    (hagree : AgreeBut named.variableName first second)
    (positionals : List Positional) (peer : Peer) :
    let bySwitch := attachedText named text :: positionals.map Subtype.val
    let byVariable := positionals.map Subtype.val
    (Layer.ofEnvironment second).toOption =
        (named.layer? text).map (fun layer => layer.over below) ∧
      (text ≠ separatorText →
        named.switch.assign text {} = reading named.switch text (named.layer? text)) ∧
      (MeansTheSame named text (run bySwitch first peer) (run byVariable second peer) ↔
        ¬ LeavesBlank bySwitch first) ∧
      (LeavesBlank bySwitch first → text = separatorText) := by
  intro bySwitch byVariable
  have hgiven := hcommon.toOption_ofEnvironment hset hagree hformed
  refine ⟨hgiven, fun htext => ValuedSwitch.assign_eq htext named, ⟨?_, ?_⟩,
    leavesBlank_of_attached⟩
  · intro hsame hblank
    have hnone : named.layer? text = none := by
      rw [leavesBlank_of_attached hblank]
      exact named.layer?_separator
    exact hblank.not_isRefused (hsame.refused hnone).1
  · intro hplaced
    constructor
    · intro layer hlayer
      have hread := hcommon.isReadFrom hlayer hset hagree
        (isReadFrom_of_ofEnvironment hformed)
      exact eitherWay_of_number hlayer hformed hread.ofEnvironment_eq positionals peer
    · intro hlayer
      refine ⟨bySwitch_isRefused hlayer hplaced peer, ?_⟩
      apply byVariable_isRefused
      intro layer hsecond
      rw [hlayer, hsecond] at hgiven
      contradiction

/-- Seconds with an exponent, between a blank and a line feed, for a response of one octet. -/
theorem run_eitherWay_of_exponent :
    let peer : Peer := { incoming := [.ok [0x41], .ok []] }
    run ["--read-timeout= +1.5E1\n", "POST", "h", "80", "/"] [] peer =
      run ["POST", "h", "80", "/"] [("RPCPOST_READ_TIMEOUT", " +1.5E1\n")] peer := by
  intro peer
  have hcommon : ValuedSwitch.readTimeout.IsCommon " +1.5E1\n" := by
    constructor
    · decide
    · intro _
      decide
  have hagree : AgreeBut ValuedSwitch.readTimeout.variableName []
      [("RPCPOST_READ_TIMEOUT", " +1.5E1\n")] :=
    agreeBut_cons _ _ _
  let positionals : List Positional :=
    [⟨"POST", by decide⟩, ⟨"h", by decide⟩, ⟨"80", by decide⟩, ⟨"/", by decide⟩]
  obtain ⟨-, -, hsame, hblank⟩ := run_eitherWay hcommon rfl rfl hagree positionals peer
  have hplaced := mt hblank (by decide)
  exact (hsame.mpr hplaced).eq_of_number _ rfl

/-- A separator is attached to the switch, or stands in the variable. -/
theorem not_run_eitherWay_of_separator :
    ¬ ∀ (named : ValuedSwitch) (text : String) (first second : Environment)
      (positionals : List String) (peer : Peer),
      named.IsCommon text →
      first.lookup named.variableName = none →
      (∃ below, Layer.ofEnvironment first = .ok below) →
      second.lookup named.variableName = some text →
      AgreeBut named.variableName first second →
      4 ≤ positionals.length → (∀ argument ∈ positionals, ¬ IsDashed argument) →
      let bySwitch := run (attachedText named text :: positionals) first peer
      let byVariable := run positionals second peer
      bySwitch = byVariable ∨ bySwitch.IsRefused ∧ byVariable.IsRefused := by
  intro hall
  have hcommon : ValuedSwitch.connectTimeout.IsCommon "--" := by
    constructor
    · decide
    · intro _
      decide
  have hagree : AgreeBut ValuedSwitch.connectTimeout.variableName []
      [("RPCPOST_CONNECT_TIMEOUT", "--")] :=
    agreeBut_cons _ _ _
  have hread : read ["--connect-timeout=--", "POST", "h", "80", "/"] =
      .ok ({ connectTimeout := some .blank },
        ⟨some "POST", some "h", some "80", some "/", none, []⟩) := rfl
  have hblank : ofEnvironment [] { connectTimeout := some .blank } =
      .error (.blank .connectTimeout) := rfl
  have hescapes := LeavesBlank.number hread hblank
  have hreturned : (run ["POST", "h", "80", "/"] [("RPCPOST_CONNECT_TIMEOUT", "--")]
      {}).ending = .returned 1 := rfl
  rcases hall .connectTimeout "--" [] _ ["POST", "h", "80", "/"] {} hcommon rfl ⟨_, rfl⟩ rfl
    hagree (by decide) (by decide) with hsame | hrefused
  · obtain ⟨cause, hescaped⟩ := hescapes.escapes {}
    rw [← hsame] at hreturned
    exact absurd (hreturned.symm.trans hescaped) (by simp)
  · exact hescapes.not_isRefused hrefused.1

end Program

end RawPost
