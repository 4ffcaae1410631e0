import RawPost.Program
import RawPost.Proofs.Slots
import RawPost.Proofs.Words

/-!
# Options among the arguments

A command line is put together from positional arguments and from options, each option with all that
belongs to it.  Reading it takes the two apart again: the options make the settings, in the order in which
they stand, and the positional arguments fill the slots, in theirs.  So where the options stand among the
positional arguments makes no difference to anything that the program does.
-/

namespace RawPost.CommandLine

open Settings

abbrev Positional := { text : String // IsPositional text }

/-- An option, with the value that belongs to it. -/
inductive OptionGroup where
  | debug
  | shortDebug
  | printResponse
  | attached (named : ValuedSwitch) (value : String)
  | followed (named : ValuedSwitch) (value : String) (hvalue : ¬ IsDashed value)

inductive Piece where
  | argument (positional : Positional)
  | option (group : OptionGroup)

namespace OptionGroup

def texts : OptionGroup → List String
  | debug => ["--debug"]
  | shortDebug => ["-D"]
  | printResponse => ["--print-response"]
  | attached named value => [attachedText named value]
  | followed named value _ => [named.name, value]

def words : OptionGroup → List Word
  | debug => [.switch .debug false none]
  | shortDebug => [.switch .debug true none]
  | printResponse => [.switch .printResponse false none]
  | attached named value => [.switch named.switch false (some value)]
  | followed named value _ => [.switch named.switch false none, .operand value]

/-- What an option makes of the settings that the options before it have left. -/
def apply (group : OptionGroup) (layer : Layer) : Except Halt Layer :=
  match group with
  | debug | shortDebug => Switch.debug.turnOn layer
  | printResponse => Switch.printResponse.turnOn layer
  | attached named value | followed named value _ => named.switch.assign value layer

def applyAll (groups : List OptionGroup) (layer : Layer) : Except Halt Layer :=
  groups.foldlM (fun layer group => group.apply layer) layer

theorem applyAll_nil (layer : Layer) : applyAll [] layer = .ok layer := rfl

theorem applyAll_cons (group : OptionGroup) (groups : List OptionGroup)
    (layer : Layer) :
    applyAll (group :: groups) layer = group.apply layer >>= applyAll groups :=
  List.foldlM_cons

end OptionGroup

namespace Piece

def texts : Piece → List String
  | argument positional => [positional.val]
  | option group => group.texts

def words : Piece → List Word
  | argument positional => [.operand positional.val]
  | option group => group.words

def item : Piece → Item
  | argument positional => .operand positional.val
  | option _ => .cut []

def argument? : Piece → Option Positional
  | argument positional => some positional
  | option _ => none

def option? : Piece → Option OptionGroup
  | argument _ => none
  | option group => some group

end Piece

/-- The command line that the pieces make. -/
def textsOf (pieces : List Piece) : List String :=
  pieces.flatMap Piece.texts

def argumentsOf (pieces : List Piece) : List Positional :=
  pieces.filterMap Piece.argument?

def optionsOf (pieces : List Piece) : List OptionGroup :=
  pieces.filterMap Piece.option?

/-- The pieces are these positional arguments and these options, each kind in its order. -/
structure Interleaves (positionals : List Positional) (options : List OptionGroup)
    (pieces : List Piece) : Prop where
  arguments_eq : argumentsOf pieces = positionals
  options_eq : optionsOf pieces = options

/-! ## The words of the pieces -/

theorem ofTexts_cons {text : String} {rest : List String} {word : Word}
    {words : List Word} (htext : text ≠ separatorText)
    (hword : Word.ofText text = .ok word) (hrest : Word.ofTexts rest = .ok words) :
    Word.ofTexts (text :: rest) = .ok (word :: words) := by
  rw [Word.ofTexts, if_neg htext, hword, hrest]
  rfl

theorem ofTexts_positional (positional : Positional) {rest : List String}
    {words : List Word} (hrest : Word.ofTexts rest = .ok words) :
    Word.ofTexts (positional.val :: rest) = .ok (.operand positional.val :: words) :=
  ofTexts_cons (ne_separator_of_isPositional positional.property)
    (ofText_of_isPositional positional.property) hrest

theorem ofTexts_option (group : OptionGroup) {rest : List String}
    {words : List Word} (hrest : Word.ofTexts rest = .ok words) :
    Word.ofTexts (group.texts ++ rest) = .ok (group.words ++ words) := by
  cases group with
  | debug => exact ofTexts_cons (by decide) rfl hrest
  | shortDebug => exact ofTexts_cons (by decide) rfl hrest
  | printResponse => exact ofTexts_cons (by decide) rfl hrest
  | attached named value =>
      exact ofTexts_cons (attachedText_ne_separator named value)
        (ofText_attachedText named value) hrest
  | followed named value hvalue =>
      exact ofTexts_cons named.name_ne_separator named.ofText_name
        (ofTexts_positional ⟨value, .inl hvalue⟩ hrest)

theorem ofTexts_textsOf_append (pieces : List Piece) {rest : List String}
    {words : List Word} (hrest : Word.ofTexts rest = .ok words) :
    Word.ofTexts (textsOf pieces ++ rest) = .ok (pieces.flatMap Piece.words ++ words) := by
  induction pieces with
  | nil => exact hrest
  | cons piece pieces ih =>
      cases piece with
      | argument positional => exact ofTexts_positional positional ih
      | option group =>
          simp only [textsOf, List.flatMap_cons, List.append_assoc] at ih ⊢
          exact ofTexts_option group ih

theorem ofTexts_textsOf (pieces : List Piece) :
    Word.ofTexts (textsOf pieces) = .ok (pieces.flatMap Piece.words) := by
  have hwords := ofTexts_textsOf_append pieces (show Word.ofTexts [] = .ok [] from rfl)
  rwa [List.append_nil, List.append_nil] at hwords

/-! ## The first round -/

theorem select_operand (text : String) (layer : Layer) (words : List Word) :
    select none layer (.operand text :: words) =
      (select none layer words).map fun (after, items) =>
        (after, .operand text :: items) := by
  rw [select]
  cases select none layer words <;> rfl

theorem select_option (group : OptionGroup) (layer : Layer) (words : List Word) :
    select none layer (group.words ++ words) = (do
      let middle ← group.apply layer
      (select none middle words).map fun (after, items) =>
        (after, .cut [] :: items)) := by
  have hrest (middle : Layer) :
      (do
        let (after, items) ← select none middle words
        return (after, Item.cut [] :: items)) =
      (select none middle words).map fun (after, items) =>
        (after, .cut [] :: items) := by
    cases select none middle words <;> rfl
  cases group with
  | debug => exact hrest _
  | shortDebug => exact hrest _
  | printResponse => exact hrest _
  | attached named value =>
      simp only [OptionGroup.words, List.cons_append, List.nil_append, select,
        Switch.attach, named.takesValue, if_true, OptionGroup.apply, hrest]
  | followed named value hvalue =>
      simp only [OptionGroup.words, List.cons_append, List.nil_append, select,
        named.takesValue, if_true, OptionGroup.apply, hrest]

theorem select_operands (texts : List String) (layer : Layer) :
    select none layer (texts.map .operand) = .ok (layer, texts.map .operand) := by
  induction texts with
  | nil => rfl
  | cons text texts ih =>
      rw [List.map_cons, select_operand, ih]
      rfl

/-- The options act one after another; a positional argument only passes by. -/
theorem select_pieces_append (pieces : List Piece) (layer : Layer) (words : List Word) :
    select none layer (pieces.flatMap Piece.words ++ words) = (do
      let middle ← OptionGroup.applyAll (optionsOf pieces) layer
      (select none middle words).map fun (after, items) =>
        (after, pieces.map Piece.item ++ items)) := by
  induction pieces generalizing layer with
  | nil =>
      have hnil : optionsOf [] = [] := rfl
      rw [hnil, OptionGroup.applyAll_nil]
      simp only [List.flatMap_nil, List.nil_append, List.map_nil, bind, Except.bind]
      cases select none layer words <;> rfl
  | cons piece pieces ih =>
      rw [List.flatMap_cons, List.append_assoc]
      cases piece with
      | argument positional =>
          have hoptions : optionsOf (.argument positional :: pieces) =
              optionsOf pieces := rfl
          rw [hoptions, Piece.words, List.singleton_append, select_operand,
            ih layer]
          cases OptionGroup.applyAll (optionsOf pieces) layer with
          | error halt => rfl
          | ok middle =>
              simp only [bind, Except.bind]
              cases select none middle words <;> rfl
      | option group =>
          have hoptions : optionsOf (.option group :: pieces) =
              group :: optionsOf pieces := rfl
          rw [hoptions, Piece.words, select_option, OptionGroup.applyAll_cons]
          cases group.apply layer with
          | error halt => rfl
          | ok first =>
              simp only [bind, Except.bind, ih first]
              cases OptionGroup.applyAll (optionsOf pieces) first with
              | error halt => rfl
              | ok middle =>
                  simp only
                  cases select none middle words <;> rfl

theorem select_pieces (pieces : List Piece) (layer : Layer) :
    select none layer (pieces.flatMap Piece.words) =
      (OptionGroup.applyAll (optionsOf pieces) layer).map fun after =>
        (after, pieces.map Piece.item) := by
  have hselect := select_pieces_append pieces layer []
  rw [List.append_nil] at hselect
  rw [hselect]
  cases OptionGroup.applyAll (optionsOf pieces) layer with
  | error halt => rfl
  | ok middle => simp [select, bind, Except.bind, Except.map]

theorem leftover_pieces_append (isFresh : Bool) (pieces : List Piece) (items : List Item) :
    leftover isFresh (pieces.map Piece.item ++ items) =
      (argumentsOf pieces).map Subtype.val ++
        leftover (isFresh && (argumentsOf pieces).isEmpty) items := by
  induction pieces generalizing isFresh with
  | nil => simp [argumentsOf]
  | cons piece pieces ih =>
      cases piece with
      | argument positional =>
          have hrest := ih false
          rw [Bool.false_and] at hrest
          have harguments : argumentsOf (.argument positional :: pieces) =
              positional :: argumentsOf pieces := rfl
          rw [harguments, List.isEmpty_cons, Bool.and_false]
          exact congrArg (positional.val :: ·) hrest
      | option group => exact ih isFresh

theorem leftover_pieces (isFresh : Bool) (pieces : List Piece) :
    leftover isFresh (pieces.map Piece.item) =
      (argumentsOf pieces).map Subtype.val := by
  have hleftover := leftover_pieces_append isFresh pieces []
  rwa [List.append_nil, leftover, List.append_nil] at hleftover

/-! ## Both rounds -/

/-- The two kinds of pieces read apart from each other. -/
def readApart (positionals : List Positional) (options : List OptionGroup) :
    Except Halt (Layer × Arguments) := do
  let layer ← OptionGroup.applyAll options {}
  let arguments ← misusing (slotted (positionals.map Subtype.val))
  return (layer, arguments)

theorem misusing_ofTexts_textsOf (pieces : List Piece) :
    misusing (Word.ofTexts (textsOf pieces)) = .ok (pieces.flatMap Piece.words) := by
  rw [ofTexts_textsOf]
  rfl

theorem textsOf_arguments (positionals : List Positional) :
    textsOf (positionals.map .argument) = positionals.map Subtype.val := by
  simp [textsOf, Piece.texts, List.flatMap_map]

theorem optionsOf_arguments (positionals : List Positional) :
    optionsOf (positionals.map .argument) = [] := by
  simp [optionsOf, Piece.option?, List.filterMap_map]

theorem argumentsOf_arguments (positionals : List Positional) :
    argumentsOf (positionals.map .argument) = positionals := by
  simp [argumentsOf, Piece.argument?, List.filterMap_map, Function.comp_def]

/-- The second round meets positional arguments only, so it selects nothing. -/
theorem select_arguments (positionals : List Positional) (layer : Layer) :
    select none layer ((positionals.map Piece.argument).flatMap Piece.words) =
      .ok (layer, (positionals.map Subtype.val).map .operand) := by
  have hwords : (positionals.map Piece.argument).flatMap Piece.words =
      (positionals.map Subtype.val).map .operand := by
    simp [Piece.words, List.flatMap_map, ← List.map_eq_flatMap]
  rw [hwords, select_operands]

theorem read_textsOf (pieces : List Piece) :
    read (textsOf pieces) = readApart (argumentsOf pieces) (optionsOf pieces) := by
  have hplain : ∀ text ∈ (argumentsOf pieces).map Subtype.val,
      text ≠ separatorText := by
    intro text hmem
    obtain ⟨positional, -, rfl⟩ := List.mem_map.mp hmem
    exact ne_separator_of_isPositional positional.property
  have hsecond : misusing (Word.ofTexts ((argumentsOf pieces).map Subtype.val)) =
      .ok (((argumentsOf pieces).map Piece.argument).flatMap Piece.words) := by
    rw [← textsOf_arguments]
    exact misusing_ofTexts_textsOf _
  unfold read readApart
  rw [misusing_ofTexts_textsOf]
  simp only [bind, Except.bind, select_pieces]
  cases OptionGroup.applyAll (optionsOf pieces) {} with
  | error halt => rfl
  | ok layer =>
      simp only [Except.map, leftover_pieces, hsecond, select_arguments,
        Filling.arguments_of_operands hplain]

/-- One option in front of all positional arguments. -/
theorem read_option_first (option : OptionGroup) (positionals : List Positional) :
    read (option.texts ++ positionals.map Subtype.val) =
      readApart positionals [option] := by
  have htexts : textsOf (.option option :: positionals.map .argument) =
      option.texts ++ positionals.map Subtype.val :=
    congrArg (option.texts ++ ·) (textsOf_arguments positionals)
  have hoptions : optionsOf (.option option :: positionals.map .argument) =
      option :: optionsOf (positionals.map .argument) := rfl
  have harguments : argumentsOf (.option option :: positionals.map .argument) =
      argumentsOf (positionals.map .argument) := rfl
  rw [← htexts, read_textsOf, hoptions, optionsOf_arguments, harguments,
    argumentsOf_arguments]

theorem read_arguments (positionals : List Positional) :
    read (positionals.map Subtype.val) = readApart positionals [] := by
  rw [← textsOf_arguments, read_textsOf, optionsOf_arguments, argumentsOf_arguments]

/-- Options that can all be applied leave the rest to the slots. -/
theorem readApart_of_applied {options : List OptionGroup} {layer : Layer}
    (happlied : OptionGroup.applyAll options {} = .ok layer)
    (positionals : List Positional) :
    readApart positionals options =
      (misusing (slotted (positionals.map Subtype.val))).map fun arguments =>
        (layer, arguments) := by
  rw [readApart, happlied]
  rfl

theorem readApart_of_halted {options : List OptionGroup} {halt : Halt}
    (hhalted : OptionGroup.applyAll options {} = .error halt)
    (positionals : List Positional) :
    readApart positionals options = .error halt := by
  rw [readApart, hhalted]
  rfl

end RawPost.CommandLine

namespace RawPost.Program

open CommandLine

/-- Options may stand anywhere among the positional arguments: the command line is read as the options in
their order and the positional arguments in theirs, so two command lines with the same of both get the same
answer, be it only a message that they cannot be read. -/
theorem run_eq_of_interleaves [Memory] {positionals : List Positional}
    {options : List OptionGroup} {first second : List Piece}
    (hfirst : Interleaves positionals options first)
    (hsecond : Interleaves positionals options second)
    (environment : Environment) (peer : Peer) :
    read (textsOf first) = readApart positionals options ∧
      run (textsOf first) environment peer = run (textsOf second) environment peer := by
  have hreadFirst : read (textsOf first) = readApart positionals options := by
    rw [read_textsOf, hfirst.arguments_eq, hfirst.options_eq]
  have hreadSecond : read (textsOf second) = readApart positionals options := by
    rw [read_textsOf, hsecond.arguments_eq, hsecond.options_eq]
  refine ⟨hreadFirst, ?_⟩
  simp only [run, hreadFirst, hreadSecond]

/-- A body that is a negative number; the options stand between it and the header, or farther in front. -/
theorem run_eq_of_interleaves_body :
    let first := ["POST", "h", "80", "/", "-1", "--read-timeout", "2", "-D", "X: y"]
    let second := ["--read-timeout", "2", "POST", "-D", "h", "80", "/", "-1", "X: y"]
    let peer : Peer := { incoming := [.ok [0x41]] }
    (read first).map Prod.snd =
        .ok ⟨some "POST", some "h", some "80", some "/", some "-1", ["X: y"]⟩ ∧
      run first [] peer = run second [] peer := by
  intro first second peer
  let method : Positional := ⟨"POST", by decide⟩
  let host : Positional := ⟨"h", by decide⟩
  let port : Positional := ⟨"80", by decide⟩
  let path : Positional := ⟨"/", by decide⟩
  let body : Positional := ⟨"-1", by decide⟩
  let header : Positional := ⟨"X: y", by decide⟩
  let timeout : OptionGroup := .followed .readTimeout "2" (by decide)
  have hfirst : Interleaves [method, host, port, path, body, header]
      [timeout, .shortDebug]
      [.argument method, .argument host, .argument port, .argument path,
        .argument body, .option timeout, .option .shortDebug,
        .argument header] := ⟨rfl, rfl⟩
  have hsecond : Interleaves [method, host, port, path, body, header]
      [timeout, .shortDebug]
      [.option timeout, .argument method, .option .shortDebug, .argument host,
        .argument port, .argument path, .argument body, .argument header] :=
    ⟨rfl, rfl⟩
  obtain ⟨hread, hrun⟩ : read first = _ ∧ _ :=
    run_eq_of_interleaves hfirst hsecond [] peer
  refine ⟨?_, hrun⟩
  rw [hread]
  rfl

end RawPost.Program
