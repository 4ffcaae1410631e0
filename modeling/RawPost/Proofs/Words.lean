import RawPost.CommandLine.Arguments
import Mathlib.Tactic

/-!
# What a word of the command line is read as

A text without a dash at its beginning is an operand, and so are a dash alone and a negative number: the
names of all switches go on with a dash or a letter.  The name of a switch is read as that switch, and with
an equals sign and a value behind it as the switch with the value attached, whatever the value is.
-/

namespace RawPost.CommandLine

open Text

def IsDashed (text : String) : Prop :=
  text.toList.head? = some '-'

instance (text : String) : Decidable (IsDashed text) :=
  inferInstanceAs (Decidable (_ = _))

/-- Empty, without a dash at its beginning, a dash alone, or a negative number. -/
def IsPositional (text : String) : Prop :=
  ¬ IsDashed text ∨ text = "-" ∨ isNegativeNumber text.toList = true

instance (text : String) : Decidable (IsPositional text) :=
  inferInstanceAs (Decidable (_ ∨ _ ∨ _))

/-! ## Operands -/

theorem ofText_of_not_isDashed {text : String} (htext : ¬ IsDashed text) :
    Word.ofText text = .ok (.operand text) := by
  unfold Word.ofText
  split
  next c rest hdashed => simp [IsDashed, hdashed] at htext
  next => rfl

/-- The first character of an unsigned number. -/
def beginsNumber (c : Char) : Bool :=
  isDigit c || c == '.'

theorem beginsNumber_of_isUnsignedNumber {c : Char} {rest : List Char}
    (hnumber : isUnsignedNumber (c :: rest) = true) : beginsNumber c = true := by
  by_cases hdigit : isDigit c = true
  · simp [beginsNumber, hdigit]
  · have hother : isDigit c = false := by simpa using hdigit
    have hspan : (c :: rest).span isDigit = ([], c :: rest) := by
      simp [List.span_eq_takeWhile_dropWhile, hother]
    simp only [isUnsignedNumber, hspan] at hnumber
    split at hnumber
    next hnil => simp at hnil
    next point fraction hpoint =>
      rw [List.cons.injEq] at hpoint
      simp [beginsNumber, hpoint.1]
    next => simp at hnumber

/-- Behind the dash of a negative number there is a digit or a point. -/
theorem exists_of_isNegativeNumber {text : List Char}
    (hnumber : isNegativeNumber text = true) :
    ∃ c rest, text = '-' :: c :: rest ∧ beginsNumber c = true := by
  unfold isNegativeNumber at hnumber
  split at hnumber
  next rest =>
    unfold withoutFinalLineFeed at hnumber
    cases rest with
    | nil => simp [isUnsignedNumber, isDigits, List.span_eq_takeWhile_dropWhile] at hnumber
    | cons c rest =>
        refine ⟨c, rest, rfl, ?_⟩
        split at hnumber
        next hlast =>
          cases rest with
          | nil => simp [isUnsignedNumber, isDigits, List.span_eq_takeWhile_dropWhile] at hnumber
          | cons next rest =>
              rw [List.dropLast_cons_cons] at hnumber
              exact beginsNumber_of_isUnsignedNumber hnumber
        next => exact beginsNumber_of_isUnsignedNumber hnumber
  next => simp at hnumber

/-- No switch has a name that goes on like a number. -/
theorem exactSwitch?_of_beginsNumber {c : Char} (hc : beginsNumber c = true)
    (rest : List Char) : exactSwitch? ('-' :: c :: rest) = none := by
  have hnames : ∀ entry ∈ switchNames,
      (entry.1.toList[1]?.map beginsNumber) = some false := by decide
  unfold exactSwitch?
  rw [List.lookup_eq_none_iff]
  intro entry hentry
  rw [bne_iff_ne]
  intro hname
  have hsecond := hnames entry hentry
  rw [← hname, String.toList_ofList] at hsecond
  simp [hc] at hsecond

theorem splitAttached_cons {c : Char} (hc : c ≠ '=') (text : List Char) :
    splitAttached (c :: text) =
      (c :: (splitAttached text).1, (splitAttached text).2) := by
  have hother : (c != '=') = true := by simpa using hc
  unfold splitAttached
  simp only [List.span_eq_takeWhile_dropWhile, List.takeWhile_cons,
    List.dropWhile_cons, hother, if_true]
  cases text.dropWhile (· != '=') <;> rfl

theorem dashedWord_of_isNegativeNumber {c : Char} {rest : List Char}
    (hnumber : isNegativeNumber ('-' :: c :: rest) = true)
    (hc : beginsNumber c = true) :
    dashedWord ('-' :: c :: rest) =
      .ok (.operand (String.ofList ('-' :: c :: rest))) := by
  have hequals : c ≠ '=' := by
    rintro rfl
    revert hc
    decide
  have hdash : c ≠ '-' := by
    rintro rfl
    revert hc
    decide
  have hlong : isLongName ('-' :: c :: rest) = false := by
    simp [isLongName, hdash]
  have hsplit : splitAttached ('-' :: c :: rest) =
      ('-' :: c :: (splitAttached rest).1, (splitAttached rest).2) := by
    rw [splitAttached_cons (by decide), splitAttached_cons hequals]
  have hstray : clusteredWord ('-' :: c :: rest) =
      .operand (String.ofList ('-' :: c :: rest)) := by
    simp only [clusteredWord, List.take_succ_cons, List.take_zero,
      exactSwitch?_of_beginsNumber hc, strayWord, hnumber, Bool.true_or, if_true]
  simp only [dashedWord, hsplit, exactSwitch?_of_beginsNumber hc, hlong, hstray]
  cases (splitAttached rest).2 <;> rfl

theorem ofText_of_isPositional {text : String} (htext : IsPositional text) :
    Word.ofText text = .ok (.operand text) := by
  rcases htext with hplain | rfl | hnumber
  · exact ofText_of_not_isDashed hplain
  · rfl
  · obtain ⟨c, rest, hchars, hc⟩ := exists_of_isNegativeNumber hnumber
    rw [hchars] at hnumber
    have hword := dashedWord_of_isNegativeNumber hnumber hc
    rw [← hchars, String.ofList_toList] at hword
    simp only [Word.ofText, hchars]
    rw [← hchars]
    exact hword

theorem ne_separator_of_isPositional {text : String} (htext : IsPositional text) :
    text ≠ separatorText := by
  rintro rfl
  revert htext
  decide

/-! ## Switches -/

/-- The switches that take a value. -/
inductive ValuedSwitch where
  | connectTimeout
  | readTimeout
  | responseLimit
  deriving DecidableEq, Repr

namespace ValuedSwitch

def switch : ValuedSwitch → Switch
  | connectTimeout => .connectTimeout
  | readTimeout => .readTimeout
  | responseLimit => .responseLimit

/-- A switch with a value has one name, and is called by it. -/
def name (named : ValuedSwitch) : String :=
  named.switch.title

theorem takesValue (named : ValuedSwitch) : named.switch.takesValue = true := by
  cases named <;> rfl

theorem exactSwitch?_name (named : ValuedSwitch) :
    exactSwitch? named.name.toList = some named.switch := by
  cases named <;> rfl

theorem name_ne_separator (named : ValuedSwitch) : named.name ≠ separatorText := by
  cases named <;> decide

theorem equals_not_mem_name (named : ValuedSwitch) : '=' ∉ named.name.toList := by
  cases named <;> decide

theorem exists_name_eq (named : ValuedSwitch) :
    ∃ rest, named.name.toList = '-' :: '-' :: rest := by
  cases named <;> exact ⟨_, rfl⟩

theorem ofText_name (named : ValuedSwitch) :
    Word.ofText named.name = .ok (.switch named.switch false none) := by
  cases named <;> rfl

end ValuedSwitch

theorem splitAttached_append {name : List Char} (hname : '=' ∉ name)
    (value : List Char) :
    splitAttached (name ++ '=' :: value) = (name, some (String.ofList value)) := by
  induction name with
  | nil =>
      simp [splitAttached, List.span_eq_takeWhile_dropWhile]
  | cons c name ih =>
      rw [List.mem_cons, not_or] at hname
      rw [List.cons_append, splitAttached_cons (Ne.symm hname.1), ih hname.2]

/-- No switch has a name with an equals sign. -/
theorem exactSwitch?_of_equals {text : List Char} (htext : '=' ∈ text) :
    exactSwitch? text = none := by
  have hnames : ∀ entry ∈ switchNames, '=' ∉ entry.1.toList := by decide
  unfold exactSwitch?
  rw [List.lookup_eq_none_iff]
  intro entry hentry
  rw [bne_iff_ne]
  intro hname
  apply hnames entry hentry
  rw [← hname, String.toList_ofList]
  exact htext

/-- The text that gives a switch its value behind an equals sign. -/
def attachedText (named : ValuedSwitch) (value : String) : String :=
  named.name ++ "=" ++ value

theorem toList_attachedText (named : ValuedSwitch) (value : String) :
    (attachedText named value).toList = named.name.toList ++ '=' :: value.toList := by
  simp [attachedText]

theorem attachedText_ne_separator (named : ValuedSwitch) (value : String) :
    attachedText named value ≠ separatorText := by
  intro htext
  have hequals : '=' ∈ separatorText.toList := by
    rw [← htext, toList_attachedText]
    simp
  revert hequals
  decide

theorem ofText_attachedText (named : ValuedSwitch) (value : String) :
    Word.ofText (attachedText named value) =
      .ok (.switch named.switch false (some value)) := by
  have hchars := toList_attachedText named value
  have hequals : '=' ∈ (attachedText named value).toList := by simp [hchars]
  have hsplit := splitAttached_append named.equals_not_mem_name value.toList
  rw [← hchars, String.ofList_toList] at hsplit
  obtain ⟨rest, hname⟩ := named.exists_name_eq
  rw [hname, List.cons_append, List.cons_append] at hchars
  have hlong : isLongName (attachedText named value).toList = true := by
    rw [hchars]
    rfl
  have hword : dashedWord (attachedText named value).toList =
      .ok (.switch named.switch false (some value)) := by
    simp only [dashedWord, exactSwitch?_of_equals hequals, hsplit,
      Option.bind_some, named.exactSwitch?_name, Option.map_some, hlong,
      Bool.not_true]
  simp only [Word.ofText, hchars]
  rw [← hchars]
  exact hword

end RawPost.CommandLine
