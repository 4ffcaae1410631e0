import RawPost.Proofs.Selection

/-!
# Blank places of a command line

A place is left blank by a separator: as the value of a switch, or alone in the slot of an argument.  So a
command line without separators, on their own or attached to a switch, gives every number a value and fills
every slot that it reaches.
-/

namespace RawPost.CommandLine

open Settings

/-- A text that is a separator, or that attaches one to a name. -/
def HasSeparator (text : List Char) : Prop :=
  text = separatorText.toList ∨ '=' :: separatorText.toList <:+ text

/-- A word from which no place can be left blank. -/
def Word.IsPlain : Word → Prop
  | .operand text => ¬ HasSeparator text.toList
  | .separator => False
  | .switch named _ attached =>
    named.takesValue = true → attached ≠ some separatorText
  | .stray text => ¬ HasSeparator text.toList

/-! ## Words -/

theorem eq_of_splitAttached {text name : List Char} {value : String}
    (hsplit : splitAttached text = (name, some value)) :
    text = name ++ '=' :: value.toList := by
  unfold splitAttached at hsplit
  rw [List.span_eq_takeWhile_dropWhile] at hsplit
  have hwhole : text.takeWhile (· != '=') ++ text.dropWhile (· != '=') = text :=
    List.takeWhile_append_dropWhile
  have hequals := List.head?_dropWhile_not (· != '=') text
  cases hrest : text.dropWhile (· != '=') with
  | nil => simp [hrest] at hsplit
  | cons c rest =>
      rw [hrest] at hsplit hwhole hequals
      simp only [Prod.mk.injEq, Option.some.injEq] at hsplit
      simp only [List.head?_cons, bne_eq_false_iff_eq] at hequals
      rw [← hwhole, ← hsplit.1, ← hsplit.2, String.toList_ofList, hequals]

theorem ne_separator_of_splitAttached {text name : List Char} {value : String}
    (hplain : ¬ HasSeparator text)
    (hsplit : splitAttached text = (name, some value)) :
    value ≠ separatorText := by
  rintro rfl
  apply hplain
  right
  rw [eq_of_splitAttached hsplit]
  exact List.suffix_append _ _

/-- The short names are those of switches without a value. -/
theorem takesValue_of_short {name : List Char} {switch : Switch}
    (hswitch : exactSwitch? name = some switch) (hshort : name.length ≤ 2) :
    switch.takesValue = false := by
  obtain ⟨before, after, hnames, -⟩ := List.lookup_eq_some_iff.mp hswitch
  have hmem : (String.ofList name, switch) ∈ switchNames := by
    rw [hnames]
    simp
  have hlength : (String.ofList name).toList.length ≤ 2 := by
    rw [String.toList_ofList]
    exact hshort
  have hall : ∀ entry ∈ switchNames, entry.1.toList.length ≤ 2 →
      entry.2.takesValue = false := by decide
  exact hall _ hmem hlength

theorem strayWord_isPlain {text : List Char} (hplain : ¬ HasSeparator text) :
    (strayWord text).IsPlain := by
  unfold strayWord
  split <;> simpa [Word.IsPlain] using hplain

theorem abbreviatedWord_isPlain {text : List Char} {word : Word}
    (hplain : ¬ HasSeparator text) (hword : abbreviatedWord text = .ok word) :
    word.IsPlain := by
  rcases hsplit : splitAttached text with ⟨start, attached⟩
  simp only [abbreviatedWord, hsplit] at hword
  split at hword
  next =>
    rw [Except.ok.injEq] at hword
    rw [← hword]
    exact strayWord_isPlain hplain
  next name named hnames =>
    rw [Except.ok.injEq] at hword
    rw [← hword]
    rintro - rfl
    exact ne_separator_of_splitAttached hplain hsplit rfl
  next => simp at hword

theorem clusteredWord_isPlain {text : List Char} (hplain : ¬ HasSeparator text) :
    (clusteredWord text).IsPlain := by
  unfold clusteredWord
  split
  next => exact strayWord_isPlain hplain
  next named hnamed =>
    have hshort := takesValue_of_short hnamed (by simp)
    simp [Word.IsPlain, hshort]

theorem dashedWord_isPlain {text : List Char} {word : Word}
    (hplain : ¬ HasSeparator text) (hword : dashedWord text = .ok word) :
    word.IsPlain := by
  unfold dashedWord at hword
  split at hword
  next named hexact =>
    rw [Except.ok.injEq] at hword
    simp [← hword, Word.IsPlain]
  next hexact =>
    rcases hsplit : splitAttached text with ⟨name, attached⟩
    simp only [hsplit] at hword
    split at hword
    next named value hnamed =>
      rw [Except.ok.injEq] at hword
      simp only [Option.bind_eq_some_iff, Option.map_eq_some_iff,
        Prod.mk.injEq] at hnamed
      obtain ⟨other, rfl, _, _, _, rfl⟩ := hnamed
      rw [← hword]
      rintro - hvalue
      rw [Option.some.injEq] at hvalue
      exact ne_separator_of_splitAttached hplain hsplit hvalue
    next hnamed =>
      by_cases hlong : isLongName text = true
      · rw [if_pos hlong] at hword
        exact abbreviatedWord_isPlain hplain hword
      · rw [if_neg hlong, Except.ok.injEq] at hword
        rw [← hword]
        exact clusteredWord_isPlain hplain

theorem ofText_isPlain {text : String} {word : Word}
    (hplain : ¬ HasSeparator text.toList) (hword : Word.ofText text = .ok word) :
    word.IsPlain := by
  unfold Word.ofText at hword
  split at hword
  next c rest htext =>
    rw [htext] at hplain
    exact dashedWord_isPlain hplain hword
  next =>
    rw [Except.ok.injEq] at hword
    rw [← hword]
    exact hplain

theorem ofTexts_isPlain {texts : List String} {words : List Word}
    (hplain : ∀ text ∈ texts, ¬ HasSeparator text.toList)
    (hwords : Word.ofTexts texts = .ok words) :
    ∀ word ∈ words, word.IsPlain := by
  induction texts generalizing words with
  | nil =>
      rw [Word.ofTexts, Except.ok.injEq] at hwords
      simp [← hwords]
  | cons text texts ih =>
      have hseparator : text ≠ separatorText := by
        rintro rfl
        exact hplain separatorText List.mem_cons_self (.inl rfl)
      rw [Word.ofTexts, if_neg hseparator] at hwords
      obtain ⟨first, hfirst, hwords⟩ := exists_of_bind_eq_ok hwords
      obtain ⟨rest, hrest, hwords⟩ := exists_of_bind_eq_ok hwords
      simp only [pure, Except.pure, Except.ok.injEq] at hwords
      rw [← hwords]
      intro word hmem
      rcases List.mem_cons.mp hmem with rfl | hmem
      · exact ofText_isPlain (hplain text List.mem_cons_self) hfirst
      · exact ih (fun other hother => hplain other (List.mem_cons_of_mem _ hother))
          hrest word hmem

/-! ## Switches -/

/-- An item that is not a separator and has none in it. -/
def Item.IsPlain : Item → Prop
  | .operand text => ¬ HasSeparator text.toList
  | .separator => False
  | .cut strays => ∀ text ∈ strays, ¬ HasSeparator text.toList

theorem entryOf_ne_blank {α : Type} {named : Switch} {value : String}
    {read? : String → Option α} {entry : Entry α}
    (hvalue : value ≠ separatorText)
    (hentry : entryOf named value read? = .ok entry) : entry ≠ .blank := by
  rw [entryOf, if_neg hvalue] at hentry
  cases hreading : reading named value (read? value) with
  | error halt => simp [hreading, Except.map] at hentry
  | ok a =>
      rw [hreading] at hentry
      simp only [Except.map, Except.ok.injEq] at hentry
      simp [← hentry]

theorem assign_isFilled {named : Switch} {value : String}
    {layer after : Layer} (hvalue : value ≠ separatorText)
    (hfilled : layer.IsFilled) (hassign : named.assign value layer = .ok after) :
    after.IsFilled := by
  cases assigned_of_assign hassign with
  | connectTimeout hentry =>
      have hnot := entryOf_ne_blank hvalue hentry
      exact ⟨by simpa using hnot, hfilled.readTimeout, hfilled.responseLimit⟩
  | readTimeout hentry =>
      have hnot := entryOf_ne_blank hvalue hentry
      exact ⟨hfilled.connectTimeout, by simpa using hnot, hfilled.responseLimit⟩
  | responseLimit hentry =>
      have hnot := entryOf_ne_blank hvalue hentry
      exact ⟨hfilled.connectTimeout, hfilled.readTimeout, by simpa using hnot⟩

theorem turnOn_isFilled {named : Switch} {layer after : Layer}
    (hfilled : layer.IsFilled) (hturn : named.turnOn layer = .ok after) :
    after.IsFilled := by
  cases turnedOn_of_turnOn hturn with
  | printResponse =>
      exact ⟨hfilled.connectTimeout, hfilled.readTimeout, hfilled.responseLimit⟩
  | debug =>
      exact ⟨hfilled.connectTimeout, hfilled.readTimeout, hfilled.responseLimit⟩

theorem attach_isFilled {named : Switch} {isShort : Bool} {value : String}
    {layer after : Layer}
    (hvalue : named.takesValue = true → value ≠ separatorText)
    (hfilled : layer.IsFilled)
    (hattach : named.attach isShort value layer = .ok after) :
    after.IsFilled := by
  apply attach_keeps _ turnOn_isFilled hfilled hattach
  intro htakes
  exact assign_isFilled (hvalue htakes) hfilled

/-- What a list of words without separators selects. -/
structure SelectsPlainly (after : Layer) (items : List Item) : Prop where
  filled : after.IsFilled
  plain : ∀ item ∈ items, item.IsPlain

/-- One more item in front of what the rest of the words selects. -/
theorem SelectsPlainly.cons {rest : Except Halt (Layer × List Item)}
    {item : Item} {after : Layer} {items : List Item} (hitem : item.IsPlain)
    (hrest : ∀ {last : Layer} {others : List Item},
      rest = .ok (last, others) → SelectsPlainly last others)
    (hselect : (do
        let (layer, items) ← rest
        return (layer, item :: items)) = .ok (after, items)) :
    SelectsPlainly after items := by
  obtain ⟨others, hlast, rfl⟩ := exists_rest_of_item hselect
  have hothers := hrest hlast
  exact ⟨hothers.filled, List.forall_mem_cons.mpr ⟨hitem, hothers.plain⟩⟩

theorem cut_nil_isPlain : (Item.cut []).IsPlain :=
  List.forall_mem_nil _

theorem select_plainly {words : List Word} {pending : Option Switch}
    {layer after : Layer} {items : List Item}
    (hplain : ∀ word ∈ words, word.IsPlain) (hfilled : layer.IsFilled)
    (hselect : select pending layer words = .ok (after, items)) :
    SelectsPlainly after items := by
  fun_induction select pending layer words generalizing after items with
  | case1 named layer value rest ih =>
      -- The value is an operand of its own; only a separator in its place would leave it blank.
      obtain ⟨hvalue, hrest⟩ := List.forall_mem_cons.mp hplain
      obtain ⟨middle, hassign, hselect⟩ := exists_of_bind_eq_ok hselect
      have hseparator : value ≠ separatorText := by
        rintro rfl
        exact hvalue (.inl rfl)
      have hmiddle := assign_isFilled hseparator hfilled hassign
      exact .cons cut_nil_isPlain (ih middle hrest hmiddle) hselect
  | case2 => simp at hselect
  | case3 layer =>
      simp only [Except.ok.injEq, Prod.mk.injEq] at hselect
      rw [← hselect.1, ← hselect.2]
      exact ⟨hfilled, List.forall_mem_nil _⟩
  | case4 layer text rest ih =>
      obtain ⟨htext, hrest⟩ := List.forall_mem_cons.mp hplain
      have hitem : (Item.operand text).IsPlain := htext
      exact .cons hitem (ih hrest hfilled) hselect
  | case5 layer rest ih =>
      obtain ⟨hseparator, -⟩ := List.forall_mem_cons.mp hplain
      exact hseparator.elim
  | case6 layer text rest ih =>
      obtain ⟨htext, hrest⟩ := List.forall_mem_cons.mp hplain
      have hcut : (Item.cut [text]).IsPlain :=
        List.forall_mem_singleton.mpr htext
      exact .cons hcut (ih hrest hfilled) hselect
  | case7 layer named isShort rest htakes ih =>
      exact ih (List.forall_mem_cons.mp hplain).2 hfilled hselect
  | case8 layer named isShort rest htakes ih =>
      obtain ⟨-, hrest⟩ := List.forall_mem_cons.mp hplain
      obtain ⟨middle, hturn, hselect⟩ := exists_of_bind_eq_ok hselect
      have hmiddle := turnOn_isFilled hfilled hturn
      exact .cons cut_nil_isPlain (ih middle hrest hmiddle) hselect
  | case9 layer named isShort value rest ih =>
      -- Behind a short switch two dashes may stand, but no short switch takes a value.
      obtain ⟨hvalue, hrest⟩ := List.forall_mem_cons.mp hplain
      obtain ⟨middle, hattach, hselect⟩ := exists_of_bind_eq_ok hselect
      have hseparator (htakes : named.takesValue = true) :
          value ≠ separatorText := by
        rintro rfl
        exact hvalue htakes rfl
      have hmiddle := attach_isFilled hseparator hfilled hattach
      exact .cons cut_nil_isPlain (ih middle hrest hmiddle) hselect

/-! ## Slots -/

theorem leftover_plain {items : List Item} (isFresh : Bool)
    (hplain : ∀ item ∈ items, item.IsPlain) :
    ∀ text ∈ leftover isFresh items, ¬ HasSeparator text.toList := by
  induction items generalizing isFresh with
  | nil => exact List.forall_mem_nil _
  | cons item items ih =>
      obtain ⟨hitem, hrest⟩ := List.forall_mem_cons.mp hplain
      cases item with
      | operand text =>
          rw [leftover]
          exact List.forall_mem_cons.mpr ⟨hitem, ih false hrest⟩
      | separator => exact hitem.elim
      | cut strays =>
          rw [leftover]
          exact List.forall_mem_append.mpr ⟨hitem, ih isFresh hrest⟩

/-- An operand that is no separator. -/
def Token.IsPlain : Token → Prop
  | .operand text => text ≠ separatorText
  | .separator => False

theorem span_separators {run : List Token} (hplain : ∀ token ∈ run, token.IsPlain) :
    run.span Token.isSeparator = ([], run) := by
  cases run with
  | nil => rfl
  | cons token run =>
      have htoken := hplain token List.mem_cons_self
      cases token with
      | operand text =>
          rw [List.span_eq_takeWhile_dropWhile]
          rfl
      | separator => exact htoken.elim

/-- Without separators a slot takes exactly one operand. -/
theorem splitSlot_cons {text : String} {run : List Token}
    (htext : text ≠ separatorText) (hplain : ∀ token ∈ run, token.IsPlain) :
    splitSlot (.operand text :: run) = ([.operand text], run) := by
  have hfirst : (Token.operand text :: run).span Token.isSeparator =
      ([], .operand text :: run) :=
    span_separators (List.forall_mem_cons.mpr ⟨htext, hplain⟩)
  have hrest : ((Token.operand text :: run).drop 1).span Token.isSeparator =
      ([], run) := span_separators hplain
  simp only [splitSlot, hfirst, hrest]
  rfl

theorem slotTexts_operand {text : String} (htext : text ≠ separatorText) :
    slotTexts [.operand text] = [text] := by
  simp [slotTexts, Token.text, htext]

namespace Filling

/-- No slot that was reached stayed empty. -/
def IsFilled (filling : Filling) : Prop :=
  ∀ entry ∈ filling.required, entry ≠ none

theorem fillRequired_isFilled {count : Nat} {filling : Filling}
    {run : List Token} (hplain : ∀ token ∈ run, token.IsPlain)
    (hcount : count ≤ run.length) (hfilled : filling.IsFilled) :
    (fillRequired count filling run).1.IsFilled := by
  induction count generalizing filling run with
  | zero => exact hfilled
  | succ count ih =>
      cases run with
      | nil => simp at hcount
      | cons token run =>
          obtain ⟨htoken, hrest⟩ := List.forall_mem_cons.mp hplain
          cases token with
          | separator => exact htoken.elim
          | operand text =>
              simp only [fillRequired, splitSlot_cons htoken hrest,
                slotTexts_operand htoken]
              apply ih hrest (Nat.le_of_succ_le_succ hcount)
              intro entry hmem
              rcases List.mem_append.mp hmem with hmem | hmem
              · exact hfilled entry hmem
              · simp [List.mem_singleton.mp hmem]

theorem fillRun_isFilled {filling : Filling} {run : List Token}
    (hplain : ∀ token ∈ run, token.IsPlain) (hfilled : filling.IsFilled) :
    (filling.fillRun run).IsFilled := by
  have hcount : min filling.missing.length
      (run.filter (!·.isSeparator)).length ≤ run.length :=
    (Nat.min_le_right _ _).trans (List.length_filter_le _ _)
  have hrequired := fillRequired_isFilled hplain hcount hfilled
  simp only [fillRun]
  split <;> exact hrequired

theorem fillFrom_isFilled {items : List Item} {filling : Filling}
    {run : List Token} (hitems : ∀ item ∈ items, item.IsPlain)
    (hplain : ∀ token ∈ run, token.IsPlain) (hfilled : filling.IsFilled) :
    (fillFrom filling run items).IsFilled := by
  induction items generalizing filling run with
  | nil => exact fillRun_isFilled hplain hfilled
  | cons item items ih =>
      obtain ⟨hitem, hrest⟩ := List.forall_mem_cons.mp hitems
      cases item with
      | operand text =>
          have htext : text ≠ separatorText := by
            rintro rfl
            exact hitem (.inl rfl)
          rw [fillFrom]
          apply ih hrest _ hfilled
          exact List.forall_mem_append.mpr
            ⟨hplain, List.forall_mem_singleton.mpr htext⟩
      | separator => exact hitem.elim
      | cut strays =>
          rw [fillFrom]
          apply ih hrest (List.forall_mem_nil _)
          exact fillRun_isFilled hplain hfilled

theorem port_of_isFilled {filling : Filling} {arguments : Arguments}
    (hfilled : filling.IsFilled) (harguments : filling.arguments = .ok arguments) :
    arguments.port ≠ none := by
  unfold Filling.arguments at harguments
  split at harguments
  next method host port path hrequired =>
    split at harguments
    next =>
      rw [Except.ok.injEq] at harguments
      rw [← harguments]
      apply hfilled port
      simp [hrequired]
    next => simp at harguments
  next => simp at harguments

end Filling

/-! ## The whole command line -/

/-- Without separators no number is left blank and no port is missing. -/
theorem filled_of_read {texts : List String} {layer : Layer}
    {arguments : Arguments}
    (hplain : ∀ text ∈ texts, ¬ HasSeparator text.toList)
    (hread : read texts = .ok (layer, arguments)) :
    layer.IsFilled ∧ arguments.port ≠ none := by
  obtain ⟨words, others, middle, items, rest, hrounds⟩ := exists_rounds hread
  have hempty : Layer.IsFilled {} := by constructor <;> simp
  have hround := select_plainly (ofTexts_isPlain hplain hrounds.words_eq) hempty
    hrounds.first_eq
  have hleft := leftover_plain true hround.plain
  have hlast := select_plainly (ofTexts_isPlain hleft hrounds.others_eq)
    hround.filled hrounds.second_eq
  have hslots : (Filling.fillFrom {} [] rest).IsFilled :=
    Filling.fillFrom_isFilled hlast.plain (List.forall_mem_nil _)
      (List.forall_mem_nil _)
  exact ⟨hlast.filled, Filling.port_of_isFilled hslots hrounds.arguments_eq⟩

end RawPost.CommandLine
