import RawPost.Proofs.Scan
import RawPost.Proofs.Variables

/-!
# What the text of a variable stands for

The white space on both sides of a text does not count.  Of what remains, a few words have a meaning of
their own, in letters of either case: no word at all or "none" for no timeout, and four words for a switch
that is on.  Everything else has to be a numeral, so a text that is neither stands for nothing.
-/

namespace RawPost

namespace Text

/-- What remains of a text without the white space on both sides of it. -/
structure StripsTo (text core : List Char) : Prop where
  around : ∃ before after, text = before ++ (core ++ after) ∧
    (∀ c ∈ before, isBlank c = true) ∧ (∀ c ∈ after, isBlank c = true)
  first : ∀ c ∈ core.head?, isBlank c = false
  last : ∀ c ∈ core.getLast?, isBlank c = false

/-- A word in letters of either case. -/
def Spells (word : String) (text : List Char) : Prop :=
  List.Forall₂ (fun c letter => c = letter ∨ c = letter.toUpper) text word.toList

/-! ## White space -/

theorem trimBoth_of_around {drops : Char → Bool} {before core after : List Char}
    (hbefore : ∀ c ∈ before, drops c = true) (hafter : ∀ c ∈ after, drops c = true)
    (hfirst : ∀ c ∈ core.head?, drops c = false)
    (hlast : ∀ c ∈ core.getLast?, drops c = false) :
    trimBoth drops (before ++ (core ++ after)) = core := by
  have hback : (after.reverse ++ core.reverse).dropWhile drops = core.reverse := by
    apply dropWhile_of_stops
    · simpa using hafter
    · simpa using hlast
  cases core with
  | nil =>
      have hall : ((before ++ after) ++ []).dropWhile drops = [] :=
        dropWhile_of_stops (List.forall_mem_append.mpr ⟨hbefore, hafter⟩) (by simp)
      rw [List.append_nil] at hall
      rw [List.nil_append, trimBoth, hall]
      rfl
  | cons c core =>
      have hfront : (before ++ (c :: core ++ after)).dropWhile drops = c :: core ++ after :=
        dropWhile_of_stops hbefore hfirst
      rw [trimBoth, hfront, List.reverse_append, hback, List.reverse_reverse]

theorem stripsTo_trimBoth (text : List Char) : StripsTo text (trimBoth isBlank text) := by
  let rest := text.dropWhile isBlank
  have hfront : text.takeWhile isBlank ++ rest = text := List.takeWhile_append_dropWhile
  have hback : trimBoth isBlank text ++ (rest.reverse.takeWhile isBlank).reverse = rest := by
    rw [trimBoth, ← List.reverse_append, List.takeWhile_append_dropWhile,
      List.reverse_reverse]
  constructor
  · refine ⟨text.takeWhile isBlank, (rest.reverse.takeWhile isBlank).reverse, ?_,
      List.all_eq_true.mp List.all_takeWhile, ?_⟩
    · rw [hback, hfront]
    · intro c hc
      exact List.all_eq_true.mp List.all_takeWhile c (List.mem_reverse.mp hc)
  · intro c hc
    apply head?_dropWhile_stops isBlank text
    change c ∈ rest.head?
    rw [← hback, List.head?_append, Option.mem_def.mp hc]
    rfl
  · intro c hc
    rw [trimBoth, List.getLast?_reverse] at hc
    exact head?_dropWhile_stops isBlank _ c hc

theorem stripsTo_iff {text : String} {core : List Char} :
    StripsTo text.toList core ↔ core = (strip text).toList := by
  rw [strip, String.toList_ofList]
  constructor
  · rintro ⟨⟨before, after, htext, hbefore, hafter⟩, hfirst, hlast⟩
    rw [htext, trimBoth_of_around hbefore hafter hfirst hlast]
  · rintro rfl
    exact stripsTo_trimBoth text.toList

/-! ## Words -/

/-- The character is the lower case of itself and of its capital. -/
def isSmall (letter : Char) : Bool :=
  letter.toLower == letter && letter.toUpper.toLower == letter

/-- A letter and its capital have the letter for their lower case, and nothing else has. -/
theorem toLower_eq_iff {letter : Char} (hsmall : isSmall letter = true) (c : Char) :
    c.toLower = letter ↔ c = letter ∨ c = letter.toUpper := by
  constructor
  · intro hlower
    rcases toLower_eq_self_or_mem c with hself | hmem
    · exact .inl (hself.symm.trans hlower)
    · have hback : capitals.map id = capitals.map fun d => d.toLower.toUpper := by decide
      right
      rw [← hlower]
      exact List.map_inj_left.mp hback c hmem
  · simp only [isSmall, Bool.and_eq_true, beq_iff_eq] at hsmall
    rintro (rfl | rfl)
    · exact hsmall.1
    · exact hsmall.2

theorem spells_iff {word : String} (hword : word.toList.all isSmall = true)
    (text : List Char) :
    Spells word text ↔ text.map Char.toLower = word.toList := by
  unfold Spells
  generalize word.toList = letters at hword ⊢
  induction letters generalizing text with
  | nil => simp
  | cons letter letters ih =>
      rw [List.all_cons, Bool.and_eq_true] at hword
      obtain ⟨hletter, hletters⟩ := hword
      cases text with
      | nil => simp
      | cons c text =>
          rw [List.forall₂_cons, ih text hletters, List.map_cons, List.cons.injEq,
            toLower_eq_iff hletter]

end Text

namespace Settings

open Text Number

/-- A timeout in seconds, or the word or no word at all for no timeout. -/
inductive ReadsTimeout (raw : String) : Timeout → Prop
  | none {core : List Char} (hcore : StripsTo raw.toList core)
      (hword : Spells "" core ∨ Spells "none" core) : ReadsTimeout raw none
  | seconds {core : List Char} {seconds : Binary64} (hcore : StripsTo raw.toList core)
      (hnumber : readDecimal? (String.ofList core) = some seconds) :
      ReadsTimeout raw (some seconds)

inductive ReadsLimit (raw : String) : Int → Prop
  | integer {core : List Char} {n : Int} (hcore : StripsTo raw.toList core)
      (hnumber : readInteger? (String.ofList core) = some n) : ReadsLimit raw n

def SpellsOn (raw : String) : Prop :=
  ∃ core, StripsTo raw.toList core ∧
    (Spells "1" core ∨ Spells "true" core ∨ Spells "yes" core ∨ Spells "on" core)

/-- A switch is on exactly for the words that say so; every other text leaves it off. -/
inductive ReadsSwitch (raw : String) : Bool → Prop
  | on (hon : SpellsOn raw) : ReadsSwitch raw true
  | off (hoff : ¬ SpellsOn raw) : ReadsSwitch raw false

variable {raw : String}

theorem plainWord_eq_iff {word : String} (hword : word.toList.all isSmall = true) :
    plainWord raw = word ↔ Spells word (strip raw).toList := by
  rw [spells_iff hword, ← String.toList_inj, plainWord, toList_lower]

theorem isNoTimeoutWord_iff :
    noTimeoutWords.contains (plainWord raw) = true ↔
      Spells "" (strip raw).toList ∨ Spells "none" (strip raw).toList := by
  rw [← plainWord_eq_iff (by decide), ← plainWord_eq_iff (by decide)]
  simp [noTimeoutWords]

/-- The words for no timeout are no numbers. -/
theorem not_isNoTimeoutWord_of_readDecimal? {seconds : Binary64}
    (hnumber : readDecimal? (plainWord raw) = some seconds) :
    ¬ noTimeoutWords.contains (plainWord raw) = true := by
  have hwords : ∀ word ∈ noTimeoutWords, readDecimal? word = none := by decide
  intro hword
  rw [hwords _ (List.contains_iff_mem.mp hword)] at hnumber
  contradiction

theorem readTimeout?_eq_some_iff {timeout : Timeout} :
    readTimeout? raw = some timeout ↔ ReadsTimeout raw timeout := by
  have hlower : readDecimal? (plainWord raw) = readDecimal? (strip raw) :=
    readDecimal?_lower (strip raw)
  constructor
  · intro hread
    unfold readTimeout? at hread
    by_cases hword : noTimeoutWords.contains (plainWord raw) = true
    · rw [if_pos hword, Option.some.injEq] at hread
      rw [← hread]
      exact .none (stripsTo_iff.mpr rfl) (isNoTimeoutWord_iff.mp hword)
    · rw [if_neg hword, hlower, Option.map_eq_some_iff] at hread
      obtain ⟨seconds, hnumber, rfl⟩ := hread
      exact .seconds (stripsTo_iff.mpr rfl) (by rwa [String.ofList_toList])
  · intro hreads
    unfold readTimeout?
    cases hreads with
    | none hcore hword =>
        rw [stripsTo_iff.mp hcore, ← isNoTimeoutWord_iff] at hword
        rw [if_pos hword]
    | seconds hcore hnumber =>
        rw [stripsTo_iff.mp hcore, String.ofList_toList, ← hlower] at hnumber
        rw [if_neg (not_isNoTimeoutWord_of_readDecimal? hnumber), hnumber]
        rfl

theorem readLimit?_eq_some_iff {n : Int} : readLimit? raw = some n ↔ ReadsLimit raw n := by
  constructor
  · intro hread
    exact .integer (stripsTo_iff.mpr rfl) (by rwa [String.ofList_toList])
  · rintro ⟨hcore, hnumber⟩
    rwa [stripsTo_iff.mp hcore, String.ofList_toList] at hnumber

theorem isOn_iff : isOn raw = true ↔ SpellsOn raw := by
  have hwords : isOn raw = true ↔
      Spells "1" (strip raw).toList ∨ Spells "true" (strip raw).toList ∨
        Spells "yes" (strip raw).toList ∨ Spells "on" (strip raw).toList := by
    rw [← plainWord_eq_iff (by decide), ← plainWord_eq_iff (by decide),
      ← plainWord_eq_iff (by decide), ← plainWord_eq_iff (by decide)]
    simp [isOn, onWords]
  rw [hwords]
  constructor
  · intro hspells
    exact ⟨_, stripsTo_iff.mpr rfl, hspells⟩
  · rintro ⟨core, hcore, hspells⟩
    rwa [stripsTo_iff.mp hcore] at hspells

theorem isOn_eq_iff {on : Bool} : isOn raw = on ↔ ReadsSwitch raw on := by
  cases on with
  | true =>
      rw [isOn_iff]
      refine ⟨.on, ?_⟩
      rintro ⟨hon⟩
      exact hon
  | false =>
      rw [← Bool.not_eq_true, isOn_iff]
      refine ⟨.off, ?_⟩
      intro hreads
      cases hreads with
      | off hoff => exact hoff

end Settings

end RawPost
