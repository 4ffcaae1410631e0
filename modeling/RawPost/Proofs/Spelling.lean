import RawPost.Settings.Environment
import Mathlib.Data.List.DropRight
import Mathlib.Tactic

/-!
# Spellings of a number

The same number can be written with white space around it and with letters of either case.  A numeral that
is read with its white space taken off, or in lower case, is read as it is without that; only the
information separators are white space for a text and not for a number, so a text that has none of them
is the same number before and after it has been made a plain word.
-/

namespace RawPost

namespace Text

/-! ## White space -/

theorem trimBoth_eq_rdropWhile (drops : Char → Bool) (text : List Char) :
    trimBoth drops text = (text.dropWhile drops).rdropWhile drops := rfl

theorem dropWhile_rdropWhile {drops : Char → Bool} {text : List Char}
    (htext : text.dropWhile drops = text) :
    (text.rdropWhile drops).dropWhile drops = text.rdropWhile drops := by
  rw [List.dropWhile_eq_self_iff] at htext ⊢
  intro hlength
  have hprefix := List.rdropWhile_prefix drops text
  have hfirst := hprefix.getElem hlength
  rw [hfirst]
  exact htext (hlength.trans_le hprefix.length_le)

theorem trimBoth_trimBoth (drops : Char → Bool) (text : List Char) :
    trimBoth drops (trimBoth drops text) = trimBoth drops text := by
  rw [trimBoth_eq_rdropWhile drops text, trimBoth_eq_rdropWhile,
    dropWhile_rdropWhile (List.dropWhile_idempotent drops text),
    List.rdropWhile_idempotent]

theorem dropWhile_congr {first second : Char → Bool} {text : List Char}
    (hsame : ∀ c ∈ text, first c = second c) :
    text.dropWhile first = text.dropWhile second := by
  induction text with
  | nil => rfl
  | cons c text ih =>
      obtain ⟨hc, hrest⟩ := List.forall_mem_cons.mp hsame
      rw [List.dropWhile_cons, List.dropWhile_cons, hc, ih hrest]

theorem trimBoth_congr {first second : Char → Bool} {text : List Char}
    (hsame : ∀ c ∈ text, first c = second c) :
    trimBoth first text = trimBoth second text := by
  have hmiddle : ∀ c ∈ (text.dropWhile second).reverse, first c = second c := by
    intro c hmem
    exact hsame c ((List.dropWhile_suffix second).subset (List.mem_reverse.mp hmem))
  rw [trimBoth, dropWhile_congr hsame, dropWhile_congr hmiddle, trimBoth]

/-- Only the information separators are white space for a text and not for a number. -/
theorem toList_strip {text : String}
    (hplain : text.toList.any isInformationSeparator = false) :
    (strip text).toList = trimBoth isSpace text.toList := by
  rw [strip, String.toList_ofList]
  apply trimBoth_congr
  intro c hmem
  have hc : isInformationSeparator c = false := by
    simpa using List.any_eq_false.mp hplain c hmem
  rw [isBlank, hc, Bool.or_false]

/-! ## Case -/

/-- The letters that are not their own lower case. -/
def capitals : List Char :=
  (List.range 26).map fun place => Char.ofNat (0x41 + place)

theorem toLower_eq_self_or_mem (c : Char) : c.toLower = c ∨ c ∈ capitals := by
  unfold Char.toLower
  split
  next hcapital =>
    right
    have hlow : 0x41 ≤ c.toNat := UInt32.le_iff_toNat_le.mp hcapital.1
    have hhigh : c.toNat ≤ 0x5A := UInt32.le_iff_toNat_le.mp hcapital.2
    refine List.mem_map.mpr ⟨c.toNat - 0x41, List.mem_range.mpr (by omega), ?_⟩
    rw [Nat.add_sub_cancel' hlow, Char.ofNat_toNat]
  next => exact .inl rfl

/-- What does not tell a capital from its lower case takes lower case for the text itself. -/
theorem toLower_keeps {α : Type} (read : Char → α)
    (hcapitals : capitals.map (fun c => read c.toLower) = capitals.map read) (c : Char) :
    read c.toLower = read c := by
  rcases toLower_eq_self_or_mem c with hself | hcapital
  · rw [hself]
  · exact List.map_inj_left.mp hcapitals c hcapital

theorem isSpace_toLower (c : Char) : isSpace c.toLower = isSpace c :=
  toLower_keeps isSpace (by decide) c

theorem digitValue?_toLower (c : Char) : digitValue? c.toLower = digitValue? c :=
  toLower_keeps digitValue? (by decide) c

theorem toLower_toLower (c : Char) : c.toLower.toLower = c.toLower :=
  toLower_keeps Char.toLower (by decide) c

theorem toLower_beq {mark : Char}
    (hmark : capitals.map (fun c => c.toLower == mark) = capitals.map (· == mark))
    (c : Char) :
    (c.toLower == mark) = (c == mark) :=
  toLower_keeps (· == mark) hmark c

theorem trimBoth_toLower (drops : Char → Bool)
    (hkept : ∀ c, drops (Char.toLower c) = drops c) (text : List Char) :
    trimBoth drops (text.map Char.toLower) = (trimBoth drops text).map Char.toLower := by
  have hsame : drops ∘ Char.toLower = drops := funext hkept
  rw [trimBoth, List.dropWhile_map, hsame, ← List.map_reverse, List.dropWhile_map, hsame,
    ← List.map_reverse, trimBoth]

theorem span_toLower (goesOn : Char → Bool)
    (hkept : ∀ c, goesOn (Char.toLower c) = goesOn c) (text : List Char) :
    (text.map Char.toLower).span goesOn =
      ((text.span goesOn).1.map Char.toLower, (text.span goesOn).2.map Char.toLower) := by
  have hsame : goesOn ∘ Char.toLower = goesOn := funext hkept
  simp only [List.span_eq_takeWhile_dropWhile, List.takeWhile_map, List.dropWhile_map,
    hsame]

end Text

namespace Number

open Text

/-! ## Numerals -/

theorem splitSign_of_ne {c : Char} (hminus : c ≠ '-') (hplus : c ≠ '+')
    (rest : List Char) : splitSign (c :: rest) = (false, c :: rest) := by
  unfold splitSign
  split
  next hc => exact absurd (List.cons.inj hc).1 hminus
  next hc => exact absurd (List.cons.inj hc).1 hplus
  next => rfl

theorem splitSign_toLower (text : List Char) :
    splitSign (text.map Char.toLower) =
      ((splitSign text).1, (splitSign text).2.map Char.toLower) := by
  cases text with
  | nil => rfl
  | cons c text =>
      by_cases hminus : c = '-'
      · rw [hminus]
        rfl
      · by_cases hplus : c = '+'
        · rw [hplus]
          rfl
        · have hminusLower : c.toLower ≠ '-' := by
            rwa [← beq_eq_false_iff_ne, toLower_beq (by decide), beq_eq_false_iff_ne]
          have hplusLower : c.toLower ≠ '+' := by
            rwa [← beq_eq_false_iff_ne, toLower_beq (by decide), beq_eq_false_iff_ne]
          rw [List.map_cons, splitSign_of_ne hminus hplus,
            splitSign_of_ne hminusLower hplusLower, List.map_cons]

theorem groupedDigits?_toLower (run : List Char) :
    groupedDigits? (run.map Char.toLower) = groupedDigits? run := by
  fun_induction groupedDigits? run with
  | case1 => rfl
  | case2 c =>
      rw [List.map_singleton, groupedDigits?, digitValue?_toLower]
  | case3 c rest ih =>
      have hmark : Char.toLower '_' = '_' := rfl
      rw [List.map_cons, List.map_cons, hmark, groupedDigits?, digitValue?_toLower, ih]
  | case4 c rest hsome hmark ih =>
      rw [List.map_cons, groupedDigits?, digitValue?_toLower, ih]
      · simpa using hsome
      · intro others hothers
        obtain ⟨d, rest, rfl, hd, -⟩ := List.map_eq_cons_iff.mp hothers
        rw [← beq_iff_eq, toLower_beq (by decide), beq_iff_eq] at hd
        exact hmark rest (congrArg (· :: rest) hd)

theorem optionalDigits?_toLower (run : List Char) :
    optionalDigits? (run.map Char.toLower) = optionalDigits? run := by
  rw [optionalDigits?, List.isEmpty_map, groupedDigits?_toLower, optionalDigits?]

theorem isExponentMark_toLower (c : Char) :
    isExponentMark c.toLower = isExponentMark c :=
  toLower_keeps isExponentMark (by decide) c

theorem readExponent?_toLower (text : List Char) :
    readExponent? (text.map Char.toLower) = readExponent? text := by
  cases text with
  | nil => rfl
  | cons c rest =>
      simp only [List.map_cons, readExponent?, splitSign_toLower, groupedDigits?_toLower]

theorem readScaled?_toLower (text : List Char) :
    readScaled? (text.map Char.toLower) = readScaled? text := by
  have hmark (c : Char) : (!isExponentMark c.toLower) = !isExponentMark c := by
    rw [isExponentMark_toLower]
  have hpoint (c : Char) : (c.toLower != '.') = (c != '.') := by
    rw [bne, toLower_beq (by decide), bne]
  simp only [readScaled?, span_toLower (!isExponentMark ·) hmark,
    span_toLower (· != '.') hpoint, ← List.map_drop, optionalDigits?_toLower,
    readExponent?_toLower]

theorem toList_lower (text : String) :
    (lower text).toList = text.toList.map Char.toLower := by
  rw [lower, String.toList_ofList]

theorem lower_lower (text : String) : lower (lower text) = lower text := by
  have htwice : Char.toLower ∘ Char.toLower = Char.toLower := funext toLower_toLower
  rw [lower, toList_lower, List.map_map, htwice, lower]

theorem readDecimal?_lower (text : String) :
    readDecimal? (lower text) = readDecimal? text := by
  have hword (word : List Char) : lower (String.ofList (word.map Char.toLower)) =
      lower (String.ofList word) := by
    rw [← String.toList_ofList (l := word), ← lower, lower_lower, String.toList_ofList]
  simp only [readDecimal?, toList_lower, trimBoth_toLower isSpace isSpace_toLower, splitSign_toLower,
    hword, readScaled?_toLower]

/-! ## Plain words -/

variable {text : String}

theorem readInteger?_strip
    (hplain : text.toList.any isInformationSeparator = false) :
    readInteger? (strip text) = readInteger? text := by
  simp only [readInteger?, toList_strip hplain, trimBoth_trimBoth]

theorem readDecimal?_strip
    (hplain : text.toList.any isInformationSeparator = false) :
    readDecimal? (strip text) = readDecimal? text := by
  simp only [readDecimal?, toList_strip hplain, trimBoth_trimBoth]

end Number

end RawPost
