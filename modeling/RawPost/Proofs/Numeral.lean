import RawPost.Proofs.Readings

/-!
# Numerals

A numeral is read by cutting it up, behind the sign, at the exponent mark and at the point.  What it stands
for can be told without that: it is put together from runs of digits, and its number is worked out from the
values of the digits.  This file says so for the numerals of integers and of decimal numbers, and with it
what the texts of the variables for a limit and for a timeout look like.
-/

namespace RawPost

namespace Number

open Text

/-! ## What numerals look like -/

/-- A run of digits and their values; a single underscore may stand between two digits. -/
inductive Digits : List Char → List Nat → Prop
  | last {c : Char} {digit : Nat} (hdigit : digitValue? c = some digit) : Digits [c] [digit]
  | cons {c : Char} {run : List Char} {digit : Nat} {digits : List Nat}
      (hdigit : digitValue? c = some digit) (hrun : Digits run digits) :
      Digits (c :: run) (digit :: digits)
  | spaced {c : Char} {run : List Char} {digit : Nat} {digits : List Nat}
      (hdigit : digitValue? c = some digit) (hrun : Digits run digits) :
      Digits (c :: '_' :: run) (digit :: digits)

inductive OptionalDigits : List Char → List Nat → Prop
  | absent : OptionalDigits [] []
  | present {run : List Char} {digits : List Nat} (hrun : Digits run digits) :
      OptionalDigits run digits

/-- A sign in front of what it belongs to, or none; `true` is the minus. -/
inductive Sign : List Char → Bool → List Char → Prop
  | minus (rest : List Char) : Sign ('-' :: rest) true rest
  | plus (rest : List Char) : Sign ('+' :: rest) false rest
  | absent {rest : List Char} (hrest : ∀ c ∈ rest.head?, c ≠ '-' ∧ c ≠ '+') :
      Sign rest false rest

/-- A signed run of at most 4300 digits, the most significant one first. -/
inductive IsInteger (text : List Char) : Int → Prop
  | mk {negative : Bool} {run : List Char} {digits : List Nat}
      (hsign : Sign text negative run) (hrun : Digits run digits)
      (hshort : digits.length ≤ maxDigits) :
      IsInteger text (applySign negative (Nat.ofDigits 10 digits.reverse))

/-- The digits in front of the point and those behind it; on one of the two sides they may be missing. -/
inductive Mantissa : List Char → List Nat → List Nat → Prop
  | whole {run : List Char} {digits : List Nat} (hrun : Digits run digits) :
      Mantissa run digits []
  | pointed {front back : List Char} {whole fraction : List Nat}
      (hfront : OptionalDigits front whole) (hback : OptionalDigits back fraction)
      (hsome : whole ++ fraction ≠ []) :
      Mantissa (front ++ '.' :: back) whole fraction

inductive Exponent : List Char → Int → Prop
  | absent : Exponent [] 0
  | marked {mark : Char} {text run : List Char} {negative : Bool} {digits : List Nat}
      (hmark : isExponentMark mark = true) (hsign : Sign text negative run)
      (hrun : Digits run digits) :
      Exponent (mark :: text) (applySign negative (Nat.ofDigits 10 digits.reverse))

/-- A word for an infinity or for what is no number, or digits with a point and an exponent; these stand for
the number of the format that is nearest to the digits taken as one integer, times a power of ten. -/
inductive IsDecimal (text : List Char) : Binary64 → Prop
  | infinite {negative : Bool} {word : List Char} (hsign : Sign text negative word)
      (hword : Spells "inf" word ∨ Spells "infinity" word) :
      IsDecimal text (.infinity negative)
  | notNumber {negative : Bool} {word : List Char} (hsign : Sign text negative word)
      (hword : Spells "nan" word) :
      IsDecimal text .nan
  | number {negative : Bool} {mantissa tail : List Char} {whole fraction : List Nat}
      {exponent : Int} (hsign : Sign text negative (mantissa ++ tail))
      (hmantissa : Mantissa mantissa whole fraction) (htail : Exponent tail exponent) :
      IsDecimal text (.ofDecimal negative (Nat.ofDigits 10 (whole ++ fraction).reverse)
        (exponent - fraction.length))

/-! ## Parts of numerals -/

theorem splitSign_eq_iff {text rest : List Char} {negative : Bool} :
    splitSign text = (negative, rest) ↔ Sign text negative rest := by
  constructor
  · intro hsplit
    cases text with
    | nil =>
        obtain ⟨rfl, rfl⟩ := Prod.mk.inj hsplit
        exact .absent (by simp)
    | cons c text =>
        by_cases hminus : c = '-'
        · subst hminus
          obtain ⟨rfl, rfl⟩ := Prod.mk.inj hsplit
          exact .minus text
        · by_cases hplus : c = '+'
          · subst hplus
            obtain ⟨rfl, rfl⟩ := Prod.mk.inj hsplit
            exact .plus text
          · rw [splitSign_of_ne hminus hplus] at hsplit
            obtain ⟨rfl, rfl⟩ := Prod.mk.inj hsplit
            exact .absent (by simp [hminus, hplus])
  · intro hsign
    cases hsign with
    | minus => rfl
    | plus => rfl
    | absent hrest =>
        cases text with
        | nil => rfl
        | cons c text => exact splitSign_of_ne (hrest c rfl).1 (hrest c rfl).2 text

theorem groupedDigits?_eq_some_iff {run : List Char} {digits : List Nat} :
    groupedDigits? run = some digits ↔ Digits run digits := by
  constructor
  · intro hread
    fun_induction groupedDigits? run generalizing digits with
    | case1 => contradiction
    | case2 c =>
        obtain ⟨digit, hdigit, rfl⟩ := Option.map_eq_some_iff.mp hread
        exact .last hdigit
    | case3 c rest ih =>
        simp only [Option.bind_eq_bind, Option.bind_eq_some_iff] at hread
        obtain ⟨digit, hdigit, others, hothers, hdigits⟩ := hread
        rw [← Option.some.inj hdigits]
        exact .spaced hdigit (ih hothers)
    | case4 c rest _ _ ih =>
        simp only [Option.bind_eq_bind, Option.bind_eq_some_iff] at hread
        obtain ⟨digit, hdigit, others, hothers, hdigits⟩ := hread
        rw [← Option.some.inj hdigits]
        exact .cons hdigit (ih hothers)
  · intro hdigits
    induction hdigits with
    | last hdigit => simp [groupedDigits?, hdigit]
    | @cons c run digit digits hdigit hrun ih =>
        -- The run behind the digit begins with a digit itself, so it is not cut at an underscore.
        have hfirst : ∀ rest, run ≠ '_' :: rest := by
          rintro rest rfl
          have hmark : digitValue? '_' = none := by decide
          cases hrun <;> simp_all
        rw [groupedDigits?]
        · simp [hdigit, ih]
        · rintro rfl
          cases hrun
        · exact hfirst
    | spaced hdigit hrun ih => simp [groupedDigits?, hdigit, ih]

theorem optionalDigits?_eq_some_iff {run : List Char} {digits : List Nat} :
    optionalDigits? run = some digits ↔ OptionalDigits run digits := by
  cases run with
  | nil =>
      constructor
      · intro hread
        obtain rfl : [] = digits := Option.some.inj hread
        exact .absent
      · intro hdigits
        cases hdigits with
        | absent => rfl
        | present hrun => cases hrun
  | cons c run =>
      rw [optionalDigits?, List.isEmpty_cons, if_neg Bool.false_ne_true,
        groupedDigits?_eq_some_iff]
      constructor
      · exact .present
      · intro hdigits
        cases hdigits with
        | present hrun => exact hrun

theorem readExponent?_eq_some_iff {text : List Char} {exponent : Int}
    (htext : ∀ c ∈ text.head?, isExponentMark c = true) :
    readExponent? text = some exponent ↔ Exponent text exponent := by
  cases text with
  | nil =>
      constructor
      · intro hread
        obtain rfl : 0 = exponent := Option.some.inj hread
        exact .absent
      · intro hexponent
        cases hexponent
        rfl
  | cons mark text =>
      constructor
      · intro hread
        obtain ⟨digits, hdigits, hvalue⟩ := Option.bind_eq_some_iff.mp hread
        rw [← Option.some.inj hvalue, Destination.digitsValue_eq_ofDigits]
        exact .marked (htext mark rfl) (splitSign_eq_iff.mp rfl)
          (groupedDigits?_eq_some_iff.mp hdigits)
      · intro hexponent
        cases hexponent with
        | marked hmark hsign hrun =>
            simp only [readExponent?, splitSign_eq_iff.mpr hsign,
              groupedDigits?_eq_some_iff.mpr hrun, Option.bind_eq_bind, Option.bind_some,
              Destination.digitsValue_eq_ofDigits]
            rfl

theorem Digits.mem {run : List Char} {digits : List Nat} (hrun : Digits run digits) :
    ∀ c ∈ run, c = '_' ∨ isDigit c = true := by
  have hvalued {c : Char} {digit : Nat} (hdigit : digitValue? c = some digit) :
      isDigit c = true := by rw [isDigit, hdigit, Option.isSome_some]
  induction hrun with
  | last hdigit => simp [hvalued hdigit]
  | cons hdigit hrun ih => exact List.forall_mem_cons.mpr ⟨.inr (hvalued hdigit), ih⟩
  | spaced hdigit hrun ih =>
      exact List.forall_mem_cons.mpr
        ⟨.inr (hvalued hdigit), List.forall_mem_cons.mpr ⟨.inl rfl, ih⟩⟩

/-- No run of digits goes on over a point or an exponent mark. -/
theorem OptionalDigits.plain {run : List Char} {digits : List Nat}
    (hrun : OptionalDigits run digits) (stops : Char → Bool) (hunderscore : stops '_' = false)
    (hdigits : ∀ c, isDigit c = true → stops c = false) : ∀ c ∈ run, stops c = false := by
  intro c hmem
  cases hrun with
  | absent => contradiction
  | present hrun =>
      rcases hrun.mem c hmem with rfl | hdigit
      · exact hunderscore
      · exact hdigits c hdigit

theorem not_isExponentMark_of_isDigit (c : Char) (hdigit : isDigit c = true) :
    isExponentMark c = false := by
  rw [← Bool.not_eq_true, isExponentMark, Bool.or_eq_true, beq_iff_eq, beq_iff_eq]
  rintro (rfl | rfl)
  · exact absurd hdigit (by decide)
  · exact absurd hdigit (by decide)

theorem ne_point_of_isDigit (c : Char) (hdigit : isDigit c = true) : (c == '.') = false := by
  rw [beq_eq_false_iff_ne]
  rintro rfl
  exact absurd hdigit (by decide)

/-- What a mantissa is cut into at its point. -/
theorem Mantissa.eq_append {mantissa : List Char} {whole fraction : List Nat}
    (hmantissa : Mantissa mantissa whole fraction) :
    ∃ front back, mantissa = front ++ back ∧ (∀ c ∈ back.head?, (c == '.') = true) ∧
      OptionalDigits front whole ∧ OptionalDigits (back.drop 1) fraction ∧
      whole ++ fraction ≠ [] := by
  cases hmantissa with
  | whole hrun =>
      refine ⟨mantissa, [], (List.append_nil _).symm, by simp, .present hrun, .absent, ?_⟩
      cases hrun <;> simp
  | @pointed front back _ _ hfront hback hsome =>
      exact ⟨front, '.' :: back, rfl, by simp, hfront, hback, hsome⟩

theorem mantissa_of_append {front back : List Char} {whole fraction : List Nat}
    (hpoint : ∀ c ∈ back.head?, (c == '.') = true) (hfront : OptionalDigits front whole)
    (hback : OptionalDigits (back.drop 1) fraction) (hsome : whole ++ fraction ≠ []) :
    Mantissa (front ++ back) whole fraction := by
  cases back with
  | nil =>
      cases hback with
      | present hrun => cases hrun
      | absent =>
          cases hfront with
          | absent => exact absurd rfl hsome
          | present hrun =>
              rw [List.append_nil]
              exact .whole hrun
  | cons c back =>
      obtain rfl : c = '.' := beq_iff_eq.mp (hpoint c rfl)
      exact .pointed hfront hback hsome

theorem Mantissa.plain {mantissa : List Char} {whole fraction : List Nat}
    (hmantissa : Mantissa mantissa whole fraction) :
    ∀ c ∈ mantissa, isExponentMark c = false := by
  have hkept {run : List Char} {digits : List Nat} (hrun : OptionalDigits run digits) :
      ∀ c ∈ run, isExponentMark c = false :=
    hrun.plain isExponentMark (by decide) not_isExponentMark_of_isDigit
  cases hmantissa with
  | whole hrun => exact hkept (.present hrun)
  | pointed hfront hback _ =>
      exact List.forall_mem_append.mpr
        ⟨hkept hfront, List.forall_mem_cons.mpr ⟨by decide, hkept hback⟩⟩

theorem readScaled?_eq_some_iff {text : List Char} {digits : Nat} {power : Int} :
    readScaled? text = some (digits, power) ↔
      ∃ mantissa tail whole fraction exponent, text = mantissa ++ tail ∧
        Mantissa mantissa whole fraction ∧ Exponent tail exponent ∧
        digits = Nat.ofDigits 10 (whole ++ fraction).reverse ∧
        power = exponent - fraction.length := by
  constructor
  · intro hread
    let mantissa := text.takeWhile (!isExponentMark ·)
    let tail := text.dropWhile (!isExponentMark ·)
    let front := mantissa.takeWhile (· != '.')
    let back := mantissa.dropWhile (· != '.')
    have hpoint : ∀ c ∈ back.head?, (c == '.') = true := by
      intro c hc
      simpa using head?_dropWhile_stops (· != '.') mantissa c hc
    have hmark : ∀ c ∈ tail.head?, isExponentMark c = true := by
      intro c hc
      simpa using head?_dropWhile_stops (!isExponentMark ·) text c hc
    simp only [readScaled?, List.span_eq_takeWhile_dropWhile, Option.bind_eq_bind,
      Option.bind_eq_some_iff] at hread
    obtain ⟨whole, hwhole, fraction, hfraction, hread⟩ := hread
    by_cases hnone : (whole.isEmpty && fraction.isEmpty) = true
    · rw [if_pos hnone] at hread
      contradiction
    · rw [if_neg hnone, Option.bind_eq_some_iff] at hread
      obtain ⟨exponent, hexponent, hpair⟩ := hread
      obtain ⟨hdigits, hpower⟩ := Prod.mk.inj (Option.some.inj hpair)
      have hsome : whole ++ fraction ≠ [] := by simpa using hnone
      refine ⟨mantissa, tail, whole, fraction, exponent,
        List.takeWhile_append_dropWhile.symm, ?_, (readExponent?_eq_some_iff hmark).mp hexponent,
        ?_, hpower.symm⟩
      · have hcut : front ++ back = mantissa := List.takeWhile_append_dropWhile
        rw [← hcut]
        exact mantissa_of_append hpoint (optionalDigits?_eq_some_iff.mp hwhole)
          (optionalDigits?_eq_some_iff.mp hfraction) hsome
      · rw [← hdigits, Destination.digitsValue_eq_ofDigits]
  · rintro ⟨mantissa, tail, whole, fraction, exponent, rfl, hmantissa, htail, rfl, rfl⟩
    obtain ⟨front, back, hcut, hpoint, hfront, hback, hsome⟩ := hmantissa.eq_append
    have hmark : ∀ c ∈ tail.head?, isExponentMark c = true := by
      cases htail with
      | absent => simp
      | marked hmark => simpa using hmark
    have hplain : ∀ c ∈ mantissa, (!isExponentMark c) = true := by
      simpa using hmantissa.plain
    have hstop : ∀ c ∈ tail.head?, (!isExponentMark c) = false := by simpa using hmark
    have hfrontPlain : ∀ c ∈ front, (c != '.') = true := by
      simpa [bne] using hfront.plain (· == '.') (by decide) ne_point_of_isDigit
    have hbackStop : ∀ c ∈ back.head?, (c != '.') = false := by simpa [bne] using hpoint
    have hnone : ¬ (whole.isEmpty && fraction.isEmpty) = true := by simpa using hsome
    simp only [readScaled?, List.span_eq_takeWhile_dropWhile,
      takeWhile_of_stops hplain hstop, dropWhile_of_stops hplain hstop]
    rw [hcut, takeWhile_of_stops hfrontPlain hbackStop, dropWhile_of_stops hfrontPlain hbackStop,
      optionalDigits?_eq_some_iff.mpr hfront, optionalDigits?_eq_some_iff.mpr hback]
    simp only [Option.bind_eq_bind, Option.bind_some, if_neg hnone,
      (readExponent?_eq_some_iff hmark).mpr htail, Destination.digitsValue_eq_ofDigits]
    rfl

/-! ## Whole numerals -/

/-- What is read as an integer, the white space around it apart. -/
theorem readInteger?_eq_some_iff {text : String} {n : Int} :
    readInteger? text = some n ↔ IsInteger (trimBoth isSpace text.toList) n := by
  constructor
  · intro hread
    simp only [readInteger?, Option.bind_eq_bind, Option.bind_eq_some_iff] at hread
    obtain ⟨digits, hdigits, hvalue⟩ := hread
    split at hvalue
    next hshort =>
      rw [← Option.some.inj hvalue, Destination.digitsValue_eq_ofDigits]
      exact .mk (splitSign_eq_iff.mp rfl) (groupedDigits?_eq_some_iff.mp hdigits) hshort
    next => contradiction
  · rintro ⟨hsign, hrun, hshort⟩
    simp only [readInteger?, splitSign_eq_iff.mpr hsign, groupedDigits?_eq_some_iff.mpr hrun,
      Option.bind_eq_bind, Option.bind_some, if_pos hshort, Destination.digitsValue_eq_ofDigits]
    rfl

theorem spells_iff_lower {word : String} (hword : word.toList.all isSmall = true)
    (text : List Char) : Spells word text ↔ lower (String.ofList text) = word := by
  rw [spells_iff hword, ← String.toList_inj, toList_lower, String.toList_ofList]

theorem isInfinityWord_iff (text : List Char) :
    infinityWords.contains (lower (String.ofList text)) = true ↔
      Spells "inf" text ∨ Spells "infinity" text := by
  rw [spells_iff_lower (by decide), spells_iff_lower (by decide)]
  simp [infinityWords]

/-- The words are no digits with a point and an exponent. -/
theorem readScaled?_of_word {text : List Char} {word : String}
    (hword : lower (String.ofList text) = word) (hnone : readScaled? word.toList = none) :
    readScaled? text = none := by
  rw [← readScaled?_toLower, ← hnone, ← hword, toList_lower, String.toList_ofList]

/-- What is read as a decimal number, the white space around it apart. -/
theorem readDecimal?_eq_some_iff {text : String} {x : Binary64} :
    readDecimal? text = some x ↔ IsDecimal (trimBoth isSpace text.toList) x := by
  constructor
  · intro hread
    have hsign : Sign (trimBoth isSpace text.toList)
        (splitSign (trimBoth isSpace text.toList)).1
        (splitSign (trimBoth isSpace text.toList)).2 := splitSign_eq_iff.mp rfl
    simp only [readDecimal?] at hread
    split at hread
    next hinfinite =>
      rw [← Option.some.inj hread]
      exact .infinite hsign ((isInfinityWord_iff _).mp hinfinite)
    next =>
      split at hread
      next hnan =>
        rw [← Option.some.inj hread]
        exact .notNumber hsign ((spells_iff_lower (by decide) _).mpr hnan)
      next =>
        obtain ⟨⟨digits, power⟩, hscaled, hvalue⟩ := Option.bind_eq_some_iff.mp hread
        obtain ⟨mantissa, tail, whole, fraction, exponent, hcut, hmantissa, htail, rfl, rfl⟩ :=
          readScaled?_eq_some_iff.mp hscaled
        rw [hcut] at hsign
        rw [← Option.some.inj hvalue]
        exact .number hsign hmantissa htail
  · intro hdecimal
    cases hdecimal with
    | infinite hsign hword =>
        simp only [readDecimal?, splitSign_eq_iff.mpr hsign,
          if_pos ((isInfinityWord_iff _).mpr hword)]
        rfl
    | notNumber hsign hword =>
        have hnan := (spells_iff_lower (by decide) _).mp hword
        simp only [readDecimal?, splitSign_eq_iff.mpr hsign, hnan]
        rfl
    | @number _ mantissa tail _ _ _ hsign hmantissa htail =>
        have hscaled := readScaled?_eq_some_iff.mpr
          ⟨_, _, _, _, _, rfl, hmantissa, htail, rfl, rfl⟩
        have hother (word : String) (hnone : readScaled? word.toList = none) :
            lower (String.ofList (mantissa ++ tail)) ≠ word := by
          intro hword
          rw [readScaled?_of_word hword hnone] at hscaled
          contradiction
        have hfinite : ¬ infinityWords.contains
            (lower (String.ofList (mantissa ++ tail))) = true := by
          simp only [infinityWords, List.contains_cons, List.contains_nil, Bool.or_false,
            Bool.or_eq_true, beq_iff_eq, not_or]
          exact ⟨hother "inf" (by decide), hother "infinity" (by decide)⟩
        simp only [readDecimal?, splitSign_eq_iff.mpr hsign, if_neg hfinite,
          if_neg (hother nanWord (by decide)), hscaled]
        rfl

end Number

namespace Settings

open Text Number

variable {raw : String}

/-- A text that has been stripped has no white space left that a numeral could have around it. -/
theorem trimBoth_of_stripsTo {core : List Char} (hcore : StripsTo raw.toList core) :
    trimBoth isSpace core = core := by
  have hspace (c : Char) (hc : isBlank c = false) : isSpace c = false :=
    (Bool.or_eq_false_iff.mp hc).1
  have htrimmed : trimBoth isSpace ([] ++ (core ++ [])) = core :=
    trimBoth_of_around (List.forall_mem_nil _) (List.forall_mem_nil _)
      (fun c hc => hspace c (hcore.first c hc)) (fun c hc => hspace c (hcore.last c hc))
  rwa [List.nil_append, List.append_nil] at htrimmed

/-- The texts of a limit are the numerals of integers with white space around them. -/
theorem readsLimit_iff {n : Int} :
    ReadsLimit raw n ↔ ∃ core, StripsTo raw.toList core ∧ IsInteger core n := by
  constructor
  · rintro ⟨hcore, hnumber⟩
    rw [readInteger?_eq_some_iff, String.toList_ofList, trimBoth_of_stripsTo hcore] at hnumber
    exact ⟨_, hcore, hnumber⟩
  · rintro ⟨core, hcore, hnumber⟩
    refine .integer hcore ?_
    rwa [readInteger?_eq_some_iff, String.toList_ofList, trimBoth_of_stripsTo hcore]

/-- The texts of a timeout in seconds are the numerals of decimal numbers with white space around them. -/
theorem readsTimeout_some_iff {seconds : Binary64} :
    ReadsTimeout raw (some seconds) ↔
      ∃ core, StripsTo raw.toList core ∧ IsDecimal core seconds := by
  constructor
  · intro hreads
    cases hreads with
    | seconds hcore hnumber =>
        rw [readDecimal?_eq_some_iff, String.toList_ofList, trimBoth_of_stripsTo hcore] at hnumber
        exact ⟨_, hcore, hnumber⟩
  · rintro ⟨core, hcore, hnumber⟩
    refine .seconds hcore ?_
    rwa [readDecimal?_eq_some_iff, String.toList_ofList, trimBoth_of_stripsTo hcore]

end Settings

end RawPost
