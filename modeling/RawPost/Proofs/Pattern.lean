import RawPost.Proofs.Scan

/-!
# The pattern of a leading integer

A pattern is matched with backtracking: its ways to match the beginning of a text are tried one after
another, an optional part first with the part and then without it, a run first in its full length and then
ever shorter, and the first way counts.  The pattern of an integer is white space and then, as the part
that is kept, an optional sign and digits.  No way but the longest ever counts for it, so the kept part is
the sign and the digits of the scan of the text, and reading it as a numeral gives the port.
-/

namespace RawPost

namespace Text

/-- The beginning of a text that has been matched, and what follows it. -/
structure Match where
  taken : List Char
  rest : List Char
  deriving DecidableEq, Repr

inductive Pattern where
  | one (accepts : Char → Bool)
  | run (accepts : Char → Bool)
  | optional (inner : Pattern)
  | seq (first second : Pattern)

namespace Pattern

def runWays (accepts : Char → Bool) : List Char → List Match
  | [] => [⟨[], []⟩]
  | c :: rest =>
    if accepts c then
      (runWays accepts rest).map (fun m => ⟨c :: m.taken, m.rest⟩) ++ [⟨[], c :: rest⟩]
    else
      [⟨[], c :: rest⟩]

/-- The ways to match the beginning of a text, in the order in which they are tried. -/
def ways : Pattern → List Char → List Match
  | one _, [] => []
  | one accepts, c :: rest => if accepts c then [⟨[c], rest⟩] else []
  | run accepts, text => runWays accepts text
  | optional inner, text => inner.ways text ++ [⟨[], text⟩]
  | seq first second, text =>
    (first.ways text).flatMap fun front =>
      (second.ways front.rest).map fun back => ⟨front.taken ++ back.taken, back.rest⟩

/-- What the second pattern takes in the first way to match it behind the first pattern. -/
def kept? (skipped kept : Pattern) (text : List Char) : Option (List Char) :=
  ((skipped.ways text).flatMap fun front => kept.ways front.rest).head?.map Match.taken

theorem ways_optional (inner : Pattern) (text : List Char) :
    (optional inner).ways text = inner.ways text ++ [⟨[], text⟩] := rfl

theorem ways_seq (first second : Pattern) (text : List Char) :
    (seq first second).ways text = (first.ways text).flatMap fun front =>
      (second.ways front.rest).map fun back =>
        ⟨front.taken ++ back.taken, back.rest⟩ := rfl

/-! ## The way that is tried first -/

theorem head?_runWays (accepts : Char → Bool) (text : List Char) :
    (runWays accepts text).head? =
      some ⟨text.takeWhile accepts, text.dropWhile accepts⟩ := by
  induction text with
  | nil => rfl
  | cons c text ih =>
      by_cases hc : accepts c = true
      · rw [runWays, if_pos hc, List.head?_append, List.head?_map, ih,
          List.takeWhile_cons_of_pos hc, List.dropWhile_cons_of_pos hc]
        rfl
      · rw [runWays, if_neg hc, List.takeWhile_cons_of_neg hc,
          List.dropWhile_cons_of_neg hc]
        rfl

theorem head?_seq (first second : Pattern) (text : List Char) :
    ((seq first second).ways text).head? =
      (first.ways text).findSome? fun front =>
        (second.ways front.rest).head?.map fun back =>
          ⟨front.taken ++ back.taken, back.rest⟩ := by
  simp only [ways_seq, List.head?_flatMap, List.head?_map]

/-- Giving back a part of a run is of no use for what cannot begin with it. -/
theorem findSome?_runWays {accepts : Char → Bool} {next : Pattern}
    (hnext : ∀ c rest, accepts c = true → next.ways (c :: rest) = [])
    (text : List Char) :
    ((runWays accepts text).findSome? fun front => (next.ways front.rest).head?) =
      (next.ways (text.dropWhile accepts)).head? := by
  induction text with
  | nil => simp [runWays]
  | cons c text ih =>
      by_cases hc : accepts c = true
      · have hshort : (next.ways (c :: text)).head? = none := by
          rw [hnext c text hc]
          rfl
        rw [runWays, if_pos hc, List.findSome?_append, List.findSome?_map,
          List.dropWhile_cons_of_pos hc, ← ih]
        simp [Function.comp_def, hshort]
      · rw [runWays, if_neg hc, List.dropWhile_cons_of_neg hc]
        simp

theorem kept?_run {accepts : Char → Bool} {kept : Pattern}
    (hkept : ∀ c rest, accepts c = true → kept.ways (c :: rest) = [])
    (text : List Char) :
    kept? (run accepts) kept text =
      (kept.ways (text.dropWhile accepts)).head?.map Match.taken := by
  rw [kept?, List.head?_flatMap, ways, findSome?_runWays hkept]

/-- One character, and then a run of the same kind. -/
def atLeastOne (accepts : Char → Bool) : Pattern :=
  seq (one accepts) (run accepts)

theorem ways_one_of_head? {accepts : Char → Bool} {text : List Char}
    (hhead : ∀ c ∈ text.head?, accepts c = false) : (one accepts).ways text = [] := by
  cases text with
  | nil => rfl
  | cons c text =>
      have hc : accepts c = false := hhead c rfl
      simp [ways, hc]

theorem ways_atLeastOne_of_head? {accepts : Char → Bool} {text : List Char}
    (hhead : ∀ c ∈ text.head?, accepts c = false) :
    (atLeastOne accepts).ways text = [] := by
  rw [atLeastOne, ways_seq, ways_one_of_head? hhead, List.flatMap_nil]

theorem head?_atLeastOne {accepts : Char → Bool} {front tail : List Char}
    (hfront : ∀ c ∈ front, accepts c = true) (htail : ∀ c ∈ tail.head?, accepts c = false)
    (hsome : front ≠ []) :
    ((atLeastOne accepts).ways (front ++ tail)).head? = some ⟨front, tail⟩ := by
  cases front with
  | nil => exact absurd rfl hsome
  | cons c front =>
      obtain ⟨hc, hfront⟩ := List.forall_mem_cons.mp hfront
      have hone : (one accepts).ways (c :: (front ++ tail)) = [⟨[c], front ++ tail⟩] := by
        simp [ways, hc]
      rw [List.cons_append, atLeastOne, head?_seq, hone, List.findSome?_singleton,
        ways, head?_runWays, takeWhile_of_stops hfront htail,
        dropWhile_of_stops hfront htail]
      rfl

end Pattern

end Text

namespace Destination

open Text Number

def numeralPattern : Pattern :=
  .seq (.optional (.one isSign)) (.atLeastOne isDigit)

/-- The port that is read off the pattern; none if the numeral cannot be read. -/
def portByPattern? (default : Int) (text : String) : Option Int :=
  let found? : Option Int :=
    match Pattern.kept? (.run isBlank) numeralPattern text.toList with
    | none => some 0
    | some numeral => readInteger? (String.ofList numeral)
  found?.map fun port => if 0 < port ∧ port ≤ maxPort then port else default

/-! ## The numeral of a scan -/

theorem ways_numeralPattern_of_isBlank (c : Char) (rest : List Char)
    (hblank : isBlank c = true) : numeralPattern.ways (c :: rest) = [] := by
  have hsign : isSign c = false := by
    rw [← Bool.not_eq_true]
    intro hsign
    simp [isBlank_eq_false_of_isSign hsign] at hblank
  have hdigit : isDigit c = false := by
    rw [← Bool.not_eq_true]
    intro hdigit
    simp [isBlank_eq_false_of_isDigit hdigit] at hblank
  have hsigns : (Pattern.one isSign).ways (c :: rest) = [] :=
    Pattern.ways_one_of_head? (by simpa using hsign)
  have hdigits : (Pattern.atLeastOne isDigit).ways (c :: rest) = [] :=
    Pattern.ways_atLeastOne_of_head? (by simpa using hdigit)
  rw [numeralPattern, Pattern.ways_seq, Pattern.ways_optional, hsigns]
  simp [hdigits]

namespace Scan

variable {text : List Char}

/-- The sign belongs to a numeral only if digits follow it. -/
theorem head?_numeralPattern (scan : Scan text) :
    (numeralPattern.ways (scan.sign.toList ++ (scan.digits ++ scan.tail))).head? =
      if scan.digits = [] then none
      else some ⟨scan.sign.toList ++ scan.digits, scan.tail⟩ := by
  have hdigits : ((Pattern.atLeastOne isDigit).ways (scan.digits ++ scan.tail)).head? =
      if scan.digits = [] then none else some ⟨scan.digits, scan.tail⟩ := by
    split
    next hnone =>
      rw [hnone, List.nil_append, Pattern.ways_atLeastOne_of_head? scan.digits_end]
      rfl
    next hsome => exact Pattern.head?_atLeastOne scan.digits_all scan.digits_end hsome
  rw [numeralPattern, Pattern.head?_seq, Pattern.ways_optional]
  cases hsign : scan.sign with
  | none =>
      have hsigns := Pattern.ways_one_of_head? (scan.sign_end hsign)
      simp only [Option.toList_none, List.nil_append, hsigns]
      rw [List.findSome?_singleton, hdigits]
      split <;> rfl
  | some c =>
      have hc : isSign c = true := scan.sign_all c hsign
      have hsigns : (Pattern.one isSign).ways (c :: (scan.digits ++ scan.tail)) =
          [⟨[c], scan.digits ++ scan.tail⟩] := by
        simp [Pattern.ways, hc]
      have hnotDigit := isDigit_eq_false_of_isSign hc
      have hwithout : (Pattern.atLeastOne isDigit).ways
          (c :: (scan.digits ++ scan.tail)) = [] :=
        Pattern.ways_atLeastOne_of_head? (by simpa using hnotDigit)
      simp only [Option.toList_some, List.singleton_append, hsigns]
      rw [List.findSome?_cons, hdigits]
      by_cases hnone : scan.digits = []
      · rw [hnone, List.nil_append] at hwithout
        simp [hnone, hwithout]
      · simp [hnone]

theorem kept?_numeralPattern (scan : Scan text) :
    Pattern.kept? (.run isBlank) numeralPattern text =
      if scan.digits = [] then none else some (scan.sign.toList ++ scan.digits) := by
  rw [Pattern.kept?_run ways_numeralPattern_of_isBlank, scan.dropWhile_isBlank,
    scan.head?_numeralPattern]
  split <;> rfl

end Scan

/-! ## Reading the numeral -/

theorem trimBoth_of_none {drops : Char → Bool} {text : List Char}
    (htext : ∀ c ∈ text, drops c = false) : trimBoth drops text = text := by
  have hfront : ([] ++ text).dropWhile drops = text :=
    dropWhile_of_stops (by simp) fun c hc => htext c (List.mem_of_head? hc)
  have hback : ([] ++ text.reverse).dropWhile drops = text.reverse :=
    dropWhile_of_stops (by simp) fun c hc =>
      htext c (List.mem_reverse.mp (List.mem_of_head? hc))
  rw [List.nil_append] at hfront hback
  rw [trimBoth, hfront, hback, List.reverse_reverse]

theorem groupedDigits?_of_digits {digits : List Char}
    (hdigits : ∀ c ∈ digits, isDigit c = true) (hsome : digits ≠ []) :
    groupedDigits? digits = some (digits.filterMap digitValue?) := by
  fun_induction groupedDigits? digits with
  | case1 => exact absurd rfl hsome
  | case2 c =>
      obtain ⟨value, hvalue⟩ := Option.isSome_iff_exists.mp (hdigits c (by simp))
      simp [hvalue]
  | case3 c rest ih =>
      have hmark := hdigits '_' (by simp)
      exact absurd hmark (by decide)
  | case4 c rest hrest _ ih =>
      obtain ⟨hc, hdigits⟩ := List.forall_mem_cons.mp hdigits
      obtain ⟨value, hvalue⟩ := Option.isSome_iff_exists.mp hc
      have hread := ih hdigits (by simpa using hrest)
      rw [List.filterMap_cons_some hvalue]
      simp [hvalue, hread]

theorem isSpace_eq_false_of_isBlank {c : Char} (hblank : isBlank c = false) :
    isSpace c = false :=
  (Bool.or_eq_false_iff.mp hblank).1

namespace Scan

variable {text : List Char}

theorem readInteger?_numeral (scan : Scan text) (hsome : scan.digits ≠ []) :
    readInteger? (String.ofList (scan.sign.toList ++ scan.digits)) =
      if scan.digits.length ≤ maxDigits then some scan.value else none := by
  have hplain : ∀ c ∈ scan.sign.toList ++ scan.digits, isSpace c = false := by
    intro c hc
    apply isSpace_eq_false_of_isBlank
    rcases List.mem_append.mp hc with hsign | hdigit
    · exact isBlank_eq_false_of_isSign (scan.sign_all c (Option.mem_toList.mp hsign))
    · exact isBlank_eq_false_of_isDigit (scan.digits_all c hdigit)
  have hsplit : splitSign (scan.sign.toList ++ scan.digits) =
      (decide (scan.sign = some '-'), scan.digits) :=
    splitSign_append scan.sign_all fun _ c hc =>
      isSign_eq_false_of_isDigit (scan.digits_all c (List.mem_of_head? hc))
  have hgrouped : groupedDigits? scan.digits = some scan.values :=
    groupedDigits?_of_digits scan.digits_all hsome
  simp only [readInteger?, String.toList_ofList, trimBoth_of_none hplain, hsplit,
    hgrouped, Option.bind_eq_bind, Option.bind_some, scan.length_values]
  rw [← scan.value_eq_applySign]
  rfl

end Scan

/-- Reading the pattern and scanning the text are the same, also where there is no port. -/
theorem toOption_portOr (default : Int) (text : String) :
    (portOr default text).toOption = portByPattern? default text := by
  obtain ⟨scan⟩ := Scan.nonempty text.toList
  rw [portByPattern?, scan.kept?_numeralPattern]
  by_cases hshort : scan.digits.length ≤ maxDigits
  · rw [portOr_of_short default rfl hshort, scan.port_eq_ite]
    by_cases hnone : scan.digits = []
    · rw [if_pos hnone, Scan.value_of_no_digits hnone]
      rfl
    · rw [if_neg hnone]
      simp only [scan.readInteger?_numeral hnone, if_pos hshort]
      rfl
  · have hlong := Nat.not_le.mp hshort
    have hsome : scan.digits ≠ [] := by
      intro hnone
      rw [hnone] at hlong
      contradiction
    rw [portOr_of_long default rfl hlong, if_neg hsome]
    simp only [scan.readInteger?_numeral hsome, if_neg hshort]
    rfl

end Destination

end RawPost
