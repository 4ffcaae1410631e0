import RawPost.Proofs.Pattern

/-!
# What a port does not depend on

The port of a text is what a scan of the text makes of it, and that is also what matching the pattern of an
integer and reading the numeral makes of it.  So white space in front of a text never changes its port, and
neither do a plus sign, zeros in front of the digits, or whatever follows the digits.
-/

namespace RawPost.Destination

open Text Number

/-- A run of digits with white space, a sign and zeros in front of it and something else behind it. -/
inductive Surrounds (digits : List Char) (sign : Option Char) : List Char → Prop
  | intro {blanks zeros tail : List Char}
      (hblanks : ∀ c ∈ blanks, isBlank c = true)
      (hzeros : ∀ c ∈ zeros, digitValue? c = some 0)
      (hshort : (zeros ++ digits).length ≤ 4300)
      (htail : ∀ c ∈ tail.head?, isDigit c = false) :
      Surrounds digits sign
        (blanks ++ (sign.toList ++ ((zeros ++ digits) ++ tail)))

theorem leadingInteger_append_blanks {blanks : List Char}
    (hblanks : ∀ c ∈ blanks, isBlank c = true) (text : List Char) :
    leadingInteger (blanks ++ text) = leadingInteger text := by
  rw [leadingInteger, List.dropWhile_append_of_pos hblanks, leadingInteger]

theorem portOr_append_blanks (default : Int) {blanks : List Char}
    (hblanks : ∀ c ∈ blanks, isBlank c = true) (text : List Char) :
    portOr default (String.ofList (blanks ++ text)) =
      portOr default (String.ofList text) := by
  simp only [portOr, String.toList_ofList, leadingInteger_append_blanks hblanks]

/-- A sign is worth nothing unless a digit comes right behind it, so neither a second sign nor white space
may stand there. -/
theorem portOr_of_lone_sign (default : Int) {blanks rest : List Char} {sign : Char}
    (hblanks : ∀ c ∈ blanks, isBlank c = true) (hsign : isSign sign = true)
    (hrest : ∀ c ∈ rest.head?, isDigit c = false) :
    portOr default (String.ofList (blanks ++ sign :: rest)) = .ok default := by
  let scan : Scan (blanks ++ sign :: rest) := {
    blanks
    sign := some sign
    digits := []
    tail := rest
    text_eq := rfl
    blanks_all := hblanks
    blanks_end := by simpa using isBlank_eq_false_of_isSign hsign
    sign_all := by simpa using hsign
    sign_end := by simp
    digits_all := by simp
    digits_end := hrest }
  have hport : scan.port default = default := if_pos rfl
  have hread : portOr default (String.ofList (blanks ++ sign :: rest)) =
      .ok (scan.port default) :=
    portOr_of_short default String.toList_ofList (Nat.zero_le _)
  rw [hread, hport]

namespace Scan

/-- Zeros in front add nothing to a magnitude. -/
theorem digitsValue_zeros_append {zeros : List Char}
    (hzeros : ∀ c ∈ zeros, digitValue? c = some 0) (digits : List Char) :
    digitsValue ((zeros ++ digits).filterMap digitValue?) =
      digitsValue (digits.filterMap digitValue?) := by
  induction zeros with
  | nil => rfl
  | cons c zeros ih =>
      obtain ⟨hc, hzeros⟩ := List.forall_mem_cons.mp hzeros
      rw [← ih hzeros, List.cons_append, List.filterMap_cons_some hc, digitsValue,
        List.foldl_cons]
      rfl

theorem port_of_minus {text : List Char} (scan : Scan text)
    (hminus : scan.sign = some '-') (default : Int) : scan.port default = default := by
  have hvalue : ¬ 0 < scan.value := by
    simp [value, hminus]
  rw [port_eq_ite, if_neg (fun hrange => hvalue hrange.1)]

end Scan

variable {digits text : List Char} {sign : Option Char}

theorem Surrounds.portOr_eq (default : Int) (hsign : ∀ c ∈ sign, isSign c = true)
    (hdigits : ∀ c ∈ digits, isDigit c = true) (hsome : digits ≠ [])
    (hsurrounds : Surrounds digits sign text) :
    portOr default (String.ofList text) =
      if sign = some '-' then .ok default else portOr default (String.ofList digits) := by
  cases hsurrounds with
  | @intro blanks zeros tail hblanks hzeros hshort htail =>
      have hall : ∀ c ∈ zeros ++ digits, isDigit c = true := by
        intro c hc
        rcases List.mem_append.mp hc with hzero | hdigit
        · simp [isDigit, hzeros c hzero]
        · exact hdigits c hdigit
      let around := Scan.ofParts hblanks hsign hall
        (List.append_ne_nil_of_right_ne_nil _ hsome) htail
      let alone : Scan ([] ++ (none.toList ++ (digits ++ []))) :=
        Scan.ofParts (by simp) (by simp) hdigits hsome (by simp)
      have haround : portOr default (String.ofList (blanks ++ (sign.toList ++
          ((zeros ++ digits) ++ tail)))) = .ok (around.port default) :=
        portOr_of_short default String.toList_ofList hshort
      have halone : portOr default (String.ofList digits) = .ok (alone.port default) := by
        apply portOr_of_short default
        · simp
        · rw [List.length_append] at hshort
          exact le_trans (Nat.le_add_left _ _) hshort
      rw [haround, halone]
      split
      next hminus => rw [around.port_of_minus hminus]
      next hplus =>
        have hplus : decide (around.sign = some '-') = false := decide_eq_false hplus
        have hvalue : around.value = alone.value := by
          rw [around.value_eq_applySign, alone.value_eq_applySign, hplus]
          exact congrArg _ (Scan.digitsValue_zeros_append hzeros digits)
        rw [around.port_eq_ite, alone.port_eq_ite, hvalue]

/-- The port of a text with digits that are not too many is what a scan of the text makes of it, which is
also what the pattern of an integer makes of it.  White space in front never changes the port, and a plus
sign, zeros in front of the digits and whatever follows them do not either; a sign without a digit right
behind it leaves the default. -/
theorem portOr_eq_port (default : Int) :
    (∀ text : String, Nonempty (Scan text.toList)) ∧
    (∀ (text : String) (scan : Scan text.toList), scan.digits.length ≤ 4300 →
      portOr default text = .ok (scan.port default)) ∧
    (∀ text : String, (portOr default text).toOption = portByPattern? default text) ∧
    (∀ blanks text : List Char, (∀ c ∈ blanks, isBlank c = true) →
      portOr default (String.ofList (blanks ++ text)) =
        portOr default (String.ofList text)) ∧
    (∀ (blanks rest : List Char) (sign : Char), (∀ c ∈ blanks, isBlank c = true) →
      isSign sign = true → (∀ c ∈ rest.head?, isDigit c = false) →
      portOr default (String.ofList (blanks ++ sign :: rest)) = .ok default) ∧
    (∀ (digits text : List Char) (sign : Option Char), (∀ c ∈ sign, isSign c = true) →
      (∀ c ∈ digits, isDigit c = true) → digits ≠ [] → Surrounds digits sign text →
      portOr default (String.ofList text) =
        if sign = some '-' then .ok default
        else portOr default (String.ofList digits)) := by
  refine ⟨fun text => Scan.nonempty text.toList, ?_, toOption_portOr default, ?_, ?_, ?_⟩
  · intro text scan hshort
    exact portOr_of_short default rfl hshort
  · intro blanks text hblanks
    exact portOr_append_blanks default hblanks text
  · intro blanks rest sign hblanks hsign hrest
    exact portOr_of_lone_sign default hblanks hsign hrest
  · intro digits text sign hsign hdigits hsome hsurrounds
    exact hsurrounds.portOr_eq default hsign hdigits hsome

/-- An ideographic space, a plus sign, digits of two scripts, and a tail; and a sign that is doubled. -/
theorem portOr_eq_port_of_mixed_digits :
    (∃ scan : Scan "　+0٨0x".toList,
      scan.digits.length ≤ 4300 ∧ scan.port 7 = 80 ∧
        portOr 7 "　+0٨0x" = .ok (scan.port 7)) ∧
      portOr 7 (String.ofList (['\t'] ++ ['8', '0'])) = portOr 7 (String.ofList ['8', '0']) ∧
      portOr 7 (String.ofList (['\t'] ++ '+' :: ['-', '8'])) = .ok 7 ∧
      portOr 7 (String.ofList (['　'] ++ (['+'] ++ ((['0'] ++ ['٨', '0']) ++ ['x'])))) =
        portOr 7 (String.ofList ['٨', '0']) := by
  obtain ⟨-, hscan, -, hblanks, hlone, hsurrounded⟩ := portOr_eq_port 7
  have htab : ∀ c ∈ ['\t'], isBlank c = true := List.forall_mem_singleton.mpr (by decide)
  have hspace : ∀ c ∈ ['　'], isBlank c = true := List.forall_mem_singleton.mpr (by decide)
  have hplus : ∀ c ∈ some '+', isSign c = true := by simp [isSign]
  have hnoBlank : isBlank '+' = false := by decide
  have hzero : ∀ c ∈ ['0'], digitValue? c = some 0 := List.forall_mem_singleton.mpr (by decide)
  have hdigits : ∀ c ∈ ['٨', '0'], isDigit c = true := List.all_eq_true.mp (by decide)
  have hletter : isDigit 'x' = false := by decide
  have hminus : isDigit '-' = false := by decide
  let scan : Scan "　+0٨0x".toList := {
    blanks := ['　']
    sign := some '+'
    digits := ['0', '٨', '0']
    tail := ['x']
    text_eq := by decide
    blanks_all := hspace
    blanks_end := by simpa using hnoBlank
    sign_all := hplus
    sign_end := by simp
    digits_all := List.forall_mem_cons.mpr ⟨by decide, hdigits⟩
    digits_end := by simpa using hletter }
  have hshort : scan.digits.length ≤ 4300 := by simp [scan]
  have hport : scan.port 7 = 80 := rfl
  refine ⟨⟨scan, hshort, hport, hscan _ scan hshort⟩, ?_, ?_, ?_⟩
  · exact hblanks ['\t'] ['8', '0'] htab
  · exact hlone ['\t'] ['-', '8'] '+' htab (by decide) (by simpa using hminus)
  · exact hsurrounded ['٨', '0'] _ (some '+') hplus hdigits (by simp)
      (.intro hspace hzero (by simp) (by simpa using hletter))

end RawPost.Destination
