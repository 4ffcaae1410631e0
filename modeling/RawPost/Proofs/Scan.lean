import RawPost.Proofs.Port

/-!
# Scanning a text for a port

Every text can be taken apart into the white space in front of it, at most one sign, a run of digits, and
what follows, each part being as long as it can be.  The port of the text is worked out from these parts:
it is the value of the signed digits if that is a port, and otherwise, or if there are no digits, the
default.  Digits that are too many to be read are the only thing that leaves a text without a port.
-/

namespace RawPost

namespace Text

/-! ## Runs of characters -/

variable {α : Type} {stays : α → Bool} {front tail : List α}

theorem takeWhile_of_stops (hfront : ∀ c ∈ front, stays c = true)
    (htail : ∀ c ∈ tail.head?, stays c = false) : (front ++ tail).takeWhile stays = front := by
  rw [List.takeWhile_append_of_pos hfront]
  cases tail with
  | nil => simp
  | cons c tail =>
      have hc : ¬ stays c = true := by simp [htail c rfl]
      rw [List.takeWhile_cons_of_neg hc, List.append_nil]

theorem dropWhile_of_stops (hfront : ∀ c ∈ front, stays c = true)
    (htail : ∀ c ∈ tail.head?, stays c = false) : (front ++ tail).dropWhile stays = tail := by
  rw [List.dropWhile_append_of_pos hfront]
  cases tail with
  | nil => rfl
  | cons c tail =>
      have hc : ¬ stays c = true := by simp [htail c rfl]
      rw [List.dropWhile_cons_of_neg hc]

theorem head?_dropWhile_stops (stays : α → Bool) (text : List α) :
    ∀ c ∈ (text.dropWhile stays).head?, stays c = false := by
  intro c hc
  have hstops := List.head?_dropWhile_not stays text
  rw [Option.mem_def.mp hc] at hstops
  simpa using hstops

end Text

namespace Destination

open Text Number

def isSign (c : Char) : Bool :=
  c == '+' || c == '-'

theorem eq_plus_or_minus {c : Char} (hsign : isSign c = true) : c = '+' ∨ c = '-' := by
  simpa [isSign] using hsign

theorem isBlank_eq_false_of_isSign {c : Char} (hsign : isSign c = true) :
    isBlank c = false := by
  rcases eq_plus_or_minus hsign with rfl | rfl
  · decide
  · decide

theorem isDigit_eq_false_of_isSign {c : Char} (hsign : isSign c = true) :
    isDigit c = false := by
  rcases eq_plus_or_minus hsign with rfl | rfl
  · decide
  · decide

theorem isSign_eq_false_of_isDigit {c : Char} (hdigit : isDigit c = true) :
    isSign c = false := by
  rw [← Bool.not_eq_true]
  intro hsign
  simp [isDigit_eq_false_of_isSign hsign] at hdigit

/-- A sign is split off where there is one. -/
theorem splitSign_append {sign : Option Char} {rest : List Char}
    (hsign : ∀ c ∈ sign, isSign c = true)
    (hrest : sign = none → ∀ c ∈ rest.head?, isSign c = false) :
    splitSign (sign.toList ++ rest) = (decide (sign = some '-'), rest) := by
  cases sign with
  | none =>
      cases rest with
      | nil => rfl
      | cons c rest =>
          have hc : isSign c = false := hrest rfl c rfl
          simp only [isSign, Bool.or_eq_false_iff, beq_eq_false_iff_ne] at hc
          exact splitSign_of_ne hc.2 hc.1 rest
  | some c =>
      rcases eq_plus_or_minus (hsign c rfl) with rfl | rfl
      · rfl
      · rfl

/-- A text taken apart by one scan from its front to its end. -/
structure Scan (text : List Char) where
  blanks : List Char
  sign : Option Char
  digits : List Char
  tail : List Char
  text_eq : blanks ++ (sign.toList ++ (digits ++ tail)) = text
  blanks_all : ∀ c ∈ blanks, isBlank c = true
  blanks_end : ∀ c ∈ (sign.toList ++ (digits ++ tail)).head?, isBlank c = false
  sign_all : ∀ c ∈ sign, isSign c = true
  sign_end : sign = none → ∀ c ∈ (digits ++ tail).head?, isSign c = false
  digits_all : ∀ c ∈ digits, isDigit c = true
  digits_end : ∀ c ∈ tail.head?, isDigit c = false

namespace Scan

variable {text : List Char}

def values (scan : Scan text) : List Nat :=
  scan.digits.filterMap digitValue?

/-- The digits in base ten, the first one being the most significant. -/
def magnitude (scan : Scan text) : Nat :=
  Nat.ofDigits 10 scan.values.reverse

def value (scan : Scan text) : Int :=
  if scan.sign = some '-' then -(scan.magnitude : Int) else scan.magnitude

def port (scan : Scan text) (default : Int) : Int :=
  if scan.digits = [] then default
  else if 1 ≤ scan.value ∧ scan.value ≤ 65535 then scan.value
  else default

/-! ## Taking texts apart -/

/-- The signs and white space in front settle how a text is taken apart. -/
theorem nonempty_of_front {blanks rest : List Char} (sign : Option Char)
    (htext : blanks ++ (sign.toList ++ rest) = text)
    (hblanks : ∀ c ∈ blanks, isBlank c = true)
    (hblanksEnd : ∀ c ∈ (sign.toList ++ rest).head?, isBlank c = false)
    (hsign : ∀ c ∈ sign, isSign c = true)
    (hsignEnd : sign = none → ∀ c ∈ rest.head?, isSign c = false) :
    Nonempty (Scan text) := by
  have hrest : rest.takeWhile isDigit ++ rest.dropWhile isDigit = rest :=
    List.takeWhile_append_dropWhile
  refine ⟨{
    blanks
    sign
    digits := rest.takeWhile isDigit
    tail := rest.dropWhile isDigit
    text_eq := by rwa [hrest]
    blanks_all := hblanks
    blanks_end := by rwa [hrest]
    sign_all := hsign
    sign_end := by rwa [hrest]
    digits_all := List.all_eq_true.mp List.all_takeWhile
    digits_end := head?_dropWhile_stops isDigit rest }⟩

/-- Every text can be taken apart. -/
theorem nonempty (text : List Char) : Nonempty (Scan text) := by
  have htext : text.takeWhile isBlank ++ text.dropWhile isBlank = text :=
    List.takeWhile_append_dropWhile
  have hblanks : ∀ c ∈ text.takeWhile isBlank, isBlank c = true :=
    List.all_eq_true.mp List.all_takeWhile
  have hstops := head?_dropWhile_stops isBlank text
  cases hunsigned : text.dropWhile isBlank with
  | nil =>
      rw [hunsigned] at htext hstops
      exact nonempty_of_front none htext hblanks hstops (by simp) (by simp)
  | cons c rest =>
      rw [hunsigned] at htext hstops
      by_cases hsign : isSign c = true
      · exact nonempty_of_front (some c) htext hblanks hstops
          (by simpa using hsign) (by simp)
      · exact nonempty_of_front none htext hblanks hstops (by simp)
          (by simpa using hsign)

/-- The scan of digits with all that can surround them. -/
def ofParts {blanks digits tail : List Char} {sign : Option Char}
    (hblanks : ∀ c ∈ blanks, isBlank c = true) (hsign : ∀ c ∈ sign, isSign c = true)
    (hdigits : ∀ c ∈ digits, isDigit c = true) (hsome : digits ≠ [])
    (htail : ∀ c ∈ tail.head?, isDigit c = false) :
    Scan (blanks ++ (sign.toList ++ (digits ++ tail))) where
  blanks
  sign
  digits
  tail
  text_eq := rfl
  blanks_all := hblanks
  blanks_end := by
    intro c hc
    cases sign with
    | none =>
        rw [Option.toList_none, List.nil_append, List.head?_append_of_ne_nil _ hsome] at hc
        exact isBlank_eq_false_of_isDigit (hdigits c (List.mem_of_head? hc))
    | some s => exact isBlank_eq_false_of_isSign (hsign c hc)
  sign_all := hsign
  sign_end := by
    intro _ c hc
    rw [List.head?_append_of_ne_nil _ hsome] at hc
    exact isSign_eq_false_of_isDigit (hdigits c (List.mem_of_head? hc))
  digits_all := hdigits
  digits_end := htail

/-! ## The scanner -/

theorem dropWhile_isBlank (scan : Scan text) :
    text.dropWhile isBlank = scan.sign.toList ++ (scan.digits ++ scan.tail) := by
  conv_lhs => rw [← scan.text_eq]
  exact dropWhile_of_stops scan.blanks_all scan.blanks_end

theorem takeWhile_isDigit (scan : Scan text) :
    (scan.digits ++ scan.tail).takeWhile isDigit = scan.digits :=
  takeWhile_of_stops scan.digits_all scan.digits_end

theorem splitSign_eq (scan : Scan text) :
    splitSign (text.dropWhile isBlank) =
      (decide (scan.sign = some '-'), scan.digits ++ scan.tail) := by
  rw [scan.dropWhile_isBlank]
  exact splitSign_append scan.sign_all scan.sign_end

theorem leadingInteger_eq (scan : Scan text) :
    leadingInteger text = (decide (scan.sign = some '-'), scan.values) := by
  simp only [leadingInteger, scan.splitSign_eq, scan.takeWhile_isDigit, values]

theorem length_values (scan : Scan text) : scan.values.length = scan.digits.length :=
  (forall₂_of_isDigit scan.digits_all).length_eq.symm

theorem value_eq_applySign (scan : Scan text) :
    scan.value = applySign (decide (scan.sign = some '-')) (digitsValue scan.values) := by
  rw [value, magnitude, applySign, digitsValue_eq_ofDigits]
  simp only [decide_eq_true_eq]

theorem value_of_no_digits {scan : Scan text} (hnone : scan.digits = []) :
    scan.value = 0 := by
  simp [value, magnitude, values, hnone]

theorem port_eq_ite (scan : Scan text) (default : Int) :
    scan.port default =
      if 0 < scan.value ∧ scan.value ≤ maxPort then scan.value else default := by
  unfold port
  split
  next hnone => simp [value_of_no_digits hnone]
  next => rfl

/-- The port of a scan is one, or the default. -/
theorem port_eq_or_isPort (scan : Scan text) (default : Int) :
    scan.port default = default ∨ IsPort (scan.port default) := by
  rw [port_eq_ite]
  split
  next hrange => exact .inr hrange
  next => exact .inl rfl

end Scan

variable {text : String} {chars : List Char} {scan : Scan chars}

/-- Nothing but the number of its digits keeps a text from having a port. -/
theorem portOr_of_short (default : Int) (htext : text.toList = chars)
    (hshort : scan.digits.length ≤ maxDigits) :
    portOr default text = .ok (scan.port default) := by
  rw [← scan.length_values] at hshort
  simp only [portOr, htext, scan.leadingInteger_eq]
  rw [if_neg (Nat.not_lt.mpr hshort), ← scan.value_eq_applySign, scan.port_eq_ite]

theorem portOr_of_long (default : Int) (htext : text.toList = chars)
    (hlong : maxDigits < scan.digits.length) :
    portOr default text = .error ⟨scan.digits.length⟩ := by
  rw [← scan.length_values] at hlong ⊢
  simp only [portOr, htext, scan.leadingInteger_eq]
  rw [if_pos hlong]

end Destination

end RawPost
