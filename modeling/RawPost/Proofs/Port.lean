import RawPost.Destination
import RawPost.Proofs.Spelling
import Mathlib.Data.Nat.Digits.Defs
import Mathlib.Data.List.Forall2

/-!
# The port that a text stands for

A text begins with an integer if white space, at most one sign and at least one decimal digit stand in
front; the digits go on as far as they can, and what follows them does not matter.  The text stands for that
integer if it is a port, and otherwise, or if there is no integer, for the default.  Nothing but the number
of digits can keep a text from being read.
-/

namespace RawPost

/-- A number can be written if it is below the power of ten with as many zeros as there may be digits. -/
theorem Number.isWritable_iff {n : Int} : IsWritable n ↔ n.natAbs < 10 ^ maxDigits :=
  Nat.length_toDigits_le_iff (by decide) (by decide)

namespace Destination

open Text Number

/-- A run of digits, of one script or of many, and its value in base ten. -/
inductive BeginsWithDigits : List Char → Nat → Prop
  | run {digits rest : List Char} {values : List Nat}
      (hvalues : List.Forall₂ (fun c value => digitValue? c = some value) digits values)
      (hsome : digits ≠ [])
      (hend : ∀ c ∈ rest.head?, digitValue? c = none) :
      BeginsWithDigits (digits ++ rest) (Nat.ofDigits 10 values.reverse)

inductive BeginsWithNumeral : List Char → Int → Prop
  | unsigned {text : List Char} {n : Nat} (hdigits : BeginsWithDigits text n) :
      BeginsWithNumeral text n
  | plus {text : List Char} {n : Nat} (hdigits : BeginsWithDigits text n) :
      BeginsWithNumeral ('+' :: text) n
  | minus {text : List Char} {n : Nat} (hdigits : BeginsWithDigits text n) :
      BeginsWithNumeral ('-' :: text) (-n)

/-- White space may stand before the numeral, but not inside of it. -/
inductive BeginsWithInteger : List Char → Int → Prop
  | numeral {text : List Char} {n : Int} (hnumeral : BeginsWithNumeral text n) :
      BeginsWithInteger text n
  | blank {c : Char} {text : List Char} {n : Int} (hblank : isBlank c = true)
      (hrest : BeginsWithInteger text n) : BeginsWithInteger (c :: text) n

def IsPort (n : Int) : Prop :=
  1 ≤ n ∧ n ≤ 65535

/-- The port that a text stands for, with the port of a text that begins with none. -/
inductive StandsForPort (default : Int) (text : String) : Int → Prop
  | given {n : Int} (hbegins : BeginsWithInteger text.toList n) (hport : IsPort n) :
      StandsForPort default text n
  | default (hnone : ∀ n, BeginsWithInteger text.toList n → ¬ IsPort n) :
      StandsForPort default text default

/-! ## Digits -/

theorem exists_block_of_isDigit {c : Char} (hdigit : isDigit c = true) :
    ∃ first ∈ digitZeros, first ≤ c.toNat ∧ c.toNat < first + 10 := by
  simp only [isDigit, digitValue?, Option.isSome_map, List.find?_isSome,
    Bool.and_eq_true, decide_eq_true_eq] at hdigit
  exact hdigit

/-- The white space of all scripts lies in the gaps between the blocks of digits. -/
theorem block_apart_from_blanks :
    ∀ first ∈ digitZeros,
      (0x20 < first ∧ first + 10 ≤ 0x85) ∨ (0xA0 < first ∧ first + 10 ≤ 0x1680) ∨
        (0x1680 < first ∧ first + 10 ≤ 0x2000) ∨ 0x3000 < first := by
  decide

theorem isBlank_eq_false_of_isDigit {c : Char} (hdigit : isDigit c = true) :
    isBlank c = false := by
  obtain ⟨first, hfirst, hlow, hhigh⟩ := exists_block_of_isDigit hdigit
  have hgap := block_apart_from_blanks first hfirst
  rw [← Bool.not_eq_true]
  intro hblank
  simp only [isBlank, isSpace, isInformationSeparator, Bool.or_eq_true,
    Bool.and_eq_true, decide_eq_true_eq, beq_iff_eq] at hblank
  omega

theorem digitsValue_eq_ofDigits (values : List Nat) :
    digitsValue values = Nat.ofDigits 10 values.reverse := by
  rw [digitsValue, List.foldl_eq_foldr_reverse, Nat.ofDigits_eq_foldr]
  simp only [Nat.cast_id, Nat.add_comm]

/-- The values of the digits that a text begins with. -/
def leadingDigits (text : List Char) : List Nat :=
  (text.takeWhile isDigit).filterMap digitValue?

theorem forall₂_of_isDigit {digits : List Char}
    (hdigits : ∀ c ∈ digits, isDigit c = true) :
    List.Forall₂ (fun c value => digitValue? c = some value) digits
      (digits.filterMap digitValue?) := by
  induction digits with
  | nil => exact .nil
  | cons c digits ih =>
      obtain ⟨hdigit, hrest⟩ := List.forall_mem_cons.mp hdigits
      obtain ⟨value, hvalue⟩ := Option.isSome_iff_exists.mp hdigit
      rw [List.filterMap_cons_some hvalue]
      exact .cons hvalue (ih hrest)

theorem leadingDigits_of_forall₂ {digits rest : List Char} {values : List Nat}
    (hvalues : List.Forall₂ (fun c value => digitValue? c = some value) digits values)
    (hend : ∀ c ∈ rest.head?, digitValue? c = none) :
    leadingDigits (digits ++ rest) = values := by
  induction hvalues with
  | nil =>
      have hnone : rest.takeWhile isDigit = [] := by
        cases rest with
        | nil => rfl
        | cons c rest =>
            apply List.takeWhile_cons_of_neg
            simp [isDigit, hend c rfl]
      rw [leadingDigits, List.nil_append, hnone]
      rfl
  | @cons c value digits values hvalue _ ih =>
      have hdigit : isDigit c = true := by simp [isDigit, hvalue]
      rw [leadingDigits, List.cons_append, List.takeWhile_cons_of_pos hdigit,
        List.filterMap_cons_some hvalue]
      exact congrArg (value :: ·) ih

theorem beginsWithDigits_iff {text : List Char} {n : Nat} :
    BeginsWithDigits text n ↔
      leadingDigits text ≠ [] ∧ n = digitsValue (leadingDigits text) := by
  constructor
  · rintro ⟨hvalues, hsome, hend⟩
    rw [leadingDigits_of_forall₂ hvalues hend, digitsValue_eq_ofDigits]
    refine ⟨?_, rfl⟩
    rintro rfl
    exact hsome (List.forall₂_nil_right_iff.mp hvalues)
  · rintro ⟨hsome, rfl⟩
    have hdigits : ∀ c ∈ text.takeWhile isDigit, isDigit c = true :=
      List.all_eq_true.mp List.all_takeWhile
    have hend : ∀ c ∈ (text.dropWhile isDigit).head?, digitValue? c = none := by
      intro c hhead
      have hstops := List.head?_dropWhile_not isDigit text
      rw [Option.mem_def.mp hhead] at hstops
      simpa [isDigit] using hstops
    have hnonempty : text.takeWhile isDigit ≠ [] := by
      intro hnone
      exact hsome (by rw [leadingDigits, hnone]; rfl)
    have hrun := BeginsWithDigits.run (forall₂_of_isDigit hdigits) hnonempty hend
    rw [List.takeWhile_append_dropWhile] at hrun
    rwa [digitsValue_eq_ofDigits]

theorem BeginsWithDigits.exists_cons {text : List Char} {n : Nat}
    (hdigits : BeginsWithDigits text n) :
    ∃ c rest, text = c :: rest ∧ isDigit c = true := by
  obtain ⟨hsome, -⟩ := beginsWithDigits_iff.mp hdigits
  cases text with
  | nil => exact absurd rfl hsome
  | cons c rest =>
      refine ⟨c, rest, rfl, ?_⟩
      by_contra hother
      apply hsome
      rw [leadingDigits, List.takeWhile_cons_of_neg hother]
      rfl

/-! ## Signs and white space -/

theorem splitSign_of_isDigit {c : Char} (rest : List Char)
    (hdigit : isDigit c = true) :
    splitSign (c :: rest) = (false, c :: rest) := by
  apply splitSign_of_ne
  · rintro rfl
    exact absurd hdigit (by decide)
  · rintro rfl
    exact absurd hdigit (by decide)

theorem beginsWithNumeral_iff {text : List Char} {n : Int} :
    BeginsWithNumeral text n ↔
      leadingDigits (splitSign text).2 ≠ [] ∧
        n = applySign (splitSign text).1
          (digitsValue (leadingDigits (splitSign text).2)) := by
  constructor
  · intro hnumeral
    cases hnumeral with
    | unsigned hdigits =>
        obtain ⟨c, rest, rfl, hdigit⟩ := hdigits.exists_cons
        rw [splitSign_of_isDigit rest hdigit]
        obtain ⟨hsome, rfl⟩ := beginsWithDigits_iff.mp hdigits
        exact ⟨hsome, rfl⟩
    | plus hdigits =>
        obtain ⟨hsome, rfl⟩ := beginsWithDigits_iff.mp hdigits
        exact ⟨hsome, rfl⟩
    | minus hdigits =>
        obtain ⟨hsome, rfl⟩ := beginsWithDigits_iff.mp hdigits
        exact ⟨hsome, rfl⟩
  · rintro ⟨hsome, rfl⟩
    have hdigits := beginsWithDigits_iff.mpr ⟨hsome, rfl⟩
    unfold splitSign at hdigits ⊢
    split at hdigits
    next => exact .minus hdigits
    next => exact .plus hdigits
    next => exact .unsigned hdigits

theorem BeginsWithNumeral.exists_cons {text : List Char} {n : Int}
    (hnumeral : BeginsWithNumeral text n) :
    ∃ c rest, text = c :: rest ∧ isBlank c = false := by
  cases hnumeral with
  | unsigned hdigits =>
      obtain ⟨c, rest, rfl, hdigit⟩ := hdigits.exists_cons
      exact ⟨c, rest, rfl, isBlank_eq_false_of_isDigit hdigit⟩
  | plus hdigits => exact ⟨_, _, rfl, by decide⟩
  | minus hdigits => exact ⟨_, _, rfl, by decide⟩

theorem beginsWithInteger_iff_numeral {text : List Char} {n : Int} :
    BeginsWithInteger text n ↔ BeginsWithNumeral (text.dropWhile isBlank) n := by
  constructor
  · intro hinteger
    induction hinteger with
    | numeral hnumeral =>
        obtain ⟨c, rest, rfl, hblank⟩ := hnumeral.exists_cons
        rwa [List.dropWhile_cons_of_neg (by simp [hblank])]
    | blank hblank _ ih => rwa [List.dropWhile_cons_of_pos hblank]
  · intro hnumeral
    induction text with
    | nil => exact .numeral hnumeral
    | cons c text ih =>
        by_cases hblank : isBlank c = true
        · rw [List.dropWhile_cons_of_pos hblank] at hnumeral
          exact .blank hblank (ih hnumeral)
        · rw [List.dropWhile_cons_of_neg hblank] at hnumeral
          exact .numeral hnumeral

/-- The scanner finds exactly the integer that a text begins with. -/
theorem beginsWithInteger_iff {text : List Char} {n : Int} :
    BeginsWithInteger text n ↔
      (leadingInteger text).2 ≠ [] ∧
        n = applySign (leadingInteger text).1 (digitsValue (leadingInteger text).2) := by
  rw [beginsWithInteger_iff_numeral, beginsWithNumeral_iff]
  rfl

theorem BeginsWithInteger.unique {text : List Char} {m n : Int}
    (hm : BeginsWithInteger text m) (hn : BeginsWithInteger text n) : m = n := by
  rw [(beginsWithInteger_iff.mp hm).2, (beginsWithInteger_iff.mp hn).2]

/-! ## Ports -/

theorem IsPort.isWritable {n : Int} (hport : IsPort n) : IsWritable n := by
  have hsmall : n.natAbs < 10 ^ 5 := by
    obtain ⟨hlow, hhigh⟩ := hport
    omega
  exact isWritable_iff.mpr (hsmall.trans_le (Nat.pow_le_pow_right (by decide) (by decide)))

theorem StandsForPort.isWritable {text : String} {n : Int}
    (hstands : StandsForPort 80 text n) : IsWritable n := by
  cases hstands with
  | given hbegins hport => exact hport.isWritable
  | default hnone => decide

theorem standsForPort_of_portOr {default port : Int} {text : String}
    (hport : portOr default text = .ok port) : StandsForPort default text port := by
  rcases hleading : leadingInteger text.toList with ⟨negative, digits⟩
  have hbegins (n : Int) : BeginsWithInteger text.toList n ↔
      digits ≠ [] ∧ n = applySign negative (digitsValue digits) := by
    rw [beginsWithInteger_iff, hleading]
  simp only [portOr, hleading, maxPort] at hport
  split at hport
  next => simp at hport
  next =>
    rw [Except.ok.injEq] at hport
    split at hport
    next hrange =>
      subst hport
      have hsome : digits ≠ [] := by
        rintro rfl
        exact absurd hrange.1 (by cases negative <;> decide)
      exact .given ((hbegins _).mpr ⟨hsome, rfl⟩) hrange
    next hrange =>
      subst hport
      apply StandsForPort.default
      intro n hn
      rw [((hbegins n).mp hn).2]
      exact hrange

theorem StandsForPort.isPort {default port : Int} {text : String}
    (hdefault : IsPort default) (hstands : StandsForPort default text port) :
    IsPort port := by
  cases hstands with
  | given _ hport => exact hport
  | default _ => exact hdefault

end Destination

end RawPost
