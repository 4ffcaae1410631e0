import RawPost.Failure
import Mathlib.Tactic

/-!
# The wording of a failure

What is told about a failure is a sentence of fixed words with values between them, and its template has a
mark in the place of each value.  As no mark is in the fixed words, filling the template gives the
sentence back whatever the values are: a value may hold marks of its own.
-/

namespace RawPost

namespace Text.Template

/-- A part of a sentence: fixed words, or a value as it is, in quotes, or in decimal. -/
inductive Segment where
  | fixed (words : String)
  | plain (s : String)
  | quoted (s : String)
  | decimal (n : Int)
  deriving DecidableEq, Repr

namespace Segment

/-- What stands for a segment in the template. -/
def mark : Segment → List Char
  | fixed words => words.toList
  | plain _ => ['%', 's']
  | quoted _ => ['%', 'r']
  | decimal _ => ['%', 'd']

def value? : Segment → Option Value
  | fixed _ => none
  | plain s => some (.text s)
  | quoted s => some (.text s)
  | decimal n => some (.integer n)

def shown : Segment → List Char
  | fixed words => words.toList
  | plain s => s.toList
  | quoted s => (quote s).toList
  | decimal n => (Number.integerText n).toList

/-- Fixed words have no mark in them. -/
def isUnmarked : Segment → Bool
  | fixed words => words.toList.all (· ≠ '%')
  | _ => true

end Segment

/-! ## Pieces of a template -/

theorem piecesFrom_unmarked {words : List Char}
    (hwords : words.all (· ≠ '%') = true) (index : Nat) (rest : List Char) :
    piecesFrom none index (words ++ rest) =
      words.map .literal ++ piecesFrom none (index + words.length) rest := by
  induction words generalizing index with
  | nil => rfl
  | cons c words ih =>
      simp only [List.all_cons, Bool.and_eq_true, decide_eq_true_eq] at hwords
      have hrest := ih hwords.2 (index + 1)
      rw [List.cons_append, piecesFrom, if_neg hwords.1, hrest,
        List.length_cons, Nat.add_assoc, Nat.add_comm 1]
      rfl

theorem piecesFrom_directive {conversion : Char}
    (hconversion : conversion ∈ ['s', 'r', 'd']) (index : Nat)
    (rest : List Char) :
    piecesFrom none index ('%' :: conversion :: rest) =
      .directive {} conversion (index + 1) ::
        piecesFrom none (index + 2) rest := by
  simp only [List.mem_cons, List.not_mem_nil, or_false] at hconversion
  rcases hconversion with rfl | rfl | rfl <;> rfl

/-! ## Filling -/

theorem fill_literals [Memory] (words : List Char) (pieces : List Piece)
    (values : List Value) :
    fill (words.map .literal ++ pieces) values =
      (fill pieces values).map (words ++ ·) := by
  induction words with
  | nil =>
      rw [List.map_nil, List.nil_append]
      cases fill pieces values <;> rfl
  | cons c words ih =>
      rw [List.map_cons, List.cons_append, fill, ih]
      cases fill pieces values <;> rfl

/-- The layout of a directive that says nothing but its conversion. -/
def bareLayout : Layout :=
  ⟨false, false, false, false, false, 0, none⟩

/-- Without padding a field takes no more than its value, which is there already. -/
theorem fill_directive [Memory] {conversion : Char} {index : Nat} {value : Value}
    {field : Field}
    (hfield : bareLayout.field conversion index value = .ok field)
    (hpadding : field.padding = 0) (pieces : List Piece) (values : List Value) :
    fill (.directive {} conversion index :: pieces) (value :: values) =
      (fill pieces values).map (field.chars ++ ·) := by
  have hlayout : ({} : Directive).layout (value :: values) =
      .ok (bareLayout, value :: values) := rfl
  have hconvert : bareLayout.convert conversion index value = .ok field := by
    unfold Layout.convert
    rw [hfield]
    simp [bind, Except.bind, hpadding]
    rfl
  rw [fill, hlayout]
  simp only [bind, Except.bind, hconvert]
  cases fill pieces values <;> rfl

theorem chars_of_body (chars : List Char) :
    Field.chars { body := chars } = chars := by
  simp [Field.chars]

theorem bareLayout_textField (s : String) :
    bareLayout.textField s = { body := s.toList } := by
  simp [Layout.textField, Layout.pad, bareLayout]

theorem bareLayout_integerField (n : Int) :
    bareLayout.integerField 'd' n =
      { sign := if n < 0 then ['-'] else []
        body := Number.digitsIn 10 n.natAbs } := by
  simp [Layout.integerField, Layout.padNumber, Layout.pad, bareLayout,
    Layout.sign, integerBase]

/-- The pieces of one segment write what the segment shows. -/
theorem fill_segment [Memory] {segment : Segment} (hunmarked : segment.isUnmarked = true)
    (index : Nat) (rest : List Char) (values : List Value) :
    ∃ after,
      fill (piecesFrom none index (segment.mark ++ rest))
          (segment.value?.toList ++ values) =
        (fill (piecesFrom none after rest) values).map (segment.shown ++ ·) := by
  cases segment with
  | fixed words =>
      refine ⟨index + words.toList.length, ?_⟩
      simp only [Segment.mark, Segment.value?, Segment.shown, Option.toList_none,
        List.nil_append]
      rw [piecesFrom_unmarked hunmarked, fill_literals]
  | plain s =>
      refine ⟨index + 2, ?_⟩
      have hfield : bareLayout.field 's' (index + 1) (.text s) =
          .ok { body := s.toList } := by
        rw [← bareLayout_textField]
        rfl
      simp only [Segment.mark, Segment.value?, Segment.shown, Option.toList_some,
        List.cons_append, List.nil_append]
      rw [piecesFrom_directive (by decide), fill_directive hfield rfl,
        chars_of_body]
  | quoted s =>
      refine ⟨index + 2, ?_⟩
      have hfield : bareLayout.field 'r' (index + 1) (.text s) =
          .ok { body := (quote s).toList } := by
        rw [← bareLayout_textField]
        rfl
      simp only [Segment.mark, Segment.value?, Segment.shown, Option.toList_some,
        List.cons_append, List.nil_append]
      rw [piecesFrom_directive (by decide), fill_directive hfield rfl,
        chars_of_body]
  | decimal n =>
      refine ⟨index + 2, ?_⟩
      have hfield := bareLayout_integerField n
      have hchars : (bareLayout.integerField 'd' n).chars =
          (Number.integerText n).toList := by
        rw [hfield]
        simp [Field.chars, Number.integerText]
      have hpadding : (bareLayout.integerField 'd' n).padding = 0 := by
        rw [hfield]
        rfl
      have hconversion : bareLayout.field 'd' (index + 1) (.integer n) =
          .ok (bareLayout.integerField 'd' n) := rfl
      simp only [Segment.mark, Segment.value?, Segment.shown, Option.toList_some,
        List.cons_append, List.nil_append]
      rw [piecesFrom_directive (by decide), fill_directive hconversion hpadding,
        hchars]

theorem fill_segments [Memory] {segments : List Segment}
    (hunmarked : segments.all Segment.isUnmarked = true) (index : Nat) :
    fill (piecesFrom none index (segments.flatMap Segment.mark))
        (segments.filterMap Segment.value?) =
      .ok (segments.flatMap Segment.shown) := by
  -- The index at which a directive stands counts in messages about it only, so any index will do.
  induction segments generalizing index with
  | nil => rfl
  | cons segment segments ih =>
      simp only [List.all_cons, Bool.and_eq_true] at hunmarked
      obtain ⟨after, hsegment⟩ := fill_segment hunmarked.1 index
        (segments.flatMap Segment.mark) (segments.filterMap Segment.value?)
      have hvalues : (segment :: segments).filterMap Segment.value? =
          segment.value?.toList ++ segments.filterMap Segment.value? := by
        cases segment <;> rfl
      rw [List.flatMap_cons, hvalues, hsegment, ih hunmarked.2,
        List.flatMap_cons]
      rfl

/-- Fixed words alone are their own template. -/
theorem mark_eq_shown {segments : List Segment}
    (hvalues : segments.filterMap Segment.value? = []) :
    segments.flatMap Segment.mark = segments.flatMap Segment.shown := by
  induction segments with
  | nil => rfl
  | cons segment segments ih =>
      cases segment with
      | fixed words =>
          rw [List.flatMap_cons, List.flatMap_cons, ih hvalues]
          rfl
      | _ => simp [Segment.value?] at hvalues

theorem render_segments [Memory] {segments : List Segment}
    (hunmarked : segments.all Segment.isUnmarked = true) :
    render (.text (String.ofList (segments.flatMap Segment.mark)))
        (segments.filterMap Segment.value?) =
      .ok (String.ofList (segments.flatMap Segment.shown)) := by
  have hfill := fill_segments hunmarked 0
  cases hvalues : segments.filterMap Segment.value? with
  | nil =>
      rw [mark_eq_shown hvalues]
      rfl
  | cons value values =>
      rw [hvalues] at hfill
      simp only [render, pieces, String.toList_ofList, hfill]
      rfl

end Text.Template

namespace Failure

open Text Text.Template

/-- The sentence about a failure, part by part. -/
def segments : Failure → List Segment
  | notSupported => [.fixed "Invalid HTTP request."]
  | notOpened fault => [.fixed "Cannot open socket: ", .plain fault.text]
  | notResolved host fault =>
    [.fixed "No such host ", .quoted host, .fixed ": ", .plain fault.text]
  | connectTimedOut address port =>
    [.fixed "Timed out connecting to ", .plain address, .fixed ":", .decimal port]
  | notConnected address port fault =>
    [.fixed "Cannot connect to ", .plain address, .fixed ":", .decimal port,
      .fixed ": ", .plain fault.text]
  | invalidPort port fault =>
    [.fixed "Invalid port ", .decimal port, .fixed ": ", .plain fault.text]
  | closedWhileSending sent total =>
    [.fixed "Connection closed after ", .decimal sent, .fixed " of ",
      .decimal total, .fixed " bytes"]
  | sendTimedOut sent total =>
    [.fixed "Timed out after writing ", .decimal sent, .fixed " of ",
      .decimal total, .fixed " bytes"]
  | notSent fault =>
    [.fixed "Cannot write request to the socket: ", .plain fault.text]
  | tooLarge limit =>
    [.fixed "Cannot store the complete response from the socket (limit ",
      .decimal limit, .fixed " bytes)"]
  | receiveTimedOut => [.fixed "Timed out reading response from the socket"]
  | notReceived fault =>
    [.fixed "Cannot read response from the socket: ", .plain fault.text]

def sentence (failure : Failure) : String :=
  String.ofList (failure.segments.flatMap Segment.shown)

theorem isUnmarked_segments (failure : Failure) :
    failure.segments.all Segment.isUnmarked = true := by
  cases failure <;> rfl

theorem template_eq (failure : Failure) :
    failure.template =
      String.ofList (failure.segments.flatMap Segment.mark) := by
  cases failure <;> rfl

theorem values_eq (failure : Failure) :
    failure.values = failure.segments.filterMap Segment.value? := by
  cases failure <;> rfl

/-- Every failure can be told, and in its own words. -/
theorem report_eq [Memory] (failure : Failure) :
    failure.report = .ok ⟨failure.concern, failure.sentence, 1⟩ := by
  unfold report Report.compose
  rw [template_eq, values_eq, render_segments failure.isUnmarked_segments]
  rfl

/-- The sentence written out. -/
def wording : Failure → String
  | notSupported => "Invalid HTTP request."
  | notOpened fault => "Cannot open socket: " ++ fault.text
  | notResolved host fault => "No such host " ++ quote host ++ ": " ++ fault.text
  | connectTimedOut address port =>
    "Timed out connecting to " ++ address ++ ":" ++ Number.integerText port
  | notConnected address port fault =>
    "Cannot connect to " ++ address ++ ":" ++ Number.integerText port ++ ": " ++ fault.text
  | invalidPort port fault => "Invalid port " ++ Number.integerText port ++ ": " ++ fault.text
  | closedWhileSending sent total =>
    "Connection closed after " ++ Number.integerText sent ++ " of " ++
      Number.integerText total ++ " bytes"
  | sendTimedOut sent total =>
    "Timed out after writing " ++ Number.integerText sent ++ " of " ++
      Number.integerText total ++ " bytes"
  | notSent fault => "Cannot write request to the socket: " ++ fault.text
  | tooLarge limit =>
    "Cannot store the complete response from the socket (limit " ++
      Number.integerText limit ++ " bytes)"
  | receiveTimedOut => "Timed out reading response from the socket"
  | notReceived fault => "Cannot read response from the socket: " ++ fault.text

theorem sentence_eq_wording (failure : Failure) : failure.sentence = failure.wording := by
  unfold wording
  cases failure <;>
    simp only [sentence, segments, List.flatMap_cons, List.flatMap_nil, Segment.shown,
      String.ofList_append, String.ofList_toList, List.append_nil, String.append_assoc]

theorem report_eq_wording [Memory] (failure : Failure) :
    failure.report = .ok ⟨failure.concern, failure.wording, 1⟩ := by
  rw [report_eq, sentence_eq_wording]

end Failure

end RawPost
