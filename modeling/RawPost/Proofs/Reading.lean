import RawPost.Proofs.Assembly
import RawPost.Proofs.Locality

/-!
# Reading an assembled request

A reader takes the octets of a request apart again: it cuts them into lines at each first line break, up to
the first empty line, and takes the rest as the body; the first line is cut at its first space, the second
at its last colon.  If the parts of the head can be told apart, the reader gets back all that was written
exactly when no header is empty or has a line break inside.
-/

namespace RawPost

/-- What a request says, part by part; a request without a body reads like one with an empty body. -/
structure Reading where
  method : String
  target : String
  host : String
  port : String
  headers : List String
  body : String
  deriving DecidableEq, Repr

def Request.reading (request : Request) : Reading where
  method := request.method
  target := request.target
  host := request.host
  port := request.hostPort
  headers := request.headers
  body := request.body.getD ""

namespace Reading

open Text Request

/-! ## The reader -/

/-- Cuts octets where a mark stands first; the mark belongs to neither part. -/
def cutFirst? (mark : Octets) : Octets → Option (Octets × Octets)
  | [] => none
  | octet :: rest =>
    match (octet :: rest).dropPrefix? mark with
    | some after => some ([], after)
    | none => (cutFirst? mark rest).map fun (before, after) => (octet :: before, after)

/-- Cuts octets where a mark stands last. -/
def cutLast? (mark octets : Octets) : Option (Octets × Octets) :=
  (cutFirst? mark.reverse octets.reverse).map fun (after, before) => (before.reverse, after.reverse)

theorem eq_of_cutFirst? {mark octets before after : Octets}
    (hcut : cutFirst? mark octets = some (before, after)) :
    octets = before ++ mark ++ after := by
  induction octets generalizing before with
  | nil => simp [cutFirst?] at hcut
  | cons octet rest ih =>
      unfold cutFirst? at hcut
      cases hdrop : (octet :: rest).dropPrefix? mark with
      | some tail =>
          obtain ⟨start, hsplit, hstart⟩ := List.dropPrefix?_eq_some_iff.mp hdrop
          simp only [hdrop, Option.some.injEq, Prod.mk.injEq] at hcut
          rw [hsplit, eq_of_beq hstart, ← hcut.1, ← hcut.2, List.nil_append]
      | none =>
          simp only [hdrop, Option.map_eq_some_iff, Prod.mk.injEq,
            Prod.exists] at hcut
          obtain ⟨start, tail, hrest, rfl, rfl⟩ := hcut
          rw [ih hrest]
          simp

def lineBreak : Octets := encode crlf

/-- The lines before the first empty one, and what follows that one. -/
def readHead? (octets : Octets) : Option (List Octets × Octets) :=
  match _ : cutFirst? lineBreak octets with
  | none => none
  | some ([], body) => some ([], body)
  | some (octet :: line, rest) =>
    (readHead? rest).map fun (lines, body) => ((octet :: line) :: lines, body)
termination_by octets.length
decreasing_by
  rename_i hcut
  rw [eq_of_cutFirst? hcut]
  simp
  omega

def readRequestLine? (version : String) (line : Octets) : Option (String × String) := do
  let (method, rest) ← cutFirst? (encode " ") line
  let target ← rest.dropSuffix? (encode (" " ++ version))
  return (← decode? method, ← decode? target)

def readHostLine? (line : Octets) : Option (String × String) := do
  let authority ← line.dropPrefix? (encode "Host: ")
  let (host, port) ← cutLast? (encode ":") authority
  return (← decode? host, ← decode? port)

def read? (version : String) (octets : Octets) : Option Reading := do
  let (lines, body) ← readHead? octets
  match lines with
  | requestLine :: hostLine :: headers =>
    let (method, target) ← readRequestLine? version requestLine
    let (host, port) ← readHostLine? hostLine
    return ⟨method, target, host, port, ← headers.mapM decode?, ← decode? body⟩
  | _ => none

/-! ## Cutting -/

/-- A mark that stands in front does not stand anywhere before, not even with a part of itself. -/
theorem cutFirst?_of_not_infix {mark before : Octets}
    (hfirst : ¬ mark <:+: before ++ mark.dropLast) (after : Octets) :
    cutFirst? mark (before ++ mark ++ after) = some (before, after) := by
  induction before with
  | nil =>
      cases mark with
      | nil => simp at hfirst
      | cons octet mark =>
          have hdrop := List.dropPrefix?_append_of_beq after
            (BEq.refl (octet :: mark))
          rw [List.nil_append, List.cons_append, cutFirst?,
            ← List.cons_append, hdrop]
  | cons octet before ih =>
      have hdrop : (octet :: (before ++ mark ++ after)).dropPrefix? mark =
          none := by
        rw [Option.eq_none_iff_forall_ne_some]
        intro tail htail
        obtain ⟨start, hsplit, hstart⟩ :=
          List.dropPrefix?_eq_some_iff.mp htail
        have hmark : mark <+: octet :: (before ++ mark ++ after) :=
          ⟨tail, by rw [hsplit, eq_of_beq hstart]⟩
        have hwhole : octet :: before ++ mark.dropLast <+:
            octet :: (before ++ mark ++ after) := by
          rw [List.append_assoc, List.cons_append, List.prefix_cons_inj,
            List.prefix_append_right_inj]
          exact (List.dropLast_prefix mark).trans (List.prefix_append _ _)
        have hshort : mark.length ≤
            (octet :: before ++ mark.dropLast).length := by
          simp only [List.length_append, List.length_cons,
            List.length_dropLast]
          omega
        exact hfirst
          (List.prefix_of_prefix_length_le hmark hwhole hshort).isInfix
      have hrest : ¬ mark <:+: before ++ mark.dropLast := by
        intro hfound
        exact hfirst (hfound.trans (List.suffix_cons octet _).isInfix)
      rw [List.cons_append, List.cons_append, cutFirst?, hdrop, ih hrest]
      rfl

theorem cutLast?_of_not_infix {mark after : Octets}
    (hlast : ¬ mark <:+: mark.tail ++ after) (before : Octets) :
    cutLast? mark (before ++ mark ++ after) = some (before, after) := by
  have hfirst : ¬ mark.reverse <:+:
      after.reverse ++ mark.reverse.dropLast := by
    rw [List.dropLast_reverse, ← List.reverse_append, List.reverse_infix]
    exact hlast
  have hcut := cutFirst?_of_not_infix hfirst before.reverse
  have hreverse : (before ++ mark ++ after).reverse =
      after.reverse ++ mark.reverse ++ before.reverse := by
    simp
  rw [cutLast?, hreverse, hcut]
  simp

theorem not_infix_of_cutFirst? {mark octets before after : Octets}
    (hmark : mark ≠ [])
    (hcut : cutFirst? mark octets = some (before, after)) :
    ¬ mark <:+: before := by
  induction octets generalizing before with
  | nil => simp [cutFirst?] at hcut
  | cons octet rest ih =>
      have hsplit := eq_of_cutFirst? hcut
      unfold cutFirst? at hcut
      cases hdrop : (octet :: rest).dropPrefix? mark with
      | some tail =>
          simp only [hdrop, Option.some.injEq, Prod.mk.injEq] at hcut
          rw [← hcut.1, List.infix_nil]
          exact hmark
      | none =>
          simp only [hdrop, Option.map_eq_some_iff, Prod.mk.injEq,
            Prod.exists] at hcut
          obtain ⟨start, tail, hrest, rfl, rfl⟩ := hcut
          rw [List.infix_cons_iff]
          rintro (hstart | hinside)
          · obtain ⟨more, hmore⟩ := hstart
            have hfound := List.dropPrefix?_append_of_beq
              (more ++ mark ++ tail) (BEq.refl mark)
            rw [← List.append_assoc, ← List.append_assoc, hmore,
              List.append_assoc, ← List.append_assoc, ← hsplit, hdrop]
              at hfound
            contradiction
          · exact ih hrest hinside

/-! ## Lines -/

theorem not_infix_append_lineBreak {line : Octets}
    (hline : ¬ lineBreak <:+: line) :
    ¬ lineBreak <:+: line ++ lineBreak.dropLast := by
  have hdropLast : lineBreak.dropLast = [0x0D] := rfl
  have hlast : lineBreak.getLast? = some 0x0A := rfl
  rw [hdropLast, List.infix_concat_iff]
  rintro (⟨before, hjoint⟩ | hinside)
  · have hend := congrArg List.getLast? hjoint
    simp [List.getLast?_append, hlast] at hend
  · exact hline hinside

theorem readHead?_blank (body : Octets) :
    readHead? (lineBreak ++ body) = some ([], body) := by
  have hcut : cutFirst? lineBreak ([] ++ lineBreak ++ body) =
      some ([], body) :=
    cutFirst?_of_not_infix (by decide) body
  rw [List.nil_append] at hcut
  rw [readHead?]
  split
  · simp_all
  · simp_all
  · simp_all

theorem readHead?_line {line : Octets} (hne : line ≠ [])
    (hline : ¬ lineBreak <:+: line) (rest : Octets) :
    readHead? (line ++ lineBreak ++ rest) =
      (readHead? rest).map fun (lines, body) => (line :: lines, body) := by
  have hcut := cutFirst?_of_not_infix
    (not_infix_append_lineBreak hline) rest
  rw [readHead?]
  split
  · simp_all
  · simp_all
  · simp_all

/-- A line that can be read back. -/
def IsLine (line : Octets) : Prop :=
  line ≠ [] ∧ ¬ lineBreak <:+: line

theorem readHead?_lines {lines : List Octets}
    (hlines : ∀ line ∈ lines, IsLine line) (body : Octets) :
    readHead? (lines.flatMap (· ++ lineBreak) ++ (lineBreak ++ body)) =
      some (lines, body) := by
  induction lines with
  | nil => exact readHead?_blank body
  | cons line lines ih =>
      obtain ⟨hne, hline⟩ := hlines line List.mem_cons_self
      have hrest : ∀ other ∈ lines, IsLine other := by
        intro other hmem
        exact hlines other (List.mem_cons_of_mem line hmem)
      rw [List.flatMap_cons, List.append_assoc, readHead?_line hne hline,
        ih hrest]
      rfl

theorem isLine_of_readHead? {octets body : Octets} {lines : List Octets}
    (hread : readHead? octets = some (lines, body)) :
    ∀ line ∈ lines, IsLine line := by
  induction hlength : octets.length using Nat.strong_induction_on
    generalizing octets lines with
  | _ length ih =>
      rw [readHead?] at hread
      split at hread
      next => contradiction
      next =>
        simp only [Option.some.injEq, Prod.mk.injEq] at hread
        simp [← hread.1]
      next octet start rest hcut =>
        simp only [Option.map_eq_some_iff, Prod.mk.injEq, Prod.exists]
          at hread
        obtain ⟨others, _, hrest, rfl, rfl⟩ := hread
        have hshorter : rest.length < length := by
          rw [← hlength, eq_of_cutFirst? hcut]
          simp
          omega
        intro line hmem
        rcases List.mem_cons.mp hmem with rfl | hmem
        · exact ⟨List.cons_ne_nil _ _,
            not_infix_of_cutFirst? (by decide) hcut⟩
        · exact ih rest.length hshorter hrest rfl line hmem

end Reading

end RawPost
