import RawPost.Proofs.Utf8

/-!
# Decoding starts afresh at a lead octet

A reader in the middle of a character waits for a continuation, and no other octet is accepted instead of
one.  So reading is the same after an octet that is no continuation, whatever came before it: a text can be
searched for a mark in its octets, and the mark is found there exactly where it stands in the text.
-/

namespace RawPost.Text

def isContinuation (b : UInt8) : Bool :=
  0x80 ≤ b && b ≤ 0xBF

/-- A state that waits for nothing but continuations. -/
def Awaits (state : Option Unfinished) : Prop :=
  ∀ u b, state = some u → u.accepts b = true → isContinuation b = true

theorem awaits_none : Awaits none := by
  intro u b hstate
  contradiction

theorem awaits_some (bits missing : Nat) {low high : UInt8}
    (hlow : 0x80 ≤ low) (hhigh : high ≤ 0xBF) :
    Awaits (some ⟨bits, missing, low, high⟩) := by
  intro u b hstate haccepts
  rw [Option.some.injEq] at hstate
  subst hstate
  simp only [Unfinished.accepts, Bool.and_eq_true, decide_eq_true_eq]
    at haccepts
  simp only [isContinuation, Bool.and_eq_true, decide_eq_true_eq]
  exact ⟨UInt8.le_trans hlow haccepts.1, UInt8.le_trans haccepts.2 hhigh⟩

theorem begin_awaits (b : UInt8) : Awaits (begin b).split.2 := by
  unfold begin
  split_ifs
  · exact awaits_none
  · exact awaits_none
  · exact awaits_some _ _ (by decide) (by decide)
  · exact awaits_some _ _ (by decide) (by decide)
  · exact awaits_some _ _ (by decide) (by decide)
  · exact awaits_some _ _ (by decide) (by decide)
  · exact awaits_some _ _ (by decide) (by decide)
  · exact awaits_some _ _ (by decide) (by decide)
  · exact awaits_some _ _ (by decide) (by decide)
  · exact awaits_none

theorem extend_awaits (u : Unfinished) (b : UInt8) :
    Awaits (u.extend b).split.2 := by
  unfold Unfinished.extend
  split_ifs
  · exact awaits_none
  · exact awaits_some _ _ (by decide) (by decide)

theorem advance_awaits (state : Option Unfinished) (b : UInt8) :
    Awaits (advance state b).2 := by
  cases state with
  | none => exact begin_awaits b
  | some u =>
      by_cases haccepts : u.accepts b = true
      · simp only [advance, if_pos haccepts]
        exact extend_awaits u b
      · simp only [advance, if_neg haccepts]
        exact begin_awaits b

theorem decodeFrom_cons (state : Option Unfinished) (b : UInt8)
    (rest : Octets) :
    decodeFrom state (b :: rest) =
      (advance state b).1 ++ decodeFrom (advance state b).2 rest := rfl

theorem decodeFrom_lead {state : Option Unfinished} (hstate : Awaits state)
    {b : UInt8} (hb : isContinuation b = false) (rest : Octets) :
    decodeFrom state (b :: rest) =
      finish state ++ decodeFrom none (b :: rest) := by
  cases state with
  | none => rfl
  | some u =>
      have hrefused : u.accepts b = false := by
        by_contra haccepts
        have hcontinues := hstate u b rfl (by simpa using haccepts)
        rw [hb] at hcontinues
        contradiction
      simp [decodeFrom, advance, hrefused, finish]

/-- The induction is on the octets before the lead octet; every step leaves a state that awaits. -/
theorem decodeFrom_append_lead {state : Option Unfinished}
    (hstate : Awaits state) (before : Octets) {b : UInt8}
    (hb : isContinuation b = false) (rest : Octets) :
    decodeFrom state (before ++ b :: rest) =
      decodeFrom state before ++ decodeFrom none (b :: rest) := by
  induction before generalizing state with
  | nil => exact decodeFrom_lead hstate hb rest
  | cons a before ih =>
      rw [List.cons_append, decodeFrom_cons, decodeFrom_cons,
        ih (advance_awaits state a), List.append_assoc]

/-! ## Marks in a text -/

theorem decodeFrom_encode_append (text : String) (rest : Octets) :
    decodeFrom none (encode text ++ rest) =
      text.toList ++ decodeFrom none rest := by
  unfold encode
  induction text.toList with
  | nil => rfl
  | cons c chars ih =>
      rw [List.flatMap_cons, List.append_assoc, decodeFrom_encodeChar, ih,
        List.cons_append]

/-- A mark that begins with a lead octet is found in the octets of a text only where it is in the text. -/
theorem infix_of_infix_encode {mark text : String} {b : UInt8}
    {marks : Octets} (hmark : encode mark = b :: marks)
    (hb : isContinuation b = false)
    (hfound : encode mark <:+: encode text) :
    mark.toList <:+: text.toList := by
  obtain ⟨before, after, hsplit⟩ := hfound
  have htext : decodeFrom none (encode text) = text.toList := by
    have happend := decodeFrom_encode_append text []
    simpa [decodeFrom, finish] using happend
  refine ⟨decodeFrom none before, decodeFrom none after, ?_⟩
  calc
    decodeFrom none before ++ mark.toList ++ decodeFrom none after =
        decodeFrom none before ++ decodeFrom none (encode mark ++ after) := by
          rw [decodeFrom_encode_append, List.append_assoc]
    _ = decodeFrom none (before ++ (encode mark ++ after)) := by
          rw [hmark, List.cons_append,
            decodeFrom_append_lead awaits_none before hb]
    _ = text.toList := by
          rw [← List.append_assoc, hsplit, htext]

/-! ## Strict decoding -/

/-- The text whose encoding octets are, if they are one. -/
def decode? (octets : Octets) : Option String :=
  if encode (decode octets) = octets then some (decode octets) else none

theorem decode?_eq_some_iff {octets : Octets} {text : String} :
    decode? octets = some text ↔ octets = encode text := by
  unfold decode?
  constructor
  · intro hdecode
    split at hdecode
    next hencode =>
      rw [Option.some.injEq] at hdecode
      rw [← hdecode, hencode]
    next => contradiction
  · intro hoctets
    rw [hoctets, decode_encode, if_pos rfl]

@[simp] theorem decode?_encode (text : String) :
    decode? (encode text) = some text :=
  decode?_eq_some_iff.mpr rfl

theorem mapM_decode?_eq_some_iff {lines : List Octets}
    {texts : List String} :
    lines.mapM decode? = some texts ↔ lines = texts.map encode := by
  induction lines generalizing texts with
  | nil =>
      cases texts with
      | nil => simp
      | cons text texts => simp
  | cons line lines ih =>
      rw [List.mapM_cons]
      constructor
      · intro hread
        simp only [Option.bind_eq_bind, Option.bind_eq_some_iff,
          Option.pure_def, Option.some.injEq] at hread
        obtain ⟨text, htext, rest, hrest, rfl⟩ := hread
        rw [List.map_cons, decode?_eq_some_iff.mp htext, ih.mp hrest]
      · intro hlines
        cases texts with
        | nil => contradiction
        | cons text texts =>
            rw [List.map_cons, List.cons.injEq] at hlines
            have htext := decode?_eq_some_iff.mpr hlines.1
            have hrest := ih.mpr hlines.2
            simp [htext, hrest]

end RawPost.Text
