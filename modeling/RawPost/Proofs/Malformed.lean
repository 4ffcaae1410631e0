import Mathlib
import RawPost.Proofs.Display
import RawPost.Proofs.Program
import RawPost.Proofs.WellFormed

/-!
# What is shown of malformed octets

Where no character begins, the octets to be given up at once are as many as could begin a character, and at
least one.  This is a rule about the table of characters; the reader follows it with the bounds of the
octets that are still missing, which are what remains of the row that it is in.

So what is shown is determined by the table.  It leads back to the octets exactly if they are well-formed,
and two parts are shown one after the other if no character can reach from the first into the second.
-/

namespace RawPost

namespace Text

/-- The beginning of a character, or the whole of it. -/
def BeginsCharacter (octets : Octets) : Prop :=
  ∃ missing, IsCharacter (octets ++ missing)

/-- Octets that may be given up at once: as many as begin a character, or a single one. -/
def MayBeGivenUp (octets : Octets) : Prop :=
  octets ≠ [] ∧ (BeginsCharacter octets ∨ octets.length = 1)

/-- No character stands here, and no more octets than the part may be given up at once. -/
structure IsMaximalPart (part rest : Octets) : Prop where
  may : MayBeGivenUp part
  maximal : ∀ other, other <+: part ++ rest → MayBeGivenUp other →
    other.length ≤ part.length
  noCharacter : ∀ other, other <+: part ++ rest → ¬ IsCharacter other

/-- What is shown of octets: their characters, and one replacement character for each maximal part of what
is malformed. -/
inductive Shows : Octets → List Char → Prop where
  | nil : Shows [] []
  | character {c : Char} {rest : Octets} {shown : List Char} (hrest : Shows rest shown) :
      Shows (String.utf8EncodeChar c ++ rest) (c :: shown)
  | gap {part rest : Octets} {shown : List Char} (hpart : IsMaximalPart part rest)
      (hrest : Shows rest shown) : Shows (part ++ rest) (replacement :: shown)

theorem IsMaximalPart.unique {first second behindFirst behindSecond : Octets}
    (hfirst : IsMaximalPart first behindFirst) (hsecond : IsMaximalPart second behindSecond)
    (hsame : first ++ behindFirst = second ++ behindSecond) :
    first = second ∧ behindFirst = behindSecond := by
  apply List.append_inj hsame
  apply Nat.le_antisymm
  · apply hsecond.maximal first _ hfirst.may
    rw [← hsame]
    exact List.prefix_append _ _
  · apply hfirst.maximal second _ hsecond.may
    rw [hsame]
    exact List.prefix_append _ _

theorem IsCharacter.ne_nil {octets : Octets} (hcharacter : IsCharacter octets) :
    octets ≠ [] := by
  cases hcharacter with
  | mk hleads hrest => exact List.cons_ne_nil _ _

/-! ## The row that the reader is in -/

/-- The bounds of the octets that are still missing. -/
def Unfinished.remaining (u : Unfinished) : List Bounds :=
  ⟨u.low, u.high⟩ :: List.replicate (u.missing - 1) anyContinuation

/-- An octet that is a character by itself begins the row that ends there, an octet that leaves something
unfinished begins the row of what is missing, and no other octet begins a row. -/
theorem leads_iff_begin {b : UInt8} {others : List Bounds} :
    Leads b others ↔
      match begin b with
      | .whole _ => b.toNat < 0x80 ∧ others = []
      | .unfinished u => others = u.remaining := by
  rw [leads_iff]
  unfold begin
  simp only [UInt8.lt_iff_toNat_lt, ← UInt8.toNat_inj, UInt8.reduceToNat]
  have hlt := b.toNat_lt
  split_ifs
  all_goals
    simp only [Unfinished.remaining, anyContinuation, Nat.reduceSub, List.replicate]
    grind

theorem leads_of_unfinished {b : UInt8} {u : Unfinished}
    (hbegin : begin b = .unfinished u) {others : List Bounds} :
    Leads b others ↔ others = u.remaining := by
  rw [leads_iff_begin, hbegin]

theorem leads_of_whole {b : UInt8} {c : Char} (hbegin : begin b = .whole c)
    {others : List Bounds} : Leads b others ↔ b.toNat < 0x80 ∧ others = [] := by
  rw [leads_iff_begin, hbegin]

theorem remaining_extend {u v : Unfinished} {b : UInt8}
    (hextend : u.extend b = .unfinished v) :
    u.remaining = ⟨u.low, u.high⟩ :: v.remaining := by
  unfold Unfinished.extend at hextend
  split_ifs at hextend with hmissing
  rw [Begun.unfinished.injEq] at hextend
  have hsucc : u.missing - 1 = (u.missing - 1 - 1) + 1 := by omega
  rw [Unfinished.remaining, hsucc, List.replicate_succ, ← hextend]
  rfl

theorem remaining_of_whole {u : Unfinished} {b : UInt8} {c : Char}
    (hextend : u.extend b = .whole c) : u.remaining = [⟨u.low, u.high⟩] := by
  unfold Unfinished.extend at hextend
  split_ifs at hextend with hmissing
  rw [Unfinished.remaining, Nat.sub_eq_zero_of_le hmissing, List.replicate_zero]

theorem admits_iff_accepts {u : Unfinished} {b : UInt8} :
    Bounds.Admits ⟨u.low, u.high⟩ b ↔ u.accepts b = true := by
  simp [Bounds.Admits, Unfinished.accepts]

/-- In the middle of a row, either the octets are the rest of the row, or some of them fit until one does
not, and what was begun is given up there. -/
theorem decodeFrom_some (u : Unfinished) (octets : Octets) :
    (∃ c more rest, octets = more ++ rest ∧ Fits u.remaining more ∧
      decodeFrom (some u) octets = c :: decodeFrom none rest) ∨
    (∃ met bounds left more rest, octets = more ++ rest ∧
      u.remaining = met ++ bounds :: left ∧ Fits met more ∧
      (∀ b ∈ rest.head?, ¬ bounds.Admits b) ∧
      decodeFrom (some u) octets = replacement :: decodeFrom none rest) := by
  induction octets generalizing u with
  | nil =>
      right
      refine ⟨[], _, _, [], [], rfl, rfl, .nil, ?_, rfl⟩
      intro b hb
      contradiction
  | cons b octets ih =>
      by_cases haccepts : u.accepts b = true
      · have hadmits := admits_iff_accepts.mpr haccepts
        cases hextend : u.extend b with
        | whole c =>
            left
            refine ⟨c, [b], octets, rfl, ?_, ?_⟩
            · rw [remaining_of_whole hextend]
              exact .cons hadmits .nil
            · simp [decodeFrom, advance, haccepts, hextend, Begun.split]
        | unfinished v =>
            have hstep : decodeFrom (some u) (b :: octets) = decodeFrom (some v) octets := by
              simp [decodeFrom, advance, haccepts, hextend, Begun.split]
            rw [hstep, remaining_extend hextend]
            rcases ih v with ⟨c, more, rest, rfl, hfits, hdecode⟩ |
              ⟨met, bounds, left, more, rest, rfl, hremaining, hfits, hnext, hdecode⟩
            · exact .inl ⟨c, b :: more, rest, rfl, .cons hadmits hfits, hdecode⟩
            · right
              refine ⟨_ :: met, bounds, left, b :: more, rest, rfl, ?_, .cons hadmits hfits,
                hnext, hdecode⟩
              rw [hremaining, List.cons_append]
      · right
        refine ⟨[], _, _, [], b :: octets, rfl, rfl, .nil, ?_, ?_⟩
        · intro b' hb'
          obtain rfl : b = b' := by simpa using hb'
          rwa [admits_iff_accepts]
        · simp [decodeFrom, advance, haccepts]

/-! ## What is given up at once -/

theorem low_le_high : ∀ row ∈ characterRows, ∀ bounds ∈ row, bounds.low ≤ bounds.high := by
  decide

/-- Every beginning of a row can be completed. -/
theorem beginsCharacter_of_fits {b : UInt8} {met left : List Bounds} {more : Octets}
    (hleads : Leads b (met ++ left)) (hfits : Fits met more) :
    BeginsCharacter (b :: more) := by
  have hleft : Fits left (left.map Bounds.low) := by
    obtain ⟨first, hrow, -⟩ := hleads
    rw [Fits, List.forall₂_map_right_iff, List.forall₂_same]
    intro bounds hbounds
    exact ⟨UInt8.le_refl _, low_le_high _ hrow bounds (by simp [hbounds])⟩
  exact ⟨left.map Bounds.low, .mk hleads (List.rel_append hfits hleft)⟩

/-- Octets that begin a row do not reach beyond the first octet that does not fit in it. -/
theorem length_le_of_fits {met left : List Bounds} {bounds : Bounds}
    {more rest begun missing : Octets} (hfits : Fits met more)
    (hnext : ∀ b ∈ rest.head?, ¬ bounds.Admits b) (hbegun : begun <+: more ++ rest)
    (hrow : Fits (met ++ bounds :: left) (begun ++ missing)) :
    begun.length ≤ more.length := by
  rcases List.prefix_or_prefix_of_prefix hbegun (List.prefix_append more rest) with
    hshort | ⟨beyond, rfl⟩
  · exact hshort.length_le
  · cases beyond with
    | nil => simp
    | cons b beyond =>
        obtain ⟨tail, rfl⟩ := (List.prefix_append_right_inj more).mp hbegun
        rw [List.append_assoc, List.cons_append] at hrow
        have hdrop := List.forall₂_drop_append _ _ _ hrow
        rw [List.drop_left' hfits.length_eq] at hdrop
        exact absurd (List.forall₂_cons.mp hdrop).1 (hnext b rfl)

/-- Octets that stand at an octet and belong to a character are in a row that this octet begins. -/
theorem exists_row {b : UInt8} {rest begun missing : Octets} (hne : begun ≠ [])
    (hbegun : begun <+: b :: rest) (hcharacter : IsCharacter (begun ++ missing)) :
    ∃ others more, begun = b :: more ∧ more <+: rest ∧ Leads b others ∧
      Fits others (more ++ missing) := by
  obtain ⟨first, more, rfl⟩ := List.exists_cons_of_ne_nil hne
  obtain ⟨rfl, hmore⟩ := List.cons_prefix_cons.mp hbegun
  cases hcharacter with
  | mk hleads hrow => exact ⟨_, more, rfl, hmore, hleads, hrow⟩

/-- An octet that begins no row is given up alone. -/
theorem isMaximalPart_singleton {b : UInt8} (hno : ∀ others, ¬ Leads b others)
    (rest : Octets) : IsMaximalPart [b] rest := by
  constructor
  · exact ⟨List.cons_ne_nil _ _, .inr rfl⟩
  · rintro other hother ⟨hne, ⟨missing, hcharacter⟩ | hone⟩
    · obtain ⟨others, _, -, -, hleads, -⟩ := exists_row hne hother hcharacter
      exact absurd hleads (hno others)
    · exact hone.le
  · intro other hother hcharacter
    have hne := hcharacter.ne_nil
    rw [← List.append_nil other] at hcharacter
    obtain ⟨others, _, -, -, hleads, -⟩ := exists_row hne hother hcharacter
    exact hno others hleads

/-- The beginning of the only row of an octet is given up as a whole if the next octet does not fit. -/
theorem isMaximalPart_of_fits {b : UInt8} {met left : List Bounds} {bounds : Bounds}
    {more rest : Octets} (hleads : ∀ others, Leads b others ↔ others = met ++ bounds :: left)
    (hfits : Fits met more) (hnext : ∀ b ∈ rest.head?, ¬ bounds.Admits b) :
    IsMaximalPart (b :: more) rest := by
  constructor
  · exact ⟨List.cons_ne_nil _ _, .inl (beginsCharacter_of_fits ((hleads _).mpr rfl) hfits)⟩
  · rintro other hother ⟨hne, ⟨missing, hcharacter⟩ | hone⟩
    · obtain ⟨others, begun, rfl, hbegun, hothers, hrow⟩ := exists_row hne hother hcharacter
      rw [(hleads others).mp hothers] at hrow
      exact Nat.succ_le_succ (length_le_of_fits hfits hnext hbegun hrow)
    · rw [hone]
      exact Nat.succ_le_succ (Nat.zero_le _)
  · intro other hother hcharacter
    have hne := hcharacter.ne_nil
    rw [← List.append_nil other] at hcharacter
    obtain ⟨others, begun, rfl, hbegun, hothers, hrow⟩ := exists_row hne hother hcharacter
    rw [(hleads others).mp hothers] at hrow
    have hshort := length_le_of_fits hfits hnext hbegun hrow
    -- The whole row is longer than what has been met of it.
    have hmet := hfits.length_eq
    have hlength := hrow.length_eq
    simp only [List.length_append, List.length_cons, List.length_nil] at hlength
    omega

theorem exists_maximalPart {octets : Octets} (hne : octets ≠ [])
    (hno : ∀ other, other <+: octets → ¬ IsCharacter other) :
    ∃ part rest, octets = part ++ rest ∧ IsMaximalPart part rest ∧
      decodeFrom none octets = replacement :: decodeFrom none rest := by
  obtain ⟨b, octets, rfl⟩ := List.exists_cons_of_ne_nil hne
  cases hbegin : begin b with
  | whole c =>
      have hbeyond : ¬ b.toNat < 0x80 := by
        intro hb
        apply hno [b] (List.prefix_append [b] octets)
        exact .mk ((leads_of_whole hbegin).mpr ⟨hb, rfl⟩) .nil
      obtain rfl : c = replacement := by
        rcases begin_eq_whole hbegin with hb | hc
        · exact absurd (UInt8.lt_iff_toNat_lt.mp hb) hbeyond
        · exact hc
      have hnone (others : List Bounds) : ¬ Leads b others := by
        rw [leads_of_whole hbegin]
        exact fun hleads => hbeyond hleads.1
      refine ⟨[b], octets, rfl, isMaximalPart_singleton hnone octets, ?_⟩
      simp [decodeFrom, advance, hbegin, Begun.split]
  | unfinished u =>
      rw [decodeFrom_begin hbegin]
      rcases decodeFrom_some u octets with ⟨c, more, rest, rfl, hfits, -⟩ |
        ⟨met, bounds, left, more, rest, rfl, hremaining, hfits, hnext, hdecode⟩
      · refine absurd ?_ (hno (b :: more) (List.prefix_append (b :: more) rest))
        exact .mk ((leads_of_unfinished hbegin).mpr rfl) hfits
      · have hleads (others : List Bounds) : Leads b others ↔ others = met ++ bounds :: left := by
          rw [leads_of_unfinished hbegin, hremaining]
        exact ⟨b :: more, rest, rfl, isMaximalPart_of_fits hleads hfits hnext, hdecode⟩

/-! ## Decoding shows what the table says -/

/-- The induction is on the number of octets; a character and a maximal part both take some of them away. -/
theorem shows_decodeFrom (octets : Octets) : Shows octets (decodeFrom none octets) := by
  have hshorter {part rest : Octets} (hpart : part ≠ []) :
      rest.length < (part ++ rest).length := by
    rw [List.length_append]
    exact Nat.lt_add_of_pos_left (List.length_pos_iff.mpr hpart)
  induction hlength : octets.length using Nat.strong_induction_on generalizing octets with
  | _ length ih =>
      subst hlength
      by_cases hcharacter : ∃ other, other <+: octets ∧ IsCharacter other
      · obtain ⟨other, ⟨rest, rfl⟩, hother⟩ := hcharacter
        have hrest := ih _ (hshorter hother.ne_nil) rest rfl
        obtain ⟨c, rfl⟩ := isCharacter_iff.mp hother
        rw [decodeFrom_encodeChar]
        exact .character hrest
      · by_cases hne : octets = []
        · rw [hne]
          exact .nil
        · have hno (other : Octets) (hother : other <+: octets) : ¬ IsCharacter other :=
            fun hstands => hcharacter ⟨other, hother, hstands⟩
          obtain ⟨part, rest, rfl, hpart, hdecode⟩ := exists_maximalPart hne hno
          rw [hdecode]
          exact .gap hpart (ih _ (hshorter hpart.may.1) rest rfl)

theorem shows_iff {octets : Octets} {shown : List Char} :
    Shows octets shown ↔ decodeFrom none octets = shown := by
  constructor
  · intro hshows
    induction hshows with
    | nil => rfl
    | character hrest ih => rw [decodeFrom_encodeChar, ih]
    | @gap part rest shown hpart hrest ih =>
        have hne : part ++ rest ≠ [] := by simp [hpart.may.1]
        obtain ⟨other, behind, hsame, hother, hdecode⟩ :=
          exists_maximalPart hne hpart.noCharacter
        obtain ⟨-, rfl⟩ := hpart.unique hother hsame
        rw [hdecode, ih]
  · rintro rfl
    exact shows_decodeFrom octets

/-! ## What is shown of two parts -/

theorem decode_append {first second : Octets}
    (hparts : WellFormed first ∨ second = [] ∨
      ∀ b ∈ second.head?, isContinuation b = false) :
    decode (first ++ second) = decode first ++ decode second := by
  have hchars : decodeFrom none (first ++ second) =
      decodeFrom none first ++ decodeFrom none second := by
    rcases hparts with hformed | rfl | hlead
    · obtain ⟨text, rfl⟩ := wellFormed_iff.mp hformed
      have hfirst := decodeFrom_encode_append text []
      rw [List.append_nil, decodeFrom, finish, List.append_nil] at hfirst
      rw [decodeFrom_encode_append, hfirst]
    · rw [List.append_nil, decodeFrom, finish, List.append_nil]
    · cases second with
      | nil => rw [List.append_nil, decodeFrom, finish, List.append_nil]
      | cons b second => exact decodeFrom_append_lead awaits_none first (hlead b rfl) second
  rw [decode, decode, decode, hchars, String.ofList_append]

end Text

namespace Program

open Text

/-- A request and a response are shown by the characters of their octets, with one replacement character for
each maximal part that is malformed.  This loses nothing of octets exactly if they are well-formed, and what
is malformed in one part changes nothing of the next one where that begins with a character. -/
theorem shown_octets_lossless_and_local [Memory] :
    (∀ octets shown, Shows octets shown ↔ decode octets = String.ofList shown) ∧
    (∀ octets, Request.display octets = "Request:\n" ++ decode octets ++ "\n") ∧
    (∀ texts environment layer arguments settings request peer,
      Asks texts environment layer arguments settings request →
        let outcome := run texts environment peer
        outcome.output = Request.display (encode (request.text settings.version)) ++
          if outcome.ending = .returned 0 ∧ settings.printResponse = true then
            decode outcome.trace.delivered
          else
            "") ∧
    (∀ octets, encode (decode octets) = octets ↔ WellFormed octets) ∧
    ∀ first second,
      (WellFormed first ∨ second = [] ∨ ∀ b ∈ second.head?, isContinuation b = false) →
        decode (first ++ second) = decode first ++ decode second := by
  refine ⟨?_, fun _ => rfl, ?_, fun _ => encode_decode_eq_iff, fun _ _ => decode_append⟩
  · intro octets shown
    rw [shows_iff, decode, String.ofList_inj]
  · intro texts environment layer arguments settings request peer hasks
    simp only [hasks.run_eq peer]
    exact exchange_output _ _ _ _

/-- A sign that is cut behind its second octet, and a response that ends behind a lead octet. -/
theorem shown_octets_of_cut_sign :
    decode ([0xE2, 0x82] ++ [0xC3, 0xA9]) = "\uFFFDé" ∧
    (run ["POST", "h", "80", "/", "--print-response"] []
      { incoming := [.ok [0x41, 0xE2], .ok []] }).output =
        Request.display (encode "POST / HTTP/2\r\nHost: h:80\r\n\r\n") ++ "A\uFFFD" := by
  constructor
  · have hlead : ∀ b ∈ ([0xC3, 0xA9] : Octets).head?, isContinuation b = false := by
      simp [isContinuation]
    rw [shown_octets_lossless_and_local.2.2.2.2 _ _ (.inr (.inr hlead))]
    decide
  · have hasks : Asks ["POST", "h", "80", "/", "--print-response"] []
        { printResponse := some true }
        ⟨some "POST", some "h", some "80", some "/", none, []⟩
        { Settings.defaults with printResponse := true }
        { method := "POST", host := "h", port := 80, path := "/", portText := some "80" } :=
      ⟨rfl, rfl, rfl, rfl, _, Request.assemble_eq (by simp) _⟩
    have htext : Request.text { method := "POST", host := "h", port := 80, path := "/",
                                portText := some "80" } Settings.defaults.version =
        "POST / HTTP/2\r\nHost: h:80\r\n\r\n" := by
      decide
    have hending : (run ["POST", "h", "80", "/", "--print-response"] []
        { incoming := [.ok [0x41, 0xE2], .ok []] }).ending = .returned 0 := by
      cbv
    have hdelivered : (run ["POST", "h", "80", "/", "--print-response"] []
        { incoming := [.ok [0x41, 0xE2], .ok []] }).trace.delivered = [0x41, 0xE2] := by
      cbv
    have hshown : decode [0x41, 0xE2] = "A\uFFFD" := by
      decide
    have houtput := shown_octets_lossless_and_local.2.2.1 _ _ _ _ _ _
      { incoming := [.ok [0x41, 0xE2], .ok []] } hasks
    simp only [hending, hdelivered, htext, hshown, and_true, if_true] at houtput
    exact houtput

end Program

end RawPost
