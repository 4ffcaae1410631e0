import RawPost.Proofs.Layout

/-!
# The text that shows a request

The octets of a request are shown by decoding them, and decoding shows a replacement character wherever it
has to give something up.  Here the gaps are told apart from the replacement characters that a text has of
its own: what is shown for a gap is no character that was read.

A text that has been encoded is read without gaps.  The octets of each of its characters show that
character alone; had there been a gap, the character would be a replacement character itself, and that one is
read like any other.  So what is shown of a request is its text as it was before it was encoded, and the
octets can be told from it.
-/

namespace RawPost

namespace Text

/-! ## Gaps -/

/-- The characters that are read, with a gap wherever a part of the octets is given up. -/
abbrev GappedText := List (Option Char)

/-- A gap is shown as a replacement character. -/
def GappedText.shown (text : GappedText) : List Char :=
  text.map (·.getD replacement)

theorem GappedText.shown_append (first second : GappedText) :
    GappedText.shown (first ++ second) = first.shown ++ second.shown :=
  List.map_append

/-- What is read at a lead octet; one that begins no character is given up. -/
def readLead (b : UInt8) : GappedText × Option Unfinished :=
  match begin b with
  | .whole c => ([if b < 0x80 then some c else none], none)
  | .unfinished u => ([], some u)

def readOne (state : Option Unfinished) (b : UInt8) : GappedText × Option Unfinished :=
  match state with
  | none => readLead b
  | some u =>
    if u.accepts b then
      match u.extend b with
      | .whole c => ([some c], none)
      | .unfinished v => ([], some v)
    else
      (none :: (readLead b).1, (readLead b).2)

/-- What is unfinished when the octets end is given up. -/
def readEnd : Option Unfinished → GappedText
  | none => []
  | some _ => [none]

def readFrom (state : Option Unfinished) : Octets → GappedText
  | [] => readEnd state
  | b :: rest => (readOne state b).1 ++ readFrom (readOne state b).2 rest

/-- What is read before the octets end, and what is unfinished then. -/
def readWithin (state : Option Unfinished) : Octets → GappedText × Option Unfinished
  | [] => ([], state)
  | b :: rest =>
    ((readOne state b).1 ++ (readWithin (readOne state b).2 rest).1,
      (readWithin (readOne state b).2 rest).2)

theorem begin_eq_whole {b : UInt8} {c : Char} (hbegin : begin b = .whole c) :
    b < 0x80 ∨ c = replacement := by
  by_cases hb : b < 0x80
  · exact .inl hb
  · right
    rw [begin, if_neg hb] at hbegin
    split_ifs at hbegin <;> simpa [eq_comm] using hbegin

theorem split_begin (b : UInt8) :
    (begin b).split = ((readLead b).1.shown, (readLead b).2) := by
  unfold readLead
  cases hbegin : begin b with
  | whole c =>
      have hshown : (if b < 0x80 then some c else none).getD replacement = c := by
        rcases begin_eq_whole hbegin with hb | rfl
        · rw [if_pos hb, Option.getD_some]
        · split <;> rfl
      simp [Begun.split, GappedText.shown, hshown]
  | unfinished u => rfl

theorem advance_eq (state : Option Unfinished) (b : UInt8) :
    advance state b = ((readOne state b).1.shown, (readOne state b).2) := by
  cases state with
  | none => exact split_begin b
  | some u =>
      by_cases haccepts : u.accepts b = true
      · simp only [advance, readOne, if_pos haccepts]
        cases u.extend b <;> rfl
      · simp only [advance, readOne, if_neg haccepts, split_begin]
        rfl

/-- Decoding shows what is read, with a replacement character in every gap. -/
theorem decodeFrom_eq_shown (state : Option Unfinished) (octets : Octets) :
    decodeFrom state octets = (readFrom state octets).shown := by
  induction octets generalizing state with
  | nil => cases state <;> rfl
  | cons b rest ih =>
      rw [readFrom, GappedText.shown_append, ← ih, decodeFrom, advance_eq]

theorem readFrom_append (state : Option Unfinished) (first second : Octets) :
    readFrom state (first ++ second) =
      (readWithin state first).1 ++ readFrom (readWithin state first).2 second := by
  induction first generalizing state with
  | nil => rfl
  | cons b first ih =>
      rw [List.cons_append, readFrom, ih, readWithin, List.append_assoc]

/-! ## Encoded texts -/

/-- One character is shown, so a gap could only be shown as this character. -/
theorem readFrom_encodeChar (c : Char) :
    readFrom none (String.utf8EncodeChar c) = [some c] := by
  have hshown : (readFrom none (String.utf8EncodeChar c)).shown = [c] := by
    have hdecode := decodeFrom_encodeChar c []
    rw [List.append_nil, decodeFrom_eq_shown] at hdecode
    exact hdecode
  obtain ⟨item, hread, hitem⟩ := List.map_eq_singleton_iff.mp hshown
  rw [hread]
  cases item with
  | some d => rw [← hitem, Option.getD_some]
  | none =>
      rw [Option.getD_none] at hitem
      rw [← hitem] at hread
      have hown : readFrom none (String.utf8EncodeChar replacement) = [some replacement] := rfl
      rw [hown] at hread
      contradiction

theorem readWithin_encodeChar (c : Char) :
    readWithin none (String.utf8EncodeChar c) = ([some c], none) := by
  have hread := readFrom_append none (String.utf8EncodeChar c) []
  rw [List.append_nil, readFrom_encodeChar] at hread
  rw [Prod.ext_iff]
  cases hstate : (readWithin none (String.utf8EncodeChar c)).2 with
  | none =>
      rw [hstate, readFrom, readEnd, List.append_nil] at hread
      exact ⟨hread.symm, rfl⟩
  | some u =>
      have hlast := congrArg List.getLast? hread
      rw [hstate, readFrom, readEnd, List.getLast?_append] at hlast
      simp at hlast

theorem readFrom_encode (text : String) :
    readFrom none (encode text) = text.toList.map some := by
  unfold encode
  induction text.toList with
  | nil => rfl
  | cons c chars ih =>
      rw [List.flatMap_cons, readFrom_append, readWithin_encodeChar, ih]
      rfl

theorem encode_injective : Function.Injective encode :=
  Function.LeftInverse.injective decode_encode

end Text

namespace Request

open Text

theorem display_encode (text : String) :
    display (encode text) = "Request:\n" ++ text ++ "\n" := by
  rw [display, decode_encode]

/-- Decoding commutes with putting the parts together, wherever one stops. -/
theorem decode_filled_frameAfter (request : Request) (version : String) (parts : List String) :
    decode (request.frameAfter version parts).filled = String.join parts := by
  rw [filled_frameAfter, ← encode_join, decode_encode]

theorem display_encode_inj {first second : String} :
    display (encode first) = display (encode second) ↔ encode first = encode second := by
  rw [display_encode, display_encode, encode_injective.eq_iff]
  constructor
  · intro hdisplay
    rw [String.append_left_inj, String.append_right_inj] at hdisplay
    exact hdisplay
  · rintro rfl
    rfl

/-- What is shown of a request is its text as it was before it was encoded.  A request is put together unless
its port has to be written and has too many digits; two of them are shown alike only if they have the same
octets. -/
theorem display_assemble (request : Request) (version : String)
    (hport : request.portText = none → Number.IsWritable request.port) :
    let lines :=
      request.method ++ " " ++ (if request.path = "" then "/" else request.path) ++ " " ++
        version ++ "\r\n" ++
        "Host: " ++ request.host ++ ":" ++
        request.portText.getD (Number.integerText request.port) ++ "\r\n" ++
        String.join (request.headers.map (· ++ "\r\n")) ++ "\r\n" ++
        request.body.getD ""
    ∃ octets, request.assemble version = .ok octets ∧
      display octets = "Request:\n" ++ lines ++ "\n" ∧
      encode lines = octets ∧
      (decode octets).toList = (readFrom none octets).shown ∧ none ∉ readFrom none octets ∧
      (∀ parts, decode (request.frameAfter version parts).filled = String.join parts) ∧
      ∀ (other : Request) (otherVersion : String) (otherOctets : Octets),
        other.assemble otherVersion = .ok otherOctets →
        (display otherOctets = display octets ↔ otherOctets = octets) := by
  intro lines
  have hlines : request.text version = lines := text_eq_lines request version
  refine ⟨encode lines, ?_, display_encode lines, rfl, ?_, ?_,
    decode_filled_frameAfter request version, ?_⟩
  · rw [← hlines]
    exact assemble_eq hport version
  · rw [decode, String.toList_ofList, decodeFrom_eq_shown]
  · simp [readFrom_encode]
  · intro other otherVersion otherOctets hother
    rw [octets_of_assemble hother]
    exact display_encode_inj

/-- A replacement character and one beyond the basic plane are shown as they are, and no port was given. -/
theorem display_assemble_of_replacement :
    let request : Request :=
      { method := "POST", host := "h", port := 80, path := "/\x00", body := some "\uFFFD𝄞" }
    ∃ octets, request.assemble "HTTP/2" = .ok octets ∧
      display octets =
        "Request:\nPOST /\x00 HTTP/2\r\nHost: h:80\r\n\r\n\uFFFD𝄞\n" := by
  intro request
  have hport : request.portText = none → Number.IsWritable request.port := fun _ => by decide
  obtain ⟨octets, hoctets, hdisplay, -⟩ := display_assemble request "HTTP/2" hport
  refine ⟨octets, hoctets, hdisplay.trans ?_⟩
  decide

end Request

end RawPost
