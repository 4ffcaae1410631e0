import RawPost.Proofs.Draft

/-!
# The layout of a request

The parts of a request are put into its frame one behind another.  Putting a part replaces a slice of the
frame, and the slice has as many octets as the part: the size that was worked out beforehand leaves no
part too little room, so the frame never grows or shrinks, and the last part ends where the frame ends.

This is so of every draft that can be encoded at all.  One that cannot is refused before it has a frame.
-/

namespace RawPost.Request

open Text

variable {request : Request} {version : String}

/-! ## Slices -/

/-- The octets of a buffer between two positions. -/
def slice (buffer : Octets) (start stop : Nat) : Octets :=
  (buffer.take stop).drop start

/-- A buffer with other octets in the place of a slice; there may be more of them, or fewer. -/
def replaceSlice (buffer : Octets) (start stop : Nat) (octets : Octets) : Octets :=
  buffer.take start ++ octets ++ buffer.drop (max start stop)

/-- Octets go into a frame of this size, in the place of as many octets as there are of them. -/
structure PutsInPlace (size : Nat) (frame next : Frame) (octets : Octets) : Prop where
  length_eq : frame.octets.length = size
  octets_next : next.octets =
    replaceSlice frame.octets frame.position (frame.position + octets.length) octets
  length_slice :
    (slice frame.octets frame.position (frame.position + octets.length)).length =
      octets.length
  position_next : next.position = frame.position + octets.length
  length_next : next.octets.length = size

namespace Frame

@[simp] theorem length_octets (frame : Frame) :
    frame.octets.length = frame.position + frame.free.length := by
  rw [octets, List.length_append, position]

@[simp] theorem position_place (frame : Frame) (octets : Octets) :
    (frame.place octets).position = frame.position + octets.length := by
  rw [position, filled_place, List.length_append, position]

@[simp] theorem free_place (frame : Frame) (octets : Octets) :
    (frame.place octets).free = frame.free.drop octets.length := rfl

/-- The octets behind the filled ones are the only ones that are replaced. -/
theorem octets_place (frame : Frame) (octets : Octets) :
    (frame.place octets).octets =
      replaceSlice frame.octets frame.position (frame.position + octets.length) octets := by
  have hfront : frame.octets.take frame.position = frame.filled := List.take_left
  have hback : frame.octets.drop (frame.position + octets.length) =
      frame.free.drop octets.length := by
    rw [← List.drop_drop]
    congr 1
    exact List.drop_left
  rw [replaceSlice, Nat.max_eq_right (Nat.le_add_right _ _), hfront, hback,
    Frame.octets, filled_place, free_place]

theorem putsInPlace {frame : Frame} {octets : Octets}
    (hroom : octets.length ≤ frame.free.length) :
    PutsInPlace frame.octets.length frame (frame.place octets) octets := by
  constructor
  · rfl
  · exact frame.octets_place octets
  · simp only [slice, List.length_drop, List.length_take, length_octets]
    omega
  · exact frame.position_place octets
  · simp only [length_octets, position_place, free_place, List.length_drop]
    omega

end Frame

/-! ## The frame of a request -/

/-- What is still free is as long as all parts that are still to come. -/
theorem frameAfter_putsInPlace {before after : List String} {part : String}
    (hpieces : request.pieces version = before ++ part :: after) :
    PutsInPlace (request.size version) (request.frameAfter version before)
      ((request.frameAfter version before).place (encode part)) (encode part) := by
  have hsize : request.size version =
      (before.flatMap encode).length +
        ((encode part).length + (after.flatMap encode).length) := by
    rw [size_eq, hpieces, List.flatMap_append, List.flatMap_cons,
      List.length_append, List.length_append]
  have hposition := position_frameAfter request version before
  have hfree := length_free_frameAfter request version before
  have hlength : (request.frameAfter version before).octets.length =
      request.size version := by
    rw [Frame.length_octets, hposition, hfree]
    omega
  rw [← hlength]
  apply Frame.putsInPlace
  omega

theorem join_headerLines (headers : List String) :
    String.join (headers.flatMap fun header => [header, crlf]) =
      String.join (headers.map (· ++ crlf)) := by
  induction headers with
  | nil => rfl
  | cons header headers ih =>
      rw [List.flatMap_cons, String.join_append, ih, List.map_cons, String.join_cons]
      simp [String.join_cons]

theorem text_eq_lines (request : Request) (version : String) :
    request.text version =
      request.method ++ " " ++ (if request.path = "" then "/" else request.path) ++ " " ++
        version ++ "\r\n" ++
        "Host: " ++ request.host ++ ":" ++
        request.portText.getD (Number.integerText request.port) ++ "\r\n" ++
        String.join (request.headers.map (· ++ "\r\n")) ++ "\r\n" ++
        request.body.getD "" := by
  have hbody : String.join request.body.toList = request.body.getD "" := by
    cases request.body <;> simp [String.join_cons]
  rw [text, pieces, List.cons_append, String.join_cons, String.join_append,
    String.join_cons, join_headerLines, hbody, head, target, hostPort, crlf]
  simp only [String.isEmpty_iff, String.append_assoc]

/-! ## The layout of a draft -/

theorem codePoints_join (texts : List String) :
    codePoints (String.join texts) = texts.flatMap codePoints := by
  induction texts with
  | nil => rfl
  | cons text texts ih => rw [String.join_cons, codePoints_append, ih, List.flatMap_cons]

/-- The lines of a draft, before they are encoded. -/
def Draft.lines (draft : Draft) (version : CodePoints) : CodePoints :=
  draft.method ++ codePoints " " ++ (if draft.path = [] then codePoints "/" else draft.path) ++
    codePoints " " ++ version ++ codePoints "\r\n" ++
    codePoints "Host: " ++ draft.host ++ codePoints ":" ++
    draft.portText.getD (codePoints (Number.integerText draft.port)) ++ codePoints "\r\n" ++
    draft.headers.flatMap (· ++ codePoints "\r\n") ++ codePoints "\r\n" ++
    draft.body.getD []

theorem draft_lines (request : Request) (version : String) :
    request.draft.lines (codePoints version) = codePoints (request.text version) := by
  have hempty : request.draft.path = [] ↔ request.path = "" := codePoints_eq_nil_iff
  have hpath : (if request.draft.path = [] then codePoints "/" else request.draft.path) =
      codePoints (if request.path = "" then "/" else request.path) := by
    simp only [hempty]
    exact (apply_ite codePoints _ _ _).symm
  have hport : request.draft.portText.getD (codePoints (Number.integerText request.draft.port)) =
      codePoints (request.portText.getD (Number.integerText request.port)) := by
    rw [draft]
    cases request.portText <;> rfl
  have hheaders : request.draft.headers.flatMap (· ++ codePoints "\r\n") =
      codePoints (String.join (request.headers.map (· ++ "\r\n"))) := by
    simp only [draft, codePoints_join, List.flatMap_map, codePoints_append]
  have hbody : request.draft.body.getD [] = codePoints (request.body.getD "") := by
    rw [draft]
    cases request.body <;> rfl
  rw [Draft.lines, hpath, hport, hheaders, hbody, text_eq_lines]
  simp only [codePoints_append]
  rfl

/-- Each part of a request is put where it belongs, with those before it in place. -/
theorem putAll_pieces {before after : List CodePoints} {part : CodePoints}
    (hpieces : (request.pieces version).map codePoints = before ++ part :: after) :
    ∃ frame octets next, (Frame.blank (request.size version)).putAll before = .ok frame ∧
      encodePoints part = .ok octets ∧ frame.put part = .ok next ∧
      PutsInPlace (request.size version) frame next octets := by
  obtain ⟨front, back, hsplit, rfl, hback⟩ := List.map_eq_append_iff.mp hpieces
  obtain ⟨text, rest, rfl, rfl, -⟩ := List.map_eq_cons_iff.mp hback
  exact ⟨request.frameAfter version front, encode text, _, Frame.putAll_codePoints front _,
    encodePoints_codePoints text, Frame.put_codePoints _ text, frameAfter_putsInPlace hsplit⟩

/-- Every draft that can be encoded is put together, and no other one; never does a frame turn out to have
the wrong size.  Every part finds its slice of the frame, the frame keeps the size that was worked out
beforehand, and when it is full it holds the request line, the line of the host, the headers in their order,
an empty line, and the body. -/
theorem assemble_fillsFrame (draft : Draft) (version : CodePoints) :
    (∀ size position, draft.assemble version ≠ .error (.uneven size position)) ∧
      ((∃ octets, draft.assemble version = .ok octets) ↔ draft.IsEncodable version) ∧
      ∀ octets, draft.assemble version = .ok octets →
        draft.size version = .ok octets.length ∧
        encodePoints (draft.lines version) = .ok octets ∧
        ∃ pieces, draft.pieces version = .ok pieces ∧
          (∃ full, (Frame.blank octets.length).putAll pieces = .ok full ∧
            full.position = octets.length ∧ full.octets = octets) ∧
          ∀ before part after, pieces = before ++ part :: after →
            ∃ frame chunk next, (Frame.blank octets.length).putAll before = .ok frame ∧
              encodePoints part = .ok chunk ∧ frame.put part = .ok next ∧
              PutsInPlace octets.length frame next chunk := by
  refine ⟨fun size position => Draft.assemble_ne_uneven, ⟨?_, ?_⟩, ?_⟩
  · rintro ⟨octets, hoctets⟩
    exact .of_assemble hoctets
  · intro hencodable
    obtain ⟨request, versionText, rfl, rfl, hport⟩ := hencodable.exists_request
    exact ⟨_, assemble_eq hport versionText⟩
  · intro octets hoctets
    obtain ⟨request, versionText, rfl, rfl, hport⟩ :=
      (Draft.IsEncodable.of_assemble hoctets).exists_request
    have htext : encode (request.text versionText) = octets :=
      Except.ok.inj ((assemble_eq hport versionText).symm.trans hoctets)
    subst htext
    refine ⟨draft_size hport versionText, ?_, _, draft_pieces hport versionText, ?_, ?_⟩
    · rw [draft_lines, encodePoints_codePoints]
    · exact ⟨request.frameAfter versionText (request.pieces versionText),
        Frame.putAll_codePoints _ _, position_frameAfter_pieces request versionText,
        octets_frameAfter_pieces request versionText⟩
    · intro before part after hpieces
      exact putAll_pieces hpieces

/-- A header of six octets, though it has four characters, behind a head with a path of its own and a port
that was not given as a text. -/
theorem assemble_fillsFrame_of_header :
    let draft := Request.draft
      { method := "POST", host := "h", port := 80, path := "/é", body := some "é", headers := ["X: €"] }
    let version := codePoints "HTTP/2"
    draft.size version = .ok 41 ∧
      ∃ frame octets next,
        (Frame.blank 41).putAll [codePoints "POST /é HTTP/2\r\nHost: h:80\r\n"] = .ok frame ∧
        encodePoints (codePoints "X: €") = .ok octets ∧
        frame.put (codePoints "X: €") = .ok next ∧ PutsInPlace 41 frame next octets := by
  intro draft version
  have hsize : draft.size version = .ok 41 := by
    dsimp only [draft, version]
    rfl
  have hpieces : draft.pieces version =
      .ok ([codePoints "POST /é HTTP/2\r\nHost: h:80\r\n"] ++ codePoints "X: €" ::
        [codePoints "\r\n", codePoints "\r\n", codePoints "é"]) := by
    dsimp only [draft, version]
    rfl
  obtain ⟨-, hencodable, hframe⟩ := assemble_fillsFrame draft version
  obtain ⟨octets, hoctets⟩ := hencodable.mpr (.of_size hsize)
  obtain ⟨hlength, -, pieces, hfound, -, hput⟩ := hframe octets hoctets
  have hall : octets.length = 41 := Except.ok.inj (hlength.symm.trans hsize)
  rw [hall] at hput
  exact ⟨hsize, hput _ _ _ (Except.ok.inj (hfound.symm.trans hpieces))⟩

/-- A surrogate, and a number that has to be written but has too many digits, are refused. -/
theorem assemble_refuses :
    let body : Draft :=
      { method := codePoints "POST", host := codePoints "h", port := 80, path := codePoints "/",
        body := some [.surrogate 0x4FF] }
    let port : Draft :=
      { method := codePoints "POST", host := codePoints "h", port := 10 ^ 4300,
        path := codePoints "/" }
    body.assemble (codePoints "HTTP/2") =
        .error (.text { position := 0, first := 0x4FF, others := 0 }) ∧
      port.assemble (codePoints "HTTP/2") = .error .port ∧
      ¬ ∀ (draft : Draft) (version : CodePoints), ∃ octets, draft.assemble version = .ok octets := by
  intro body port
  have hbody : body.assemble (codePoints "HTTP/2") =
      .error (.text { position := 0, first := 0x4FF, others := 0 }) := by
    dsimp only [body]
    rfl
  have hlong : ¬ Number.IsWritable (10 ^ 4300) := by decide +kernel
  have hwritten : port.hostPort = .error .port := by
    simp only [Draft.hostPort, port, Number.writeInteger?, if_neg hlong]
  have hport : port.assemble (codePoints "HTTP/2") = .error .port := by
    rw [Draft.assemble, Draft.size, Draft.head, hwritten]
    rfl
  refine ⟨hbody, hport, fun hall => ?_⟩
  obtain ⟨octets, hoctets⟩ := hall body (codePoints "HTTP/2")
  rw [hbody] at hoctets
  cases hoctets

end RawPost.Request
