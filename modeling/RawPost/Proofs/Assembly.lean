import RawPost.Proofs.Utf8
import RawPost.Request.Assembly
import Mathlib.Data.List.TakeWhile

/-!
# The assembled request

The size that is worked out beforehand is the size of the encoded text of the request, so the parts fill
the frame exactly.  Texts of characters can all be encoded, and a port that was given needs no writing: a
request is put together unless its port is a number that cannot be written, and its octets are its text.
-/

namespace RawPost

namespace Text

/-! ## Texts of characters -/

/-- No surrogate stands in a text. -/
def IsPlain (points : CodePoints) : Prop :=
  ∀ point ∈ points, point.isSurrogate = false

theorem isPlain_codePoints (text : String) : IsPlain (codePoints text) := by
  intro point hmem
  obtain ⟨c, -, rfl⟩ := List.mem_map.mp hmem
  rfl

@[simp] theorem codePoints_append (first second : String) :
    codePoints (first ++ second) = codePoints first ++ codePoints second := by
  rw [codePoints, String.toList_append, List.map_append]
  rfl

theorem codePoints_eq_nil_iff {text : String} : codePoints text = [] ↔ text = "" := by
  rw [codePoints, List.map_eq_nil_iff, String.toList_eq_nil_iff]

theorem surrogates?_eq_none_iff {points : CodePoints} :
    surrogates? points = none ↔ IsPlain points := by
  have hplain : IsPlain points ↔ points.dropWhile (!·.isSurrogate) = [] := by
    simp only [IsPlain, List.dropWhile_eq_nil_iff, Bool.not_eq_true']
  rw [hplain, surrogates?]
  cases hrest : points.dropWhile (!·.isSurrogate) with
  | nil => simp
  | cons point rest =>
      have hfirst := List.head?_dropWhile_not (!·.isSurrogate) points
      rw [hrest] at hfirst
      cases point with
      | character c => simp [CodePoint.isSurrogate] at hfirst
      | surrogate place => simp

theorem encodePoints_codePoints (text : String) :
    encodePoints (codePoints text) = .ok (encode text) := by
  have hnone := surrogates?_eq_none_iff.mpr (isPlain_codePoints text)
  simp only [encodePoints, hnone]
  rw [codePoints, List.flatMap_map]
  rfl

end Text

namespace Request

open Text

variable {request : Request}

theorem encoded_codePoints (text : String) :
    encoded (codePoints text) = .ok (encode text) := by
  rw [encoded, encodePoints_codePoints]
  rfl

theorem encodedLength_codePoints (text : String) :
    encodedLength (codePoints text) = .ok (encode text).length := by
  rw [encodedLength, encoded_codePoints]
  rfl

/-- What comes next in a sequence goes on with the result so far. -/
theorem ok_bind {ε α β : Type} (a : α) (next : α → Except ε β) :
    (Except.ok a >>= next) = next a := rfl

/-! ## Frames -/

namespace Frame

/-- A frame with the octets of more texts in place. -/
def placeAll (frame : Frame) (parts : List String) : Frame :=
  parts.foldl (fun frame part => frame.place (encode part)) frame

theorem put_codePoints (frame : Frame) (part : String) :
    frame.put (codePoints part) = .ok (frame.place (encode part)) := by
  rw [put, encoded_codePoints]
  rfl

theorem putAll_codePoints (parts : List String) (frame : Frame) :
    frame.putAll (parts.map codePoints) = .ok (frame.placeAll parts) := by
  induction parts generalizing frame with
  | nil => rfl
  | cons part parts ih =>
      rw [putAll, List.map_cons, List.foldlM_cons, put_codePoints]
      exact ih (frame.place (encode part))

theorem filled_placeAll (parts : List String) (frame : Frame) :
    (frame.placeAll parts).filled = frame.filled ++ parts.flatMap encode := by
  induction parts generalizing frame with
  | nil => simp [placeAll]
  | cons part parts ih =>
      have hrest : frame.placeAll (part :: parts) =
          (frame.place (encode part)).placeAll parts := rfl
      rw [hrest, ih, filled_place, List.flatMap_cons, List.append_assoc]

theorem free_placeAll (parts : List String) (frame : Frame) :
    (frame.placeAll parts).free = frame.free.drop (parts.flatMap encode).length := by
  induction parts generalizing frame with
  | nil => simp [placeAll]
  | cons part parts ih =>
      have hrest : frame.placeAll (part :: parts) =
          (frame.place (encode part)).placeAll parts := rfl
      rw [hrest, ih, List.flatMap_cons, List.length_append, place, List.drop_drop]

end Frame

/-! ## The frame of a request -/

theorem size_eq (request : Request) (version : String) :
    request.size version = ((request.pieces version).flatMap encode).length := by
  rw [size, text, encode_join]

/-- The frame with the first parts of a request in place. -/
def frameAfter (request : Request) (version : String) (parts : List String) : Frame :=
  (Frame.blank (request.size version)).placeAll parts

variable {version : String}

theorem filled_frameAfter (parts : List String) :
    (request.frameAfter version parts).filled = parts.flatMap encode := by
  have hblank : (Frame.blank (request.size version)).filled = [] := rfl
  rw [frameAfter, Frame.filled_placeAll, hblank, List.nil_append]

theorem position_frameAfter (request : Request) (version : String)
    (parts : List String) :
    (request.frameAfter version parts).position = (parts.flatMap encode).length := by
  rw [Frame.position, filled_frameAfter]

theorem length_free_frameAfter (request : Request) (version : String)
    (parts : List String) :
    (request.frameAfter version parts).free.length =
      request.size version - (parts.flatMap encode).length := by
  rw [frameAfter, Frame.free_placeAll, List.length_drop, Frame.blank,
    List.length_replicate]

/-- The last part ends where the frame ends. -/
theorem position_frameAfter_pieces (request : Request) (version : String) :
    (request.frameAfter version (request.pieces version)).position =
      request.size version := by
  rw [position_frameAfter, size_eq]

theorem octets_frameAfter_pieces (request : Request) (version : String) :
    (request.frameAfter version (request.pieces version)).octets =
      encode (request.text version) := by
  have hfree : (request.frameAfter version (request.pieces version)).free = [] := by
    rw [← List.length_eq_zero_iff, length_free_frameAfter, size_eq, Nat.sub_self]
  rw [Frame.octets, hfree, List.append_nil, filled_frameAfter, text, encode_join]

/-! ## Drafts without surrogates -/

theorem draft_target (request : Request) :
    request.draft.target = codePoints request.target := by
  have hempty : (codePoints request.path).isEmpty = request.path.isEmpty := by
    rw [Bool.eq_iff_iff, List.isEmpty_iff, String.isEmpty_iff, codePoints_eq_nil_iff]
  rw [Draft.target, draft, target, hempty]
  exact (apply_ite codePoints _ _ _).symm

section Written

variable (hport : request.portText = none → Number.IsWritable request.port)

include hport

theorem draft_hostPort : request.draft.hostPort = .ok (codePoints request.hostPort) := by
  cases htext : request.portText with
  | some text => simp [Draft.hostPort, draft, hostPort, htext]
  | none =>
      simp [Draft.hostPort, draft, hostPort, htext, Number.writeInteger?, hport htext]

theorem draft_head (version : String) :
    request.draft.head (codePoints version) = .ok (codePoints (request.head version)) := by
  rw [Draft.head, draft_hostPort hport, draft_target, head]
  simp only [codePoints_append]
  rfl

theorem draft_pieces (version : String) :
    request.draft.pieces (codePoints version) =
      .ok ((request.pieces version).map codePoints) := by
  have hlines : request.draft.headers.flatMap (fun header => [header, codePoints crlf]) =
      (request.headers.flatMap fun header => [header, crlf]).map codePoints := by
    rw [draft, List.flatMap_map, List.map_flatMap]
    rfl
  have hbody : request.draft.body.toList = request.body.toList.map codePoints := by
    rw [draft]
    cases request.body <;> rfl
  rw [Draft.pieces, draft_head hport, hlines, hbody, pieces, List.map_append, List.map_cons,
    List.map_cons]
  rfl

omit hport in
theorem foldlM_lines (headers : List String) (start : Nat) :
    (headers.map codePoints).foldlM
        (fun size header => return size + (← encodedLength header) + crlf.length) start =
      (.ok (start +
        ((headers.flatMap fun header => [header, crlf]).flatMap encode).length) :
        Except Misfit Nat) := by
  induction headers generalizing start with
  | nil => rfl
  | cons header headers ih =>
      have hcrlf : (encode crlf).length = crlf.length := rfl
      rw [List.map_cons, List.foldlM_cons, encodedLength_codePoints]
      refine (ih _).trans (congrArg Except.ok ?_)
      simp only [List.flatMap_cons, List.cons_append, List.nil_append, List.length_append,
        hcrlf]
      omega

/-- The size is that of the parts that are put into the frame afterwards. -/
theorem draft_size (version : String) :
    request.draft.size (codePoints version) = .ok (request.size version) := by
  have hcrlf : (encode crlf).length = crlf.length := rfl
  have hlines := foldlM_lines request.headers (encode (request.head version)).length
  have hheaders : request.draft.headers = request.headers.map codePoints := rfl
  rw [Draft.size, draft_head hport, ok_bind, encodedLength_codePoints, ok_bind,
    hheaders, hlines, ok_bind, size_eq, pieces]
  cases hbody : request.body with
  | none =>
      simp only [draft, hbody, Option.map_none]
      refine congrArg Except.ok ?_
      simp [hcrlf, Nat.add_assoc]
  | some body =>
      simp only [draft, hbody, Option.map_some, encodedLength_codePoints, ok_bind]
      refine congrArg Except.ok ?_
      simp [hcrlf, Nat.add_assoc]

/-- A request is put together, and its octets are its text. -/
theorem assemble_eq (version : String) :
    request.assemble version = .ok (encode (request.text version)) := by
  have hfull := Frame.putAll_codePoints (request.pieces version) (.blank (request.size version))
  have hposition := position_frameAfter_pieces request version
  rw [assemble, Draft.assemble, draft_size hport, ok_bind, draft_pieces hport,
    ok_bind, hfull, ok_bind]
  exact (if_pos hposition).trans (congrArg Except.ok (octets_frameAfter_pieces request version))

end Written

/-- The port of a request from texts has been given as one of them. -/
theorem written_of_ofTexts {settings : Settings} {method host port path : String}
    {body : Option String} {headers : List String}
    (hrequest : ofTexts settings method host port path body headers = .ok request) :
    request.portText = none → Number.IsWritable request.port := by
  unfold ofTexts at hrequest
  split at hrequest
  next =>
    cases hport : Destination.portOr settings.defaultPort port with
    | error excess => simp [hport] at hrequest
    | ok number =>
        simp only [hport, Except.ok.injEq] at hrequest
        rw [← hrequest]
        nofun
  next => nomatch hrequest

end Request

end RawPost
