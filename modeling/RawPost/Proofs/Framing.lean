import RawPost.Proofs.Reading

/-!
# Requests that can be told apart

The head of a request can be told apart if no line break is in it but those between its lines, no space in
its method and no colon in its port.  Then the octets of the request say all of its parts, unless a header
is empty or breaks its line: such a header, and only such a header, is read as something else.
-/

namespace RawPost.Request

open Text Reading

def HasBreak (text : String) : Prop :=
  crlf.toList <:+: text.toList

instance (text : String) : Decidable (HasBreak text) :=
  inferInstanceAs (Decidable (crlf.toList <:+: text.toList))

/-- What the parts of the head must not contain; a port that has to be written must not be too long. -/
structure IsFramed (request : Request) (version : String) : Prop where
  version_break : ¬ HasBreak version
  method_space : ' ' ∉ request.method.toList
  method_break : ¬ HasBreak request.method
  path_break : ¬ HasBreak request.path
  host_break : ¬ HasBreak request.host
  port_colon : ':' ∉ request.hostPort.toList
  port_break : ¬ HasBreak request.hostPort
  port_written : request.portText = none → Number.IsWritable request.port

/-- A header that stays on a line of its own. -/
def IsHeaderLine (header : String) : Prop :=
  header ≠ "" ∧ ¬ HasBreak header

/-! ## Line breaks in texts -/

/-- No line break comes about where two texts meet, unless the meeting characters make one. -/
theorem not_hasBreak_append {first second : String}
    (hfirst : ¬ HasBreak first) (hsecond : ¬ HasBreak second)
    (hmeet : first.toList.getLast? ≠ some '\r' ∨
      second.toList.head? ≠ some '\n') :
    ¬ HasBreak (first ++ second) := by
  have hcrlf : crlf.toList = ['\r', '\n'] := rfl
  unfold HasBreak at hfirst hsecond ⊢
  rw [hcrlf] at hfirst hsecond ⊢
  rw [String.toList_append, List.infix_append_iff_ne_nil]
  rintro (hinside | hinside | ⟨left, right, hleft, hright, hsplit, hend, hstart⟩)
  · exact hfirst hinside
  · exact hsecond hinside
  · have hparts : left = ['\r'] ∧ right = ['\n'] := by
      match left, right with
      | [c], [d] =>
          simp only [List.cons_append, List.nil_append, List.cons.injEq,
            and_true] at hsplit
          simp [← hsplit.1, ← hsplit.2]
      | [c], d :: e :: more => simp at hsplit
      | c :: d :: more, e :: rest => simp at hsplit
    rw [hparts.1] at hend
    rw [hparts.2] at hstart
    obtain ⟨before, hbefore⟩ := hend
    obtain ⟨after, hafter⟩ := hstart
    simp [← hbefore, ← hafter] at hmeet

theorem infix_encode_of_hasBreak {text : String} (hbreak : HasBreak text) :
    lineBreak <:+: encode text := by
  obtain ⟨before, after, hsplit⟩ := hbreak
  refine ⟨before.flatMap String.utf8EncodeChar,
    after.flatMap String.utf8EncodeChar, ?_⟩
  rw [lineBreak, encode, encode, ← hsplit, List.flatMap_append,
    List.flatMap_append]

theorem infix_encode_iff_hasBreak {text : String} :
    lineBreak <:+: encode text ↔ HasBreak text := by
  constructor
  · intro hfound
    have hlead : encode crlf = [0x0D, 0x0A] := rfl
    exact infix_of_infix_encode hlead rfl hfound
  · exact infix_encode_of_hasBreak

theorem encode_eq_nil_iff {text : String} : encode text = [] ↔ text = "" := by
  constructor
  · intro hnil
    rw [← decode_encode text, hnil]
    rfl
  · intro hempty
    rw [hempty]
    rfl

theorem isLine_encode_iff {header : String} :
    IsLine (encode header) ↔ IsHeaderLine header := by
  rw [IsLine, IsHeaderLine, infix_encode_iff_hasBreak, ne_eq,
    encode_eq_nil_iff]

/-! ## The lines of a request -/

variable {request : Request} {version : String}

def requestLine (request : Request) (version : String) : String :=
  request.method ++ " " ++ request.target ++ " " ++ version

def hostLine (request : Request) : String :=
  "Host: " ++ request.host ++ ":" ++ request.hostPort

def lines (request : Request) (version : String) : List String :=
  request.requestLine version :: request.hostLine :: request.headers

theorem encode_text_eq (request : Request) (version : String) :
    encode (request.text version) =
      ((request.lines version).map encode).flatMap (· ++ lineBreak) ++
        (lineBreak ++ encode (request.body.getD "")) := by
  have hhead : request.head version =
      request.requestLine version ++ crlf ++ request.hostLine ++ crlf := by
    simp only [head, requestLine, hostLine, String.append_assoc]
  have hheaders : (request.headers.flatMap fun header =>
      [header, crlf]).flatMap encode =
        (request.headers.map encode).flatMap (· ++ lineBreak) := by
    induction request.headers with
    | nil => rfl
    | cons header headers ih =>
        simp only [List.flatMap_cons, List.flatMap_append, List.map_cons,
          List.flatMap_nil, List.append_nil, ih, lineBreak]
  have hbody : request.body.toList.flatMap encode =
      encode (request.body.getD "") := by
    cases request.body with
    | none => rfl
    | some body => simp
  rw [text, encode_join, pieces, lines, List.cons_append,
    List.flatMap_cons, List.flatMap_append, List.flatMap_cons, hheaders,
    hbody, hhead]
  simp only [encode_append, List.map_cons, List.flatMap_cons, lineBreak,
    List.append_assoc]

theorem IsFramed.target_break (hframed : request.IsFramed version) :
    ¬ HasBreak request.target := by
  unfold target
  split
  · decide
  · exact hframed.path_break

theorem not_hasBreak_append_mark {first second : String} (mark : Char)
    (hfirst : ¬ HasBreak first) (hsecond : ¬ HasBreak second)
    (hreturn : mark ≠ '\r') (hfeed : mark ≠ '\n') :
    ¬ HasBreak (first ++ String.singleton mark ++ second) := by
  have hmark : ¬ HasBreak (String.singleton mark) := by
    intro hbreak
    have hlength := List.IsInfix.length_le hbreak
    simp [crlf] at hlength
  apply not_hasBreak_append _ hsecond
  · left
    simpa using hreturn
  · apply not_hasBreak_append hfirst hmark
    right
    simpa using hfeed

theorem IsFramed.requestLine_break (hframed : request.IsFramed version) :
    ¬ HasBreak (request.requestLine version) := by
  have hfront := not_hasBreak_append_mark ' '
    hframed.method_break hframed.target_break (by decide) (by decide)
  exact not_hasBreak_append_mark ' ' hfront
    hframed.version_break (by decide) (by decide)

theorem IsFramed.hostLine_break (hframed : request.IsFramed version) :
    ¬ HasBreak request.hostLine := by
  have hname : ¬ HasBreak "Host:" := by decide
  have hfront := not_hasBreak_append_mark ' ' hname
    hframed.host_break (by decide) (by decide)
  exact not_hasBreak_append_mark ':' hfront
    hframed.port_break (by decide) (by decide)

theorem IsFramed.isLine (hframed : request.IsFramed version)
    (hheaders : ∀ header ∈ request.headers, IsHeaderLine header) :
    ∀ line ∈ (request.lines version).map encode, IsLine line := by
  intro line hmem
  obtain ⟨text, htext, rfl⟩ := List.mem_map.mp hmem
  rw [isLine_encode_iff]
  rcases List.mem_cons.mp htext with rfl | htext
  · refine ⟨?_, hframed.requestLine_break⟩
    simp [requestLine]
  · rcases List.mem_cons.mp htext with rfl | htext
    · refine ⟨?_, hframed.hostLine_break⟩
      simp [hostLine]
    · exact hheaders text htext

/-! ## Reading the lines -/

theorem readRequestLine?_encode (hframed : request.IsFramed version) :
    readRequestLine? version (encode (request.requestLine version)) =
      some (request.method, request.target) := by
  have hspace : ¬ encode " " <:+:
      encode request.method ++ (encode " ").dropLast := by
    intro hfound
    have hlead : encode " " = [0x20] := rfl
    have hnone : (encode " ").dropLast = [] := rfl
    rw [hnone, List.append_nil] at hfound
    have htext := infix_of_infix_encode hlead rfl hfound
    exact hframed.method_space (htext.subset (by decide))
  have hcut := cutFirst?_of_not_infix hspace
    (encode request.target ++ encode (" " ++ version))
  have hline : encode (request.requestLine version) =
      encode request.method ++ encode " " ++
        (encode request.target ++ encode (" " ++ version)) := by
    simp only [requestLine, encode_append, List.append_assoc]
  have htarget : (encode request.target ++
      encode (" " ++ version)).dropSuffix? (encode (" " ++ version)) =
        some (encode request.target) :=
    List.dropSuffix?_eq_some_iff.mpr ⟨_, rfl, BEq.rfl⟩
  simp only [readRequestLine?, hline, hcut, htarget, decode?_encode,
    Option.bind_eq_bind, Option.bind_some, Option.pure_def]

theorem readHostLine?_encode (hframed : request.IsFramed version) :
    readHostLine? (encode request.hostLine) =
      some (request.host, request.hostPort) := by
  have hcolon : ¬ encode ":" <:+:
      (encode ":").tail ++ encode request.hostPort := by
    intro hfound
    have hlead : encode ":" = [0x3A] := rfl
    have htext := infix_of_infix_encode hlead rfl hfound
    exact hframed.port_colon (htext.subset (by decide))
  have hcut := cutLast?_of_not_infix hcolon (encode request.host)
  have hline : encode request.hostLine = encode "Host: " ++
      (encode request.host ++ encode ":" ++ encode request.hostPort) := by
    simp only [hostLine, encode_append, List.append_assoc]
  have hauthority := List.dropPrefix?_append_of_beq
    (encode request.host ++ encode ":" ++ encode request.hostPort)
    (BEq.refl (encode "Host: "))
  simp only [readHostLine?, hline, hcut, hauthority, decode?_encode,
    Option.bind_eq_bind, Option.bind_some, Option.pure_def]

/-- Each line of the octets is a line of the request. -/
theorem read?_of_isHeaderLine (hframed : request.IsFramed version)
    (hheaders : ∀ header ∈ request.headers, IsHeaderLine header) :
    read? version (encode (request.text version)) = some request.reading := by
  have hhead := readHead?_lines (hframed.isLine hheaders)
    (encode (request.body.getD ""))
  rw [← encode_text_eq, lines, List.map_cons, List.map_cons] at hhead
  have hlines := mapM_decode?_eq_some_iff.mpr
    (Eq.refl (request.headers.map encode))
  simp only [read?, hhead, readRequestLine?_encode hframed,
    readHostLine?_encode hframed, hlines, decode?_encode,
    Option.bind_eq_bind, Option.bind_some, Option.pure_def, reading]

/-- Whatever a reader takes for headers has stood on lines of their own. -/
theorem isHeaderLine_of_read? {octets : Octets} {result : Reading}
    (hread : read? version octets = some result) :
    ∀ header ∈ result.headers, IsHeaderLine header := by
  simp only [read?, Option.bind_eq_bind, Option.bind_eq_some_iff,
    Prod.exists] at hread
  obtain ⟨found, body, hhead, hread⟩ := hread
  have hlines := isLine_of_readHead? hhead
  match found with
  | [] => simp at hread
  | [_] => simp at hread
  | first :: second :: rest =>
      simp only [Option.bind_eq_some_iff, Prod.exists, Option.pure_def,
        Option.some.injEq] at hread
      obtain ⟨_, _, _, _, _, _, headers, hheaders, _, _, rfl⟩ := hread
      intro header hmem
      have hrest := mapM_decode?_eq_some_iff.mp hheaders
      rw [← isLine_encode_iff]
      apply hlines
      have hencoded : encode header ∈ rest := by
        rw [hrest]
        exact List.mem_map_of_mem hmem
      exact List.mem_cons_of_mem _ (List.mem_cons_of_mem _ hencoded)

/-- A request whose head can be told apart is read back from its octets if and only if every header keeps
to a line of its own; so such requests with equal octets say the same. -/
theorem read?_assemble_iff (settings : Settings) (request : Request)
    (hframed : request.IsFramed settings.version) :
    (∃ octets, request.assemble settings.version = .ok octets ∧
      (read? settings.version octets = some request.reading ↔
        ∀ header ∈ request.headers, IsHeaderLine header)) ∧
    (∀ other : Request, other.IsFramed settings.version →
      (∀ header ∈ request.headers, IsHeaderLine header) →
      (∀ header ∈ other.headers, IsHeaderLine header) →
      other.assemble settings.version = request.assemble settings.version →
      other.reading = request.reading) := by
  refine ⟨⟨_, assemble_eq hframed.port_written settings.version, ?_, ?_⟩, ?_⟩
  · intro hread
    exact isHeaderLine_of_read? hread
  · intro hheaders
    exact read?_of_isHeaderLine hframed hheaders
  · intro other hother hheaders hotherHeaders hsame
    rw [assemble_eq hframed.port_written, assemble_eq hother.port_written,
      Except.ok.injEq] at hsame
    have hread := read?_of_isHeaderLine hframed hheaders
    have hotherRead := read?_of_isHeaderLine hother hotherHeaders
    rw [hsame, hread, Option.some.injEq] at hotherRead
    exact hotherRead.symm

/-- Headers that end in half a line break or begin with one, a host with colons, and a body with an empty
line are all read back. -/
theorem read?_assemble_of_half_breaks :
    let request : Request :=
      { method := "POST", host := "::1", port := 80, path := "/é",
        body := some "a\r\n\r\nb", headers := ["A: é\r", "\nB"] }
    request.IsFramed Settings.defaults.version ∧
      ∃ octets, request.assemble Settings.defaults.version = .ok octets ∧
        read? Settings.defaults.version octets = some request.reading := by
  intro request
  have hframed : request.IsFramed Settings.defaults.version := by
    constructor <;> decide
  have hheaders : ∀ header ∈ request.headers, IsHeaderLine header := by
    unfold IsHeaderLine
    decide
  obtain ⟨octets, hoctets, hiff⟩ :=
    (read?_assemble_iff Settings.defaults request hframed).1
  exact ⟨hframed, octets, hoctets, hiff.mpr hheaders⟩

end RawPost.Request
