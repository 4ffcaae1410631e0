import RawPost.Proofs.Assembly
import RawPost.Proofs.Scan
import RawPost.Proofs.Variables

/-!
# Drafts that can be put together

A draft without surrogates is the draft of a request.  Sizing a draft encodes each of its texts, and writes
its port if the port was not given as a text.  So a draft that has a size has no surrogates, and no port that
would have to be written and is too long; it is put together like any request.
-/

namespace RawPost

namespace Text

theorem isPlain_append {first second : CodePoints} :
    IsPlain (first ++ second) ↔ IsPlain first ∧ IsPlain second :=
  List.forall_mem_append

theorem exists_codePoints_eq {points : CodePoints} (hplain : IsPlain points) :
    ∃ text, codePoints text = points := by
  induction points with
  | nil => exact ⟨"", rfl⟩
  | cons point points ih =>
      rw [IsPlain, List.forall_mem_cons] at hplain
      obtain ⟨text, htext⟩ := ih hplain.2
      cases point with
      | character c =>
          refine ⟨String.singleton c ++ text, ?_⟩
          rw [codePoints_append, htext, codePoints, String.toList_singleton]
          rfl
      | surrogate place => simp [CodePoint.isSurrogate] at hplain

/-- A run of surrogates that begins where the first surrogate stands and goes on as far as it can. -/
inductive FirstRun : CodePoints → Unencodable → Prop
  | mk {before others after : CodePoints} {first : Fin 0x800}
      (hbefore : IsPlain before) (hothers : ∀ point ∈ others, point.isSurrogate = true)
      (hafter : ∀ point ∈ after.head?, point.isSurrogate = false) :
      FirstRun (before ++ .surrogate first :: (others ++ after))
        ⟨before.length, first, others.length⟩

theorem surrogates?_eq_some_iff {points : CodePoints} {run : Unencodable} :
    surrogates? points = some run ↔ FirstRun points run := by
  constructor
  · intro hrun
    unfold surrogates? at hrun
    split at hrun
    next first rest hrest =>
      have hbefore : IsPlain (points.takeWhile (!·.isSurrogate)) := by
        intro point hmem
        simpa using List.mem_takeWhile_imp hmem
      have hothers : ∀ point ∈ rest.takeWhile CodePoint.isSurrogate,
          point.isSurrogate = true :=
        fun point hmem => List.mem_takeWhile_imp hmem
      have hfound : FirstRun (_ ++ .surrogate first :: _) _ :=
        .mk hbefore hothers (head?_dropWhile_stops CodePoint.isSurrogate rest)
      rw [List.takeWhile_append_dropWhile, ← hrest, List.takeWhile_append_dropWhile] at hfound
      rw [← Option.some.inj hrun]
      exact hfound
    next => contradiction
  · intro hfirst
    obtain @⟨before, others, after, first, hbefore, hothers, hafter⟩ := hfirst
    have hplain : ∀ point ∈ before, (!point.isSurrogate) = true := by
      intro point hmem
      simp [hbefore point hmem]
    have hstop : ∀ point ∈ (CodePoint.surrogate first :: (others ++ after)).head?,
        (!point.isSurrogate) = false := by
      intro point hmem
      rw [← Option.some.inj hmem]
      rfl
    rw [surrogates?, dropWhile_of_stops hplain hstop, takeWhile_of_stops hplain hstop]
    have hwhole := takeWhile_of_stops hothers hafter
    simp only [hwhole]

/-- What is told of a text that cannot be encoded is the first run of surrogates in it. -/
theorem encodePoints_eq_error_iff {points : CodePoints} {run : Unencodable} :
    encodePoints points = .error run ↔ FirstRun points run := by
  rw [← surrogates?_eq_some_iff, encodePoints]
  cases surrogates? points <;> simp

instance : CanLift CodePoints String codePoints IsPlain :=
  ⟨fun _ => exists_codePoints_eq⟩

theorem exists_map_codePoints_eq {texts : List CodePoints}
    (hplain : ∀ points ∈ texts, IsPlain points) :
    ∃ strings : List String, strings.map codePoints = texts :=
  (List.canLift codePoints IsPlain).prf texts hplain

theorem exists_option_codePoints_eq {given : Option CodePoints}
    (hplain : ∀ points ∈ given, IsPlain points) :
    ∃ text : Option String, text.map codePoints = given := by
  cases given with
  | none => exact ⟨none, rfl⟩
  | some points =>
      obtain ⟨text, htext⟩ := exists_codePoints_eq (hplain points rfl)
      exact ⟨some text, congrArg some htext⟩

end Text

namespace Request

open Text

variable {draft : Draft} {version : CodePoints}

theorem isPlain_of_encodedLength {points : CodePoints} {size : Nat}
    (hsize : encodedLength points = .ok size) : IsPlain points := by
  rw [← surrogates?_eq_none_iff]
  cases hrun : surrogates? points with
  | none => rfl
  | some run => simp [encodedLength, encoded, encodePoints, hrun, Except.mapError, Except.map] at hsize

theorem error_of_encodedLength {points : CodePoints} {misfit : Misfit}
    (herror : encodedLength points = .error misfit) : ∃ run, misfit = .text run := by
  unfold encodedLength encoded at herror
  cases hoctets : encodePoints points with
  | ok octets => simp [hoctets, Except.mapError, Except.map] at herror
  | error run =>
      rw [hoctets] at herror
      exact ⟨run, (Except.error.inj herror).symm⟩

theorem isPlain_of_foldlM_lines {headers : List CodePoints} {start size : Nat}
    (hsize : headers.foldlM
      (fun size header => return size + (← encodedLength header) + crlf.length) start =
        (.ok size : Except Misfit Nat)) :
    ∀ header ∈ headers, IsPlain header := by
  induction headers generalizing start with
  | nil => exact List.forall_mem_nil _
  | cons header headers ih =>
      rw [List.foldlM_cons] at hsize
      obtain ⟨middle, hline, hsize⟩ := exists_of_bind_eq_ok hsize
      obtain ⟨length, hlength, -⟩ := exists_of_bind_eq_ok hline
      exact List.forall_mem_cons.mpr ⟨isPlain_of_encodedLength hlength, ih hsize⟩

theorem error_of_foldlM_lines {headers : List CodePoints} {start : Nat} {misfit : Misfit}
    (herror : headers.foldlM
      (fun size header => return size + (← encodedLength header) + crlf.length) start =
        (.error misfit : Except Misfit Nat)) :
    ∃ run, misfit = .text run := by
  induction headers generalizing start with
  | nil => nomatch herror
  | cons header headers ih =>
      rw [List.foldlM_cons] at herror
      rcases cases_of_bind_eq_error herror with hline | ⟨middle, -, hrest⟩
      · rcases cases_of_bind_eq_error hline with hlength | ⟨length, -, hsum⟩
        · exact error_of_encodedLength hlength
        · nomatch hsum
      · exact ih hrest

namespace Draft

/-- No text has a surrogate in it, and the port can be written if it has to be. -/
structure IsEncodable (draft : Draft) (version : CodePoints) : Prop where
  version : IsPlain version
  method : IsPlain draft.method
  host : IsPlain draft.host
  path : IsPlain draft.path
  body : ∀ body ∈ draft.body, IsPlain body
  headers : ∀ header ∈ draft.headers, IsPlain header
  portText : ∀ text ∈ draft.portText, IsPlain text
  port : draft.portText = none → Number.IsWritable draft.port

theorem isPlain_path (hplain : IsPlain draft.target) : IsPlain draft.path := by
  rw [target] at hplain
  split at hplain
  next hempty =>
    rw [List.isEmpty_iff.mp hempty]
    exact List.forall_mem_nil _
  next => exact hplain

theorem port_of_hostPort {port : CodePoints} (hport : draft.hostPort = .ok port) :
    (∀ text ∈ draft.portText, text = port) ∧
      (draft.portText = none → Number.IsWritable draft.port) := by
  unfold hostPort at hport
  cases htext : draft.portText with
  | some text =>
      rw [htext] at hport
      cases hport
      simp
  | none =>
      rw [htext, Number.writeInteger?] at hport
      split_ifs at hport with hwritable
      simp [hwritable]

theorem error_of_hostPort {misfit : Misfit} (herror : draft.hostPort = .error misfit) :
    misfit = .port := by
  unfold hostPort at herror
  split at herror
  next => nomatch herror
  next =>
    split at herror
    next => nomatch herror
    next => exact (Except.error.inj herror).symm

/-- Whatever has a size can be encoded. -/
theorem IsEncodable.of_size {size : Nat} (hsize : draft.size version = .ok size) :
    draft.IsEncodable version := by
  obtain ⟨head, hhead, hsize⟩ := exists_of_bind_eq_ok hsize
  obtain ⟨headSize, hheadSize, hsize⟩ := exists_of_bind_eq_ok hsize
  obtain ⟨linesSize, hlines, hsize⟩ := exists_of_bind_eq_ok hsize
  obtain ⟨port, hport, hhead⟩ := exists_of_bind_eq_ok hhead
  obtain ⟨hgiven, hwritable⟩ := port_of_hostPort hport
  have hplain := isPlain_of_encodedLength hheadSize
  rw [← Except.ok.inj hhead] at hplain
  simp only [isPlain_append, and_assoc] at hplain
  obtain ⟨hmethod, -, htarget, -, hversion, -, -, hhost, -, hportText, -⟩ := hplain
  refine ⟨hversion, hmethod, hhost, isPlain_path htarget, ?_, isPlain_of_foldlM_lines hlines, ?_,
    hwritable⟩
  · intro body hbody
    rw [Option.mem_def.mp hbody] at hsize
    obtain ⟨length, hlength, -⟩ := exists_of_bind_eq_ok hsize
    exact isPlain_of_encodedLength hlength
  · intro text htext
    rw [hgiven text htext]
    exact hportText

/-- What has no size has a port or a text to blame. -/
theorem error_of_size {misfit : Misfit} (herror : draft.size version = .error misfit) :
    misfit = .port ∨ ∃ run, misfit = .text run := by
  rcases cases_of_bind_eq_error herror with hhead | ⟨head, -, herror⟩
  · left
    rcases cases_of_bind_eq_error hhead with hport | ⟨port, -, hlines⟩
    · exact error_of_hostPort hport
    · nomatch hlines
  right
  rcases cases_of_bind_eq_error herror with hheadSize | ⟨headSize, -, herror⟩
  · exact error_of_encodedLength hheadSize
  rcases cases_of_bind_eq_error herror with hlines | ⟨linesSize, -, herror⟩
  · exact error_of_foldlM_lines hlines
  cases hbody : draft.body with
  | none =>
      rw [hbody] at herror
      nomatch herror
  | some body =>
      rw [hbody] at herror
      rcases cases_of_bind_eq_error herror with hlength | ⟨length, -, hsum⟩
      · exact error_of_encodedLength hlength
      · nomatch hsum

/-- A draft that can be encoded is the draft of a request. -/
theorem IsEncodable.exists_request (hencodable : draft.IsEncodable version) :
    ∃ (request : Request) (versionText : String),
      request.draft = draft ∧ codePoints versionText = version ∧
        (request.portText = none → Number.IsWritable request.port) := by
  obtain ⟨versionText, hversion⟩ := exists_codePoints_eq hencodable.version
  obtain ⟨method, hmethod⟩ := exists_codePoints_eq hencodable.method
  obtain ⟨host, hhost⟩ := exists_codePoints_eq hencodable.host
  obtain ⟨path, hpath⟩ := exists_codePoints_eq hencodable.path
  obtain ⟨body, hbody⟩ := exists_option_codePoints_eq hencodable.body
  obtain ⟨headers, hheaders⟩ := exists_map_codePoints_eq hencodable.headers
  obtain ⟨portText, hportText⟩ := exists_option_codePoints_eq hencodable.portText
  refine ⟨{ method, host, port := draft.port, path, body, headers, portText }, versionText, ?_,
    hversion, ?_⟩
  · rw [Request.draft, hmethod, hhost, hpath, hbody, hheaders, hportText]
  · intro hnone
    apply hencodable.port
    rw [← hportText]
    exact congrArg (Option.map codePoints) hnone

/-- What is put together has been sized before. -/
theorem IsEncodable.of_assemble {octets : Octets}
    (hoctets : draft.assemble version = .ok octets) : draft.IsEncodable version := by
  obtain ⟨size, hsize, -⟩ := exists_of_bind_eq_ok hoctets
  exact .of_size hsize

/-- The frame has the right size whenever there is one. -/
theorem assemble_ne_uneven {size position : Nat} :
    draft.assemble version ≠ .error (.uneven size position) := by
  intro herror
  rcases cases_of_bind_eq_error herror with hsize | ⟨size, hsize, -⟩
  · rcases error_of_size hsize with hport | ⟨run, htext⟩
    · nomatch hport
    · nomatch htext
  · obtain ⟨request, text, rfl, rfl, hport⟩ := (IsEncodable.of_size hsize).exists_request
    have hclash := herror.symm.trans (assemble_eq hport text)
    nomatch hclash

end Draft

/-- The octets of a request are its text, whenever there are any. -/
theorem octets_of_assemble {request : Request} {version : String} {octets : Octets}
    (hoctets : request.assemble version = .ok octets) :
    octets = encode (request.text version) := by
  have hencodable : request.draft.IsEncodable (codePoints version) := .of_assemble hoctets
  have hport : request.portText = none → Number.IsWritable request.port := by
    intro hnone
    exact hencodable.port (congrArg (Option.map codePoints) hnone)
  exact Except.ok.inj (hoctets.symm.trans (assemble_eq hport version))

end Request

end RawPost
