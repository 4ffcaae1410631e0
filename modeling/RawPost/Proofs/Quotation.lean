import RawPost.Proofs.Conversation
import RawPost.Proofs.Wording

/-!
# Reading a quotation

A quotation says where it ends.  Each of its characters can be read without looking at what follows: a
backslash says what kind of escape it begins, and the kind says how many digits belong to it.  The mark that
ends the quotation begins no character.  So a quoted text with any text behind it can be taken apart in one
way only, and a message with a quoted host in it tells hosts apart, whatever is told of them.

All characters of a quotation can be printed, so none of them breaks a line.
-/

namespace RawPost

namespace Text

/-! ## Digits -/

def hexValue (c : Char) : Nat :=
  "0123456789abcdef".toList.idxOf c

def hexNumber (digits : List Char) : Nat :=
  digits.foldl (fun value c => 16 * value + hexValue c) 0

theorem hexValue_digitChar {n : Nat} (hn : n < 16) : hexValue (Nat.digitChar n) = n := by
  interval_cases n <;> decide

theorem length_hexDigits (width n : Nat) : (hexDigits width n).length = width := by
  induction width generalizing n with
  | zero => rfl
  | succ width ih => rw [hexDigits, List.length_append, ih, List.length_singleton]

theorem hexNumber_append (digits : List Char) (c : Char) :
    hexNumber (digits ++ [c]) = 16 * hexNumber digits + hexValue c := by
  simp [hexNumber]

theorem hexNumber_hexDigits {width n : Nat} (hn : n < 16 ^ width) :
    hexNumber (hexDigits width n) = n := by
  induction width generalizing n with
  | zero =>
      have hzero : n = 0 := by simpa using hn
      rw [hzero]
      rfl
  | succ width ih =>
      have hquotient : n / 16 < 16 ^ width := by
        rw [Nat.pow_succ'] at hn
        exact Nat.div_lt_of_lt_mul hn
      rw [hexDigits, hexNumber_append, ih hquotient,
        hexValue_digitChar (Nat.mod_lt _ (by decide))]
      exact Nat.div_add_mod n 16

/-! ## Characters -/

/-- The marks that a quotation can stand between. -/
def IsMark (mark : Char) : Prop :=
  mark = '\'' ∨ mark = '"'

/-- The character of so many digits, and what stands behind them. -/
def readCode (width : Nat) (text : List Char) : Char × List Char :=
  (Char.ofNat (hexNumber (text.take width)), text.drop width)

/-- Reads what stands behind a backslash. -/
def readEscape : List Char → Option (Char × List Char)
  | [] => none
  | 't' :: rest => some ('\t', rest)
  | 'n' :: rest => some ('\n', rest)
  | 'r' :: rest => some ('\r', rest)
  | 'x' :: rest => some (readCode 2 rest)
  | 'u' :: rest => some (readCode 4 rest)
  | 'U' :: rest => some (readCode 8 rest)
  | c :: rest => some (c, rest)

/-- Reads the first character of a quotation. -/
def readQuoted : List Char → Option (Char × List Char)
  | [] => none
  | c :: rest => if c = '\\' then readEscape rest else some (c, rest)

theorem readCode_hexDigits {width : Nat} {c : Char} (hc : c.toNat < 16 ^ width)
    (rest : List Char) : readCode width (hexDigits width c.toNat ++ rest) = (c, rest) := by
  rw [readCode, List.take_left' (length_hexDigits width _),
    List.drop_left' (length_hexDigits width _), hexNumber_hexDigits hc, Char.ofNat_toNat]

theorem readQuoted_codePointEscape (c : Char) (rest : List Char) :
    readQuoted (codePointEscape c ++ rest) = some (c, rest) := by
  have hvalid : c.toNat < 0x110000 := by
    rcases c.valid with hlow | ⟨-, hhigh⟩
    · exact Nat.lt_trans hlow (by decide)
    · exact hhigh
  unfold codePointEscape
  split
  next hbyte =>
    exact congrArg some (readCode_hexDigits hbyte rest)
  next =>
    split
    next hplane =>
      exact congrArg some (readCode_hexDigits hplane rest)
    next =>
      have hwide : c.toNat < 16 ^ 8 := Nat.lt_trans hvalid (by decide)
      exact congrArg some (readCode_hexDigits hwide rest)

variable {isShown : Char → Bool} {mark c : Char}

/-- A quoted character can be read whatever stands behind it. -/
theorem readQuoted_quotedChar (hmark : IsMark mark) (rest : List Char) :
    readQuoted (quotedChar isShown mark c ++ rest) = some (c, rest) := by
  unfold quotedChar
  split_ifs with hescaped htab hfeed hreturn hshown
  · rcases hescaped with rfl | rfl
    · rcases hmark with rfl | rfl <;> rfl
    · rfl
  · rw [htab]
    rfl
  · rw [hfeed]
    rfl
  · rw [hreturn]
    rfl
  · rw [not_or] at hescaped
    rw [List.singleton_append, readQuoted, if_neg hescaped.2]
  · exact readQuoted_codePointEscape c rest

/-- The mark that ends a quotation begins no quoted character. -/
theorem exists_head_quotedChar (hmark : IsMark mark) :
    ∃ head more, quotedChar isShown mark c = head :: more ∧ head ≠ mark := by
  have hbackslash : '\\' ≠ mark := by
    rcases hmark with rfl | rfl <;> decide
  unfold quotedChar codePointEscape
  split_ifs with hescaped
  · exact ⟨'\\', _, rfl, hbackslash⟩
  · exact ⟨'\\', _, rfl, hbackslash⟩
  · exact ⟨'\\', _, rfl, hbackslash⟩
  · exact ⟨'\\', _, rfl, hbackslash⟩
  · exact ⟨c, _, rfl, fun hsame => hescaped (.inl hsame)⟩
  · exact ⟨'\\', _, rfl, hbackslash⟩
  · exact ⟨'\\', _, rfl, hbackslash⟩
  · exact ⟨'\\', _, rfl, hbackslash⟩

theorem quotedChar_append_ne (hmark : IsMark mark) (rest behind : List Char) :
    quotedChar isShown mark c ++ rest ≠ mark :: behind := by
  obtain ⟨head, more, hquoted, hhead⟩ := exists_head_quotedChar hmark
  rw [hquoted, List.cons_append]
  intro hsame
  exact hhead (List.cons.inj hsame).1

/-! ## Texts -/

theorem quoteMark_isMark (text : List Char) : IsMark (quoteMark text) := by
  unfold quoteMark
  split
  · exact .inr rfl
  · exact .inl rfl

/-- The induction takes one character from both texts; where one of them ends, so does the other. -/
theorem eq_of_quoted_append (hmark : IsMark mark) {first second behind others : List Char}
    (hsame : first.flatMap (quotedChar isShown mark) ++ mark :: behind =
      second.flatMap (quotedChar isShown mark) ++ mark :: others) :
    first = second ∧ behind = others := by
  induction first generalizing second with
  | nil =>
      cases second with
      | nil => exact ⟨rfl, (List.cons.inj hsame).2⟩
      | cons d second =>
          rw [List.flatMap_cons, List.append_assoc] at hsame
          exact absurd hsame.symm (quotedChar_append_ne hmark _ _)
  | cons c first ih =>
      cases second with
      | nil =>
          rw [List.flatMap_cons, List.append_assoc] at hsame
          exact absurd hsame (quotedChar_append_ne hmark _ _)
      | cons d second =>
          have hread := congrArg readQuoted hsame
          rw [List.flatMap_cons, List.flatMap_cons, List.append_assoc, List.append_assoc,
            readQuoted_quotedChar hmark, readQuoted_quotedChar hmark, Option.some.injEq,
            Prod.mk.injEq] at hread
          obtain ⟨rfl, rfl⟩ := ih hread.2
          rw [hread.1]
          exact ⟨rfl, rfl⟩

theorem eq_of_quotedChars_append {first second behind others : List Char}
    (hsame : quotedChars isShown first ++ behind = quotedChars isShown second ++ others) :
    first = second ∧ behind = others := by
  simp only [quotedChars, List.cons_append, List.append_assoc, List.cons.injEq,
    List.nil_append] at hsame
  obtain ⟨hmarks, hrest⟩ := hsame
  rw [← hmarks] at hrest
  exact eq_of_quoted_append (quoteMark_isMark first) hrest

/-- Quoted texts with something behind them are the same only if the texts are. -/
theorem quote_append_inj {first second behind others : String}
    (hsame : quote first ++ behind = quote second ++ others) :
    first = second ∧ behind = others := by
  have hchars : quotedChars isPrintable first.toList ++ behind.toList =
      quotedChars isPrintable second.toList ++ others.toList := by
    simpa [quote] using congrArg String.toList hsame
  obtain ⟨htext, hbehind⟩ := eq_of_quotedChars_append hchars
  exact ⟨String.toList_injective htext, String.toList_injective hbehind⟩

/-! ## What a quotation looks like -/

def IsControl (c : Char) : Prop :=
  c.toNat < 0x20 ∨ (0x7F ≤ c.toNat ∧ c.toNat ≤ 0x9F)

/-- The characters at which a text is cut into lines. -/
def lineBreaks : List Char :=
  ['\n', '\x0B', '\x0C', '\r', '\x1C', '\x1D', '\x1E', '\u0085', '\u2028', '\u2029']

theorem not_isControl_of_isPrintable (hprintable : isPrintable c = true) : ¬ IsControl c := by
  unfold isPrintable at hprintable
  unfold IsControl
  split at hprintable
  next =>
    simp only [Bool.and_eq_true, decide_eq_true_eq] at hprintable
    omega
  next => omega

theorem not_mem_lineBreaks_of_isPrintable (hprintable : isPrintable c = true) :
    c ∉ lineBreaks := by
  have hnone : lineBreaks.all (fun b => !isPrintable b) = true := by
    decide +kernel
  intro hmem
  have hbreak := List.all_eq_true.mp hnone c hmem
  simp [hprintable] at hbreak

theorem isPrintable_of_mem_hexDigits {width n : Nat} (hmem : c ∈ hexDigits width n) :
    isPrintable c = true := by
  have hdigits : ∀ digit < 16, isPrintable (Nat.digitChar digit) = true := by
    decide
  induction width generalizing n with
  | zero => contradiction
  | succ width ih =>
      rw [hexDigits, List.mem_append, List.mem_singleton] at hmem
      rcases hmem with hmem | rfl
      · exact ih hmem
      · exact hdigits _ (Nat.mod_lt _ (by decide))

theorem isPrintable_of_mem_codePointEscape {d : Char} (hmem : d ∈ codePointEscape c) :
    isPrintable d = true := by
  unfold codePointEscape at hmem
  split_ifs at hmem
  all_goals
    rw [List.mem_cons, List.mem_cons] at hmem
    rcases hmem with rfl | rfl | hmem
    · rfl
    · rfl
    · exact isPrintable_of_mem_hexDigits hmem

theorem IsMark.isPrintable (hmark : IsMark mark) : isPrintable mark = true := by
  rcases hmark with rfl | rfl <;> rfl

theorem isPrintable_of_mem_quotedChar (hmark : IsMark mark) {d : Char}
    (hmem : d ∈ quotedChar isPrintable mark c) : isPrintable d = true := by
  have hescape {letter : Char} (hletter : isPrintable letter = true)
      (hmem : d ∈ ['\\', letter]) : isPrintable d = true := by
    simp only [List.mem_cons, List.not_mem_nil, or_false] at hmem
    rcases hmem with rfl | rfl
    · rfl
    · exact hletter
  unfold quotedChar at hmem
  split_ifs at hmem with hescaped htab hfeed hreturn hshown
  · rcases hescaped with rfl | rfl
    · exact hescape hmark.isPrintable hmem
    · exact hescape rfl hmem
  · exact hescape rfl hmem
  · exact hescape rfl hmem
  · exact hescape rfl hmem
  · rw [List.mem_singleton.mp hmem]
    exact hshown
  · exact isPrintable_of_mem_codePointEscape hmem

theorem isPrintable_of_mem_quote {text : String} (hmem : c ∈ (quote text).toList) :
    isPrintable c = true := by
  have hmark := quoteMark_isMark text.toList
  simp only [quote, quotedChars, String.toList_ofList, List.cons_append, List.mem_cons,
    List.mem_append, List.mem_flatMap, List.not_mem_nil, or_false] at hmem
  rcases hmem with rfl | ⟨d, -, hmem⟩ | rfl
  · exact hmark.isPrintable
  · exact isPrintable_of_mem_quotedChar hmark hmem
  · exact hmark.isPrintable

end Text

namespace Exchange

/-- A host that is not resolved because of a fault, and what is told of it. -/
def TellsUnresolved [Memory] (host : String) (fault : Fault) (message : String) : Prop :=
  ∃ (peer : Peer) (failure : Failure),
    peer.resolution = .error fault ∧
    (resolve host peer).outcome = .error (.failure failure) ∧
    failure.report = .ok ⟨.resolution, message, 1⟩

theorem resolveStop_eq_failure_iff {host : String} {fault : Fault} {failure : Failure} :
    resolveStop host fault = .failure failure ↔
      (fault.isSystem = true ∨ fault.isEncoding = true) ∧
        failure = .notResolved host fault := by
  unfold resolveStop Stop.ofSystem
  split_ifs with hencoding hsystem
  · simp only [Stop.failure.injEq, hencoding, or_true, true_and]
    exact eq_comm
  · simp only [Stop.failure.injEq, hsystem, true_or, true_and]
    exact eq_comm
  · simp [hencoding, hsystem]

theorem tellsUnresolved_iff [Memory] {host : String} {fault : Fault} {message : String} :
    TellsUnresolved host fault message ↔
      (fault.isSystem = true ∨ fault.isEncoding = true) ∧
        message = "No such host " ++ Text.quote host ++ ": " ++ fault.text := by
  constructor
  · rintro ⟨peer, failure, hresolution, houtcome, hreport⟩
    rw [resolve_eq_of_error hresolution, Except.error.injEq, resolveStop_eq_failure_iff]
      at houtcome
    obtain ⟨hfault, rfl⟩ := houtcome
    rw [Failure.report_eq_wording, Except.ok.injEq, Report.mk.injEq] at hreport
    exact ⟨hfault, hreport.2.1.symm⟩
  · rintro ⟨hfault, rfl⟩
    refine ⟨{ resolution := .error fault }, .notResolved host fault, rfl, ?_,
      Failure.report_eq_wording _⟩
    rw [resolve_eq_of_error rfl, resolveStop_eq_failure_iff.mpr ⟨hfault, rfl⟩]

/-- What is told of a host that is not resolved is the host in quotes and the text of the fault.  Both can be
told from the message, and the quotation has no control character and no line break in it. -/
theorem tellsUnresolved_identifies [Memory] :
    (∀ host fault message, TellsUnresolved host fault message ↔
      (fault.isSystem = true ∨ fault.isEncoding = true) ∧
        message = "No such host " ++ Text.quote host ++ ": " ++ fault.text) ∧
    (∀ host fault otherHost otherFault message,
      TellsUnresolved host fault message → TellsUnresolved otherHost otherFault message →
        host = otherHost ∧ fault.text = otherFault.text) ∧
    ∀ host, ∀ c ∈ (Text.quote host).toList, ¬ Text.IsControl c ∧ c ∉ Text.lineBreaks := by
  refine ⟨fun _ _ _ => tellsUnresolved_iff, ?_, ?_⟩
  · intro host fault otherHost otherFault message hfirst hsecond
    have hmessage := (tellsUnresolved_iff.mp hfirst).2
    rw [(tellsUnresolved_iff.mp hsecond).2] at hmessage
    simp only [String.append_assoc, String.append_right_inj] at hmessage
    obtain ⟨hhost, hbehind⟩ := Text.quote_append_inj hmessage
    rw [String.append_right_inj] at hbehind
    exact ⟨hhost.symm, hbehind.symm⟩
  · intro host c hmem
    have hprintable := Text.isPrintable_of_mem_quote hmem
    exact ⟨Text.not_isControl_of_isPrintable hprintable,
      Text.not_mem_lineBreaks_of_isPrintable hprintable⟩

/-- A host with both marks and a line break, by faults of both kinds. -/
theorem tellsUnresolved_identifies_marks :
    TellsUnresolved "a'\"\n" ⟨.encoding, "x"⟩ "No such host 'a\\'\"\\n': x" ∧
    TellsUnresolved "a'\"\n" ⟨.system .hostLookup, "x"⟩ "No such host 'a\\'\"\\n': x" ∧
    ("a'\"\n" = "a'\"\n" ∧ "x" = "x") ∧
    '\\' ∈ (Text.quote "a'\"\n").toList ∧ '\\' ∉ Text.lineBreaks := by
  have hfirst : TellsUnresolved "a'\"\n" ⟨.encoding, "x"⟩ "No such host 'a\\'\"\\n': x" :=
    (tellsUnresolved_identifies.1 _ _ _).mpr ⟨.inr rfl, by decide⟩
  have hsecond : TellsUnresolved "a'\"\n" ⟨.system .hostLookup, "x"⟩
      "No such host 'a\\'\"\\n': x" :=
    (tellsUnresolved_identifies.1 _ _ _).mpr ⟨.inl rfl, by decide⟩
  have hmem : '\\' ∈ (Text.quote "a'\"\n").toList := by
    decide
  exact ⟨hfirst, hsecond, tellsUnresolved_identifies.2.1 _ _ _ _ _ hfirst hsecond, hmem,
    (tellsUnresolved_identifies.2.2 _ _ hmem).2⟩

end Exchange

end RawPost
