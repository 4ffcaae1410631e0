import RawPost.Proofs.Blank

/-!
# Operands in their slots

Without separators every operand goes into a slot of its own: the first four into the required ones, the
next one is the body, and all others are headers.  With fewer than four operands the slots that are missing
are the ones behind them.
-/

namespace RawPost.CommandLine

/-- What operands are if none of them is a separator. -/
def slotted : List String → Except Misuse Arguments
  | method :: host :: port :: path :: others =>
    .ok ⟨some method, some host, some port, some path, others.head?, others.tail⟩
  | texts => .error (.missing (slots.drop texts.length))

/-- The item of a token that no switch has cut off. -/
def Token.item : Token → Item
  | operand text => .operand text
  | separator => .separator

theorem item_operands (texts : List String) :
    (texts.map Token.operand).map Token.item = texts.map .operand := by
  simp [Token.item, Function.comp_def]

namespace Filling

theorem fillFrom_tokens (tokens : List Token) (filling : Filling) (run : List Token) :
    fillFrom filling run (tokens.map Token.item) = filling.fillRun (run ++ tokens) := by
  induction tokens generalizing run with
  | nil => simp [fillFrom]
  | cons token tokens ih => cases token <;> simp [Token.item, fillFrom, ih]

theorem operands_arePlain {texts : List String}
    (htexts : ∀ text ∈ texts, text ≠ separatorText) :
    ∀ token ∈ texts.map Token.operand, token.IsPlain := by
  intro token hmem
  obtain ⟨text, htext, rfl⟩ := List.mem_map.mp hmem
  exact htexts text htext

theorem fillRequired_operands {count : Nat} {texts : List String}
    (htexts : ∀ text ∈ texts, text ≠ separatorText)
    (hcount : count ≤ texts.length) (filling : Filling) :
    fillRequired count filling (texts.map .operand) =
      ({ filling with required := filling.required ++ (texts.take count).map some },
        (texts.drop count).map .operand) := by
  induction count generalizing texts filling with
  | zero => simp [fillRequired]
  | succ count ih =>
      cases texts with
      | nil => simp at hcount
      | cons text texts =>
          obtain ⟨htext, hrest⟩ := List.forall_mem_cons.mp htexts
          rw [List.map_cons, fillRequired,
            splitSlot_cons htext (operands_arePlain hrest)]
          simp only [slotTexts_operand htext]
          rw [ih hrest (Nat.le_of_succ_le_succ hcount)]
          simp

/-- The operands behind the required ones: one for the body and the others for the headers. -/
theorem splitSlot_operands {texts : List String}
    (htexts : ∀ text ∈ texts, text ≠ separatorText) :
    (slotTexts (splitSlot (texts.map .operand)).1).head? = texts.head? ∧
      slotTexts (splitSlot (texts.map .operand)).2 = texts.tail := by
  cases texts with
  | nil => exact ⟨rfl, rfl⟩
  | cons text texts =>
      obtain ⟨htext, hrest⟩ := List.forall_mem_cons.mp htexts
      have hnot : separatorText ∉ texts := fun hmem => hrest _ hmem rfl
      have htexts : (texts.map Token.operand).map Token.text = texts := by
        simp [Function.comp_def, Token.text]
      rw [List.map_cons, splitSlot_cons htext (operands_arePlain hrest),
        slotTexts_operand htext, slotTexts, htexts, List.erase_of_not_mem hnot]
      exact ⟨rfl, rfl⟩

theorem filter_operands (texts : List String) :
    ((texts.map Token.operand).filter (!·.isSeparator)).length = texts.length := by
  rw [List.filter_eq_self.mpr]
  · exact List.length_map _
  · intro token hmem
    obtain ⟨text, -, rfl⟩ := List.mem_map.mp hmem
    rfl

theorem fillRun_of_few {texts : List String}
    (htexts : ∀ text ∈ texts, text ≠ separatorText) (hfew : texts.length < 4) :
    fillRun {} (texts.map .operand) = { required := texts.map some } := by
  have hmissing : (missing {}).length = 4 := rfl
  have hcount : min 4 texts.length = texts.length := Nat.min_eq_right hfew.le
  have hnot : ¬ (4 ≠ 0 ∧ 4 ≤ texts.length) := by omega
  simp only [fillRun, hmissing, filter_operands, hcount,
    fillRequired_operands htexts le_rfl, if_neg hnot]
  simp

theorem fillRun_of_enough {texts : List String}
    (htexts : ∀ text ∈ texts, text ≠ separatorText) (henough : 4 ≤ texts.length) :
    fillRun {} (texts.map .operand) =
      { required := (texts.take 4).map some
        body := (texts.drop 4).head?
        headers := (texts.drop 4).tail } := by
  have hmissing : (missing {}).length = 4 := rfl
  have hcount : min 4 texts.length = 4 := Nat.min_eq_left henough
  have hwhole : 4 ≠ 0 ∧ 4 ≤ texts.length := ⟨by decide, henough⟩
  have hothers : ∀ text ∈ texts.drop 4, text ≠ separatorText :=
    fun text hmem => htexts text (List.mem_of_mem_drop hmem)
  obtain ⟨hbody, hheaders⟩ := splitSlot_operands hothers
  simp only [fillRun, hmissing, filter_operands, hcount,
    fillRequired_operands htexts henough, if_pos hwhole, hbody, hheaders]
  rfl

theorem arguments_of_operands {texts : List String}
    (htexts : ∀ text ∈ texts, text ≠ separatorText) :
    (fillFrom {} [] (texts.map .operand)).arguments = slotted texts := by
  rw [← item_operands, fillFrom_tokens, List.nil_append]
  match texts with
  | [] => rfl
  | [method] => rw [fillRun_of_few htexts (by simp)]; rfl
  | [method, host] => rw [fillRun_of_few htexts (by simp)]; rfl
  | [method, host, port] => rw [fillRun_of_few htexts (by simp)]; rfl
  | method :: host :: port :: path :: others =>
      rw [fillRun_of_enough htexts (by simp)]
      rfl

end Filling

end RawPost.CommandLine
