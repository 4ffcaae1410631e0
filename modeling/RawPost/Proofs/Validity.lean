import RawPost.Proofs.Variables

/-!
# Valid settings

Settings that come out of the merged layers have passed all four checks.  The environment leaves no number
blank, so only a layer above it can.
-/

namespace RawPost

namespace Settings

structure IsValid (settings : Settings) : Prop where
  responseLimit_pos : 1 ≤ settings.responseLimit
  chunkSize_pos : 1 ≤ settings.chunkSize
  connectTimeout : isExpired settings.connectTimeout = false
  readTimeout : isExpired settings.readTimeout = false

theorem checked_eq_ok {α : Type} {quantity : Quantity} {isBad : α → Bool}
    {entry : Option (Entry α)} {default a : α}
    (hchecked : checked quantity isBad entry default = .ok a) :
    isBad a = false := by
  unfold checked at hchecked
  split at hchecked
  next => simp at hchecked
  next value hvalue =>
    by_cases hbad : isBad value = true
    · simp [hbad] at hchecked
    · rw [if_neg hbad, Except.ok.injEq] at hchecked
      rw [← hchecked]
      simpa using hbad

theorem isValid_of_settle {layer : Layer} {settings : Settings}
    (hsettle : layer.settle = .ok settings) : settings.IsValid := by
  unfold Layer.settle at hsettle
  obtain ⟨responseLimit, hlimit, hsettle⟩ := exists_of_bind_eq_ok hsettle
  obtain ⟨chunkSize, hchunk, hsettle⟩ := exists_of_bind_eq_ok hsettle
  obtain ⟨connectTimeout, hconnect, hsettle⟩ := exists_of_bind_eq_ok hsettle
  obtain ⟨readTimeout, hread, hsettle⟩ := exists_of_bind_eq_ok hsettle
  simp only [pure, Except.pure, Except.ok.injEq] at hsettle
  have hlimitPositive := checked_eq_ok hlimit
  have hchunkPositive := checked_eq_ok hchunk
  rw [decide_eq_false_iff_not, Int.not_le] at hlimitPositive hchunkPositive
  rw [← hsettle]
  exact ⟨hlimitPositive, hchunkPositive, checked_eq_ok hconnect,
    checked_eq_ok hread⟩

theorem isValid_of_ofEnvironment {environment : Environment} {above : Layer}
    {settings : Settings}
    (hsettled : ofEnvironment environment above = .ok settings) :
    settings.IsValid := by
  obtain ⟨below, _, hsettle⟩ := exists_of_bind_eq_ok hsettled
  exact isValid_of_settle hsettle

/-! ## Blank numbers -/

/-- No number of the layer is blank. -/
structure Layer.IsFilled (layer : Layer) : Prop where
  connectTimeout : layer.connectTimeout ≠ some .blank
  readTimeout : layer.readTimeout ≠ some .blank
  responseLimit : layer.responseLimit ≠ some .blank

theorem checked_ne_blank {α : Type} {quantity other : Quantity}
    {isBad : α → Bool} {entry : Option (Entry α)} {default : α}
    (hentry : entry ≠ some .blank) :
    checked quantity isBad entry default ≠ .error (.blank other) := by
  cases entry with
  | none =>
      simp only [checked, Option.getD_none]
      split <;> simp
  | some entry =>
      cases entry with
      | blank => exact absurd rfl hentry
      | value a =>
          simp only [checked, Option.getD_some]
          split <;> simp

theorem ne_blank_of_checked {α : Type} {quantity : Quantity} {isBad : α → Bool}
    {entry : Option (Entry α)} {default a : α}
    (hchecked : checked quantity isBad entry default = .ok a) : entry ≠ some .blank := by
  rintro rfl
  simp [checked] at hchecked

theorem isFilled_of_settle {layer : Layer} {settings : Settings}
    (hsettle : layer.settle = .ok settings) : layer.IsFilled := by
  unfold Layer.settle at hsettle
  obtain ⟨_, hlimit, hsettle⟩ := exists_of_bind_eq_ok hsettle
  obtain ⟨_, _, hsettle⟩ := exists_of_bind_eq_ok hsettle
  obtain ⟨_, hconnect, hsettle⟩ := exists_of_bind_eq_ok hsettle
  obtain ⟨_, hread, hsettle⟩ := exists_of_bind_eq_ok hsettle
  exact ⟨ne_blank_of_checked hconnect, ne_blank_of_checked hread,
    ne_blank_of_checked hlimit⟩

theorem Layer.IsFilled.settle_ne_blank {layer : Layer}
    (hfilled : layer.IsFilled) (quantity : Quantity) :
    layer.settle ≠ .error (.blank quantity) := by
  intro hblank
  have hchunk : layer.chunkSize.map Entry.value ≠ some .blank := by
    cases layer.chunkSize <;> simp
  rcases cases_of_bind_eq_error hblank with hblank | ⟨_, -, hblank⟩
  · exact checked_ne_blank hfilled.responseLimit hblank
  rcases cases_of_bind_eq_error hblank with hblank | ⟨_, -, hblank⟩
  · exact checked_ne_blank hchunk hblank
  rcases cases_of_bind_eq_error hblank with hblank | ⟨_, -, hblank⟩
  · exact checked_ne_blank hfilled.connectTimeout hblank
  rcases cases_of_bind_eq_error hblank with hblank | ⟨_, -, hblank⟩
  · exact checked_ne_blank hfilled.readTimeout hblank
  · simp [pure, Except.pure] at hblank

theorem Layer.IsFilled.over {upper lower : Layer} (hupper : upper.IsFilled)
    (hlower : lower.IsFilled) : (upper.over lower).IsFilled := by
  have hor {α : Type} {one other : Option (Entry α)} (hone : one ≠ some .blank)
      (hother : other ≠ some .blank) : one.or other ≠ some .blank := by
    cases one with
    | none => exact hother
    | some entry => exact hone
  exact ⟨hor hupper.connectTimeout hlower.connectTimeout,
    hor hupper.readTimeout hlower.readTimeout,
    hor hupper.responseLimit hlower.responseLimit⟩

theorem Layer.IsFilled.of_over {upper lower : Layer}
    (hmerged : (upper.over lower).IsFilled) : upper.IsFilled := by
  constructor
  · intro hblank
    exact hmerged.connectTimeout (by simp [Layer.over, hblank])
  · intro hblank
    exact hmerged.readTimeout (by simp [Layer.over, hblank])
  · intro hblank
    exact hmerged.responseLimit (by simp [Layer.over, hblank])

theorem readVariable_ne_blank {α : Type} {environment : Environment}
    {name : String} {read? : String → Option α}
    {defect : String → String → Defect} {entry : Option (Entry α)}
    (hread : readVariable environment name read? defect = .ok entry) :
    entry ≠ some .blank := by
  unfold readVariable at hread
  split at hread
  next =>
    rw [Except.ok.injEq] at hread
    simp [← hread]
  next raw hraw =>
    split at hread
    next => simp at hread
    next value hvalue =>
      rw [Except.ok.injEq] at hread
      simp [← hread]

theorem isFilled_of_ofEnvironment {environment : Environment} {layer : Layer}
    (hlayer : Layer.ofEnvironment environment = .ok layer) : layer.IsFilled := by
  have hread := isReadFrom_of_ofEnvironment hlayer
  exact ⟨readVariable_ne_blank hread.connectTimeout,
    readVariable_ne_blank hread.readTimeout, readVariable_ne_blank hread.responseLimit⟩

theorem readVariable_ne_error {α : Type} {environment : Environment}
    {name : String} {read? : String → Option α}
    {defect : String → String → Defect} {quantity : Quantity}
    (hdefect : ∀ raw, defect name raw ≠ .blank quantity) :
    readVariable environment name read? defect ≠ .error (.blank quantity) := by
  unfold readVariable
  split
  next => simp
  next raw hraw =>
    split
    next => simpa using hdefect raw
    next => simp

theorem ofEnvironment_layer_ne_blank (environment : Environment)
    (quantity : Quantity) :
    Layer.ofEnvironment environment ≠ .error (.blank quantity) := by
  intro hblank
  rcases cases_of_bind_eq_error hblank with hblank | ⟨_, -, hblank⟩
  · exact readVariable_ne_error (by simp) hblank
  rcases cases_of_bind_eq_error hblank with hblank | ⟨_, -, hblank⟩
  · exact readVariable_ne_error (by simp) hblank
  rcases cases_of_bind_eq_error hblank with hblank | ⟨_, -, hblank⟩
  · exact readVariable_ne_error (by simp) hblank
  · simp [pure, Except.pure] at hblank

/-- Only a layer above the environment can leave a number blank. -/
theorem ofEnvironment_ne_blank {above : Layer} (habove : above.IsFilled)
    (environment : Environment) (quantity : Quantity) :
    ofEnvironment environment above ≠ .error (.blank quantity) := by
  intro hblank
  rcases cases_of_bind_eq_error hblank with hblank | ⟨below, hbelow, hblank⟩
  · exact ofEnvironment_layer_ne_blank environment quantity hblank
  · have hmerged := habove.over (isFilled_of_ofEnvironment hbelow)
    exact hmerged.settle_ne_blank quantity hblank

end Settings

end RawPost
