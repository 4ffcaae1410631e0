import RawPost.Proofs.Deadline
import RawPost.Proofs.Readings

/-!
# Merged settings

Each setting comes from the layer above the environment, else from its variable, else it is the default.
What a variable gives is known without running anything: it is what its text stands for.  So the merged
layers have, for every setting, the one value that comes from where it should, and only that value is
checked.
-/

namespace RawPost.Settings

/-! ## Where a value comes from -/

/-- A value is the one of the layer above, else what the variable stands for, else the default. -/
inductive ComesFrom {α : Type} (above : Option α) (environment : Environment) (name : String)
    (Reads : String → α → Prop) (default : α) : α → Prop
  | above {a : α} (habove : above = some a) : ComesFrom above environment name Reads default a
  | variable {raw : String} {a : α} (habove : above = none)
      (hset : environment.lookup name = some raw) (hreads : Reads raw a) :
      ComesFrom above environment name Reads default a
  | default (habove : above = none) (hset : environment.lookup name = none) :
      ComesFrom above environment name Reads default default

/-- What a variable gives for a number is a value, never a blank. -/
inductive Gives {α : Type} (Reads : String → α → Prop) (raw : String) : Entry α → Prop
  | value {a : α} (hreads : Reads raw a) : Gives Reads raw (.value a)

/-- The entry of a number that is checked. -/
def Merges {α : Type} (above : Option (Entry α)) (environment : Environment) (name : String)
    (Reads : String → α → Prop) (default : α) : Entry α → Prop :=
  ComesFrom above environment name (Gives Reads) (.value default)

def MergesConnectTimeout (environment : Environment) (above : Layer) : Entry Timeout → Prop :=
  Merges above.connectTimeout environment connectTimeoutVariable ReadsTimeout
    defaults.connectTimeout

def MergesReadTimeout (environment : Environment) (above : Layer) : Entry Timeout → Prop :=
  Merges above.readTimeout environment readTimeoutVariable ReadsTimeout defaults.readTimeout

def MergesResponseLimit (environment : Environment) (above : Layer) : Entry Int → Prop :=
  Merges above.responseLimit environment responseLimitVariable ReadsLimit
    defaults.responseLimit

/-- Every setting is where it comes from; four of them may come from a variable. -/
structure IsMerged (environment : Environment) (above : Layer) (settings : Settings) : Prop where
  defaultHost : settings.defaultHost = above.defaultHost.getD defaults.defaultHost
  defaultPort : settings.defaultPort = above.defaultPort.getD defaults.defaultPort
  version : settings.version = above.version.getD defaults.version
  connectTimeout : MergesConnectTimeout environment above (.value settings.connectTimeout)
  readTimeout : MergesReadTimeout environment above (.value settings.readTimeout)
  responseLimit : MergesResponseLimit environment above (.value settings.responseLimit)
  chunkSize : settings.chunkSize = above.chunkSize.getD defaults.chunkSize
  printResponse : settings.printResponse = above.printResponse.getD defaults.printResponse
  debug :
    ComesFrom above.debug environment debugVariable ReadsSwitch defaults.debug settings.debug

/-! ## What is rejected -/

/-- A number of seconds that is zero or less; what is no number is not. -/
def IsAtMostZero (timeout : Timeout) : Prop :=
  ∃ seconds ∈ timeout, seconds.isNaN = false ∧ seconds.units ≤ 0

inductive Rejects {α : Type} (quantity : Quantity) (TooSmall : α → Prop) :
    Entry α → Defect → Prop
  | blank : Rejects quantity TooSmall .blank (.blank quantity)
  | tooSmall {a : α} (ha : TooSmall a) :
      Rejects quantity TooSmall (.value a) (.notPositive quantity)

/-! ## What the variables offer -/

/-- What stands below a layer for one value: nothing, or the one thing that the variable stands for. -/
inductive Offers {α : Type} (environment : Environment) (name : String)
    (Reads : String → α → Prop) : Option α → Prop
  | unset (hset : environment.lookup name = none) : Offers environment name Reads none
  | set {raw : String} {a : α} (hset : environment.lookup name = some raw)
      (hreads : ∀ b, Reads raw b ↔ b = a) : Offers environment name Reads (some a)

variable {α : Type} {environment first second : Environment} {above below : Layer}
  {settings : Settings} {defect : Defect}

theorem readVariable_eq_ok {name : String} {read? : String → Option α}
    {make : String → String → Defect} {Reads : String → α → Prop} {below : Option (Entry α)}
    (hread : ∀ raw a, read? raw = some a ↔ Reads raw a)
    (hbelow : readVariable environment name read? make = .ok below) :
    Offers environment name (Gives Reads) below := by
  unfold readVariable at hbelow
  split at hbelow
  next hset =>
    rw [Except.ok.injEq] at hbelow
    rw [← hbelow]
    exact .unset hset
  next raw hset =>
    split at hbelow
    next => contradiction
    next a hvalue =>
      rw [Except.ok.injEq] at hbelow
      rw [← hbelow]
      refine .set hset fun entry => ⟨?_, ?_⟩
      · intro hgives
        cases hgives with
        | value hreads =>
            rw [← hread, hvalue, Option.some.injEq] at hreads
            rw [hreads]
      · rintro rfl
        exact .value ((hread raw a).mp hvalue)

/-- What stands below a layer, one value after the other. -/
structure OffersAll (environment : Environment) (below : Layer) : Prop where
  connectTimeout : Offers environment connectTimeoutVariable (Gives ReadsTimeout)
    below.connectTimeout
  readTimeout : Offers environment readTimeoutVariable (Gives ReadsTimeout) below.readTimeout
  responseLimit : Offers environment responseLimitVariable (Gives ReadsLimit)
    below.responseLimit
  debug : Offers environment debugVariable ReadsSwitch below.debug
  eq : below =
    { connectTimeout := below.connectTimeout
      readTimeout := below.readTimeout
      responseLimit := below.responseLimit
      debug := below.debug }

theorem offers_debug (environment : Environment) :
    Offers environment debugVariable ReadsSwitch
      ((environment.lookup debugVariable).map isOn) := by
  cases hset : environment.lookup debugVariable with
  | none => exact .unset hset
  | some raw =>
      refine .set hset fun on => ?_
      rw [← isOn_eq_iff, eq_comm]

theorem offersAll_of_ofEnvironment (hbelow : Layer.ofEnvironment environment = .ok below) :
    OffersAll environment below := by
  have hfrom := isReadFrom_of_ofEnvironment hbelow
  have hdebug : below.debug = (environment.lookup debugVariable).map isOn := by
    rw [hfrom.eq]
  constructor
  · exact readVariable_eq_ok (fun _ _ => readTimeout?_eq_some_iff) hfrom.connectTimeout
  · exact readVariable_eq_ok (fun _ _ => readTimeout?_eq_some_iff) hfrom.readTimeout
  · exact readVariable_eq_ok (fun _ _ => readLimit?_eq_some_iff) hfrom.responseLimit
  · rw [hdebug]
    exact offers_debug environment
  · rw [hdebug]
    exact hfrom.eq

/-- Only what a variable can give is merged at all. -/
theorem OffersAll.over_eq (hoffers : OffersAll environment below) :
    above.over below =
      { above with
        connectTimeout := above.connectTimeout.or below.connectTimeout
        readTimeout := above.readTimeout.or below.readTimeout
        responseLimit := above.responseLimit.or below.responseLimit
        debug := above.debug.or below.debug } := by
  rw [Layer.over, hoffers.eq]
  simp only [Option.or_none]

/-! ## Merging -/

section Merging

variable {name : String} {Reads : String → α → Prop} {upper lower : Option α} {default a b : α}

theorem comesFrom_given :
    ComesFrom (some b) environment name Reads default a ↔ b = a := by
  constructor
  · rintro (⟨habove⟩ | ⟨habove, -, -⟩ | ⟨habove, -⟩)
    · exact Option.some.inj habove
    · contradiction
    · contradiction
  · rintro rfl
    exact .above rfl

theorem comesFrom_unset (hset : environment.lookup name = none) :
    ComesFrom none environment name Reads default a ↔ default = a := by
  constructor
  · rintro (⟨habove⟩ | ⟨-, hraw, -⟩ | -)
    · contradiction
    · rw [hset] at hraw
      contradiction
    · rfl
  · rintro rfl
    exact .default rfl hset

theorem comesFrom_set {raw : String} (hset : environment.lookup name = some raw) :
    ComesFrom none environment name Reads default a ↔ Reads raw a := by
  constructor
  · rintro (⟨habove⟩ | ⟨-, hraw, hreads⟩ | ⟨-, hnone⟩)
    · contradiction
    · rw [hset, Option.some.injEq] at hraw
      rwa [hraw]
    · rw [hset] at hnone
      contradiction
  · exact .variable rfl hset

theorem comesFrom_iff (hoffers : Offers environment name Reads lower) :
    ComesFrom upper environment name Reads default a ↔ (upper.or lower).getD default = a := by
  cases upper with
  | some b => exact comesFrom_given
  | none =>
      cases hoffers with
      | unset hset => exact comesFrom_unset hset
      | set hset hreads =>
          rw [comesFrom_set hset, hreads a, eq_comm]
          rfl

theorem ComesFrom.unique (hoffers : Offers environment name Reads lower)
    (ha : ComesFrom upper environment name Reads default a)
    (hb : ComesFrom upper environment name Reads default b) : a = b := by
  rw [← (comesFrom_iff hoffers).mp ha, (comesFrom_iff hoffers).mp hb]

theorem ComesFrom.of_lookup
    (hlookup : upper = none → first.lookup name = second.lookup name)
    (hfrom : ComesFrom upper first name Reads default a) :
    ComesFrom upper second name Reads default a := by
  cases hfrom with
  | above habove => exact .above habove
  | «variable» habove hset hreads =>
      rw [hlookup habove] at hset
      exact .variable habove hset hreads
  | default habove hset =>
      rw [hlookup habove] at hset
      exact .default habove hset

end Merging

/-! ## Checking -/

theorem isExpired_iff {timeout : Timeout} : isExpired timeout = true ↔ IsAtMostZero timeout := by
  cases timeout with
  | none => simp [isExpired, IsAtMostZero]
  | some seconds =>
      have hseconds := seconds.isNonpositive_eq_false_iff
      rw [← Bool.not_eq_true, not_iff_comm, not_or, Bool.not_eq_true, Int.not_lt] at hseconds
      simp [isExpired, IsAtMostZero, hseconds.symm]

theorem checked_eq_error_iff {quantity : Quantity} {isBad : α → Bool}
    {TooSmall : α → Prop} {entry : Option (Entry α)} {default : α}
    (hbad : ∀ a, isBad a = true ↔ TooSmall a) :
    checked quantity isBad entry default = .error defect ↔
      Rejects quantity TooSmall (entry.getD (.value default)) defect := by
  unfold checked
  cases entry.getD (.value default) with
  | blank =>
      constructor
      · intro herror
        rw [← Except.error.inj herror]
        exact .blank
      · rintro ⟨⟩
        rfl
  | value a =>
      change (if isBad a = true then .error (.notPositive quantity) else .ok a) =
        Except.error defect ↔ _
      constructor
      · intro herror
        by_cases ha : isBad a = true
        · rw [if_pos ha, Except.error.injEq] at herror
          rw [← herror]
          exact .tooSmall ((hbad a).mp ha)
        · rw [if_neg ha] at herror
          contradiction
      · rintro (_ | ha)
        rw [if_pos ((hbad a).mpr ha)]

theorem getD_map_value (given : Option α) (default : α) :
    (given.map Entry.value).getD (.value default) = .value (given.getD default) := by
  cases given <;> rfl

theorem getD_of_checked {quantity : Quantity} {isBad : α → Bool}
    {entry : Option (Entry α)} {default a : α}
    (hchecked : checked quantity isBad entry default = .ok a) :
    entry.getD (.value default) = .value a := by
  unfold checked at hchecked
  split at hchecked
  next => contradiction
  next b hb =>
    split at hchecked
    next => contradiction
    next => rw [hb, Except.ok.inj hchecked]

theorem checked_merged_eq_error_iff {quantity : Quantity} {isBad : α → Bool}
    {TooSmall : α → Prop} {name : String} {Reads : String → α → Prop}
    {upper lower : Option (Entry α)} {default : α}
    (hbad : ∀ a, isBad a = true ↔ TooSmall a)
    (hoffers : Offers environment name (Gives Reads) lower) :
    checked quantity isBad (upper.or lower) default = .error defect ↔
      ∃ entry, Merges upper environment name Reads default entry ∧
        Rejects quantity TooSmall entry defect := by
  simp only [checked_eq_error_iff hbad, Merges, comesFrom_iff hoffers, exists_eq_left']

/-! ## Settled layers -/

theorem isMerged_of_settle (hoffers : OffersAll environment below)
    (hsettle : (above.over below).settle = .ok settings) :
    IsMerged environment above settings := by
  unfold Layer.settle at hsettle
  obtain ⟨responseLimit, hlimit, hsettle⟩ := exists_of_bind_eq_ok hsettle
  obtain ⟨chunkSize, hchunk, hsettle⟩ := exists_of_bind_eq_ok hsettle
  obtain ⟨connectTimeout, hconnect, hsettle⟩ := exists_of_bind_eq_ok hsettle
  obtain ⟨readTimeout, hread, hsettle⟩ := exists_of_bind_eq_ok hsettle
  simp only [pure, Except.pure, Except.ok.injEq] at hsettle
  rw [← hsettle]
  constructor
  case defaultHost => rw [hoffers.over_eq]
  case defaultPort => rw [hoffers.over_eq]
  case version => rw [hoffers.over_eq]
  case connectTimeout =>
    exact (comesFrom_iff hoffers.connectTimeout).mpr (getD_of_checked hconnect)
  case readTimeout => exact (comesFrom_iff hoffers.readTimeout).mpr (getD_of_checked hread)
  case responseLimit => exact (comesFrom_iff hoffers.responseLimit).mpr (getD_of_checked hlimit)
  case chunkSize =>
    rw [hoffers.over_eq] at hchunk
    have hvalue := getD_of_checked hchunk
    rw [getD_map_value, Entry.value.injEq] at hvalue
    exact hvalue.symm
  case printResponse => rw [hoffers.over_eq]
  case debug => exact (comesFrom_iff hoffers.debug).mpr rfl

theorem IsMerged.unique {other : Settings} (hoffers : OffersAll environment below)
    (hmerged : IsMerged environment above settings)
    (hother : IsMerged environment above other) : settings = other := by
  have hconnect := hmerged.connectTimeout.unique hoffers.connectTimeout hother.connectTimeout
  have hread := hmerged.readTimeout.unique hoffers.readTimeout hother.readTimeout
  have hlimit := hmerged.responseLimit.unique hoffers.responseLimit hother.responseLimit
  rw [Entry.value.injEq] at hconnect hread hlimit
  cases settings
  cases other
  rw [Settings.mk.injEq]
  exact ⟨hmerged.defaultHost.trans hother.defaultHost.symm,
    hmerged.defaultPort.trans hother.defaultPort.symm,
    hmerged.version.trans hother.version.symm, hconnect, hread, hlimit,
    hmerged.chunkSize.trans hother.chunkSize.symm,
    hmerged.printResponse.trans hother.printResponse.symm,
    hmerged.debug.unique hoffers.debug hother.debug⟩

end RawPost.Settings
