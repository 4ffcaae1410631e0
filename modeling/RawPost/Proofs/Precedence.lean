import RawPost.Proofs.Merging
import RawPost.Settings.Defect

/-!
# Where each setting comes from

Settings are decided in two phases.  First every variable that is set has to be well formed, whether or not
its setting is used, and the first one that is not is named.  Then each setting is taken from the layer above
the environment, else from its variable, else it has its default, and only what has been taken is checked, in
an order of its own.

The relation below says this without running either phase, and the settings of an environment are the one
result that it allows.  It asks of the environment no more than four variables, and of a variable that is
hidden no more than whether it is well formed.
-/

namespace RawPost

/-- The first in the order of which anything is said, and what is said of it. -/
def First {ι δ : Type} (order : List ι) (Says : ι → δ → Prop) (d : δ) : Prop :=
  ∃ before i after, order = before ++ i :: after ∧ (∀ j ∈ before, ∀ e, ¬ Says j e) ∧ Says i d

section First

variable {ι δ α β : Type} {Says : ι → δ → Prop} {i : ι} {rest : List ι} {d : δ}

theorem not_first_nil : ¬ First [] Says d := by
  rintro ⟨before, i, after, hsplit, -, -⟩
  exact List.cons_ne_nil i after (List.append_eq_nil_iff.mp hsplit.symm).2

theorem first_cons_iff :
    First (i :: rest) Says d ↔ Says i d ∨ (∀ e, ¬ Says i e) ∧ First rest Says d := by
  constructor
  · rintro ⟨before, j, after, hsplit, hquiet, hsaid⟩
    cases before with
    | nil =>
        obtain ⟨rfl, -⟩ := List.cons.inj hsplit
        exact .inl hsaid
    | cons head before =>
        obtain ⟨rfl, hrest⟩ := List.cons.inj hsplit
        obtain ⟨hhead, hbefore⟩ := List.forall_mem_cons.mp hquiet
        exact .inr ⟨hhead, before, j, after, hrest, hbefore, hsaid⟩
  · rintro (hsaid | ⟨hhead, before, j, after, rfl, hbefore, hsaid⟩)
    · exact ⟨[], i, rest, rfl, by simp, hsaid⟩
    · exact ⟨i :: before, j, after, rfl, List.forall_mem_cons.mpr ⟨hhead, hbefore⟩, hsaid⟩

/-- Where nothing comes first, nothing is said at all. -/
theorem quiet_of_not_first {order : List ι} (hnone : ∀ d, ¬ First order Says d) :
    ∀ i ∈ order, ∀ d, ¬ Says i d := by
  induction order with
  | nil => simp
  | cons i rest ih =>
      have hhead : ∀ d, ¬ Says i d := by
        intro d hsaid
        exact hnone d (first_cons_iff.mpr (.inl hsaid))
      refine List.forall_mem_cons.mpr ⟨hhead, ih ?_⟩
      intro d hfirst
      exact hnone d (first_cons_iff.mpr (.inr ⟨hhead, hfirst⟩))

theorem not_first_of_quiet {order : List ι} (hquiet : ∀ i d, ¬ Says i d) :
    ¬ First order Says d := by
  rintro ⟨before, i, after, -, -, hsaid⟩
  exact hquiet i d hsaid

theorem first_congr {order : List ι} {Other : ι → δ → Prop}
    (hsame : ∀ i e, Says i e ↔ Other i e) (hfirst : First order Says d) : First order Other d := by
  obtain ⟨before, i, after, hsplit, hquiet, hsaid⟩ := hfirst
  refine ⟨before, i, after, hsplit, ?_, (hsame i d).mp hsaid⟩
  intro j hj e hother
  exact hquiet j hj e ((hsame j e).mpr hother)

/-- One part of a sequence: what it fails with is said of it, and the order goes on where it passes. -/
theorem bind_eq_error_iff_first {part : Except δ α} {next : α → Except δ β}
    (hpart : ∀ e, part = .error e ↔ Says i e)
    (hnext : ∀ a, part = .ok a → (next a = .error d ↔ First rest Says d)) :
    part >>= next = .error d ↔ First (i :: rest) Says d := by
  rw [first_cons_iff]
  cases hresult : part with
  | error e =>
      have hsaid : Says i e := (hpart e).mp hresult
      change Except.error e = .error d ↔ _
      rw [Except.error.injEq]
      constructor
      · rintro rfl
        exact .inl hsaid
      · rintro (hd | ⟨hquiet, -⟩)
        · rw [← hpart d, hresult, Except.error.injEq] at hd
          exact hd
        · exact absurd hsaid (hquiet e)
  | ok a =>
      have hquiet : ∀ e, ¬ Says i e := by
        intro e hsaid
        rw [← hpart e, hresult] at hsaid
        contradiction
      change next a = .error d ↔ _
      rw [hnext a hresult]
      simp [hquiet]

end First

namespace Settings

/-! ## Well-formed variables -/

/-- The variables that have to be well formed. -/
inductive StrictVariable where
  | connectTimeout
  | readTimeout
  | responseLimit
  deriving DecidableEq, Repr

namespace StrictVariable

def order : List StrictVariable :=
  [connectTimeout, readTimeout, responseLimit]

def name : StrictVariable → String
  | connectTimeout => connectTimeoutVariable
  | readTimeout => readTimeoutVariable
  | responseLimit => responseLimitVariable

/-- The text stands for nothing that the variable could give. -/
def Malformed (strict : StrictVariable) (raw : String) : Prop :=
  match strict with
  | connectTimeout | readTimeout => ∀ timeout, ¬ ReadsTimeout raw timeout
  | responseLimit => ∀ limit, ¬ ReadsLimit raw limit

def defect (strict : StrictVariable) (raw : String) : Defect :=
  match strict with
  | connectTimeout | readTimeout => .malformedSeconds strict.name raw
  | responseLimit => .malformedInteger strict.name raw

def demand : StrictVariable → String
  | connectTimeout | readTimeout => "a number of seconds"
  | responseLimit => "an integer"

/-- The name of the variable, what it should be, and its text as it stands. -/
def complaint (strict : StrictVariable) (raw : String) : String :=
  strict.name ++ " must be " ++ strict.demand ++ ", got " ++ Text.quote raw

theorem message_defect (strict : StrictVariable) (raw : String) :
    (strict.defect raw).message = strict.complaint raw := by
  cases strict <;>
    · simp only [defect, Defect.message, complaint, demand, String.append_assoc]
      rfl

theorem mem_order (strict : StrictVariable) : strict ∈ order := by
  cases strict <;> decide

end StrictVariable

/-- The variable is set to a malformed text. -/
inductive Malforms (environment : Environment) (strict : StrictVariable) : Defect → Prop
  | intro {raw : String} (hset : environment.lookup strict.name = some raw)
      (hmalformed : strict.Malformed raw) : Malforms environment strict (strict.defect raw)

/-! ## What is refused -/

def Quantity.order : List Quantity :=
  [.responseLimit, .chunkSize, .connectTimeout, .readTimeout]

theorem Quantity.mem_order (quantity : Quantity) : quantity ∈ order := by
  cases quantity <;> decide

/-- The merged entry of the quantity is rejected. -/
def Refuses (environment : Environment) (above : Layer) (quantity : Quantity) (defect : Defect) :
    Prop :=
  match quantity with
  | .responseLimit => ∃ entry, MergesResponseLimit environment above entry ∧
      Rejects .responseLimit (· ≤ 0) entry defect
  | .chunkSize =>
      Rejects .chunkSize (· ≤ 0) (.value (above.chunkSize.getD defaults.chunkSize)) defect
  | .connectTimeout => ∃ entry, MergesConnectTimeout environment above entry ∧
      Rejects .connectTimeout IsAtMostZero entry defect
  | .readTimeout => ∃ entry, MergesReadTimeout environment above entry ∧
      Rejects .readTimeout IsAtMostZero entry defect

/-- How an environment and the layer above it are decided. -/
inductive Decides (environment : Environment) (above : Layer) : Except Defect Settings → Prop
  | malformed {defect : Defect}
      (hfirst : First StrictVariable.order (Malforms environment) defect) :
      Decides environment above (.error defect)
  | refused {defect : Defect} (hwell : ∀ strict defect, ¬ Malforms environment strict defect)
      (hfirst : First Quantity.order (Refuses environment above) defect) :
      Decides environment above (.error defect)
  | settled {settings : Settings}
      (hwell : ∀ strict defect, ¬ Malforms environment strict defect)
      (hallowed : ∀ quantity defect, ¬ Refuses environment above quantity defect)
      (hmerged : IsMerged environment above settings) :
      Decides environment above (.ok settings)

section Variable

variable {α : Type} {environment : Environment} {read? : String → Option α}
  {make : String → String → Defect} {Reads : String → α → Prop}

theorem readVariable_eq_error_iff {strict : StrictVariable} {defect : Defect}
    (hread : ∀ raw a, read? raw = some a ↔ Reads raw a)
    (hmalformed : ∀ raw, strict.Malformed raw ↔ ∀ a, ¬ Reads raw a)
    (hmake : ∀ raw, make strict.name raw = strict.defect raw) :
    readVariable environment strict.name read? make = .error defect ↔
      Malforms environment strict defect := by
  constructor
  · intro herror
    unfold readVariable at herror
    split at herror
    next => contradiction
    next raw hset =>
      split at herror
      next hnone =>
        rw [Except.error.injEq, hmake] at herror
        rw [← herror]
        refine .intro hset ((hmalformed raw).mpr ?_)
        intro a hreads
        rw [(hread raw a).mpr hreads] at hnone
        contradiction
      next => contradiction
  · intro hmalforms
    cases hmalforms with
    | @intro raw hset hbad =>
        have hnone : read? raw = none := by
          rw [Option.eq_none_iff_forall_ne_some]
          intro a hvalue
          exact (hmalformed raw).mp hbad a ((hread raw a).mp hvalue)
        simp only [readVariable, hset, hnone, hmake]

end Variable

variable {environment first second : Environment} {above below : Layer} {defect : Defect}
  {settings : Settings}

theorem ofEnvironment_layer_eq_error_iff :
    Layer.ofEnvironment environment = .error defect ↔
      First StrictVariable.order (Malforms environment) defect := by
  have hconnect (e : Defect) :
      readVariable environment StrictVariable.connectTimeout.name readTimeout? .malformedSeconds =
          .error e ↔
        Malforms environment .connectTimeout e :=
    readVariable_eq_error_iff (fun _ _ => readTimeout?_eq_some_iff) (fun _ => Iff.rfl) fun _ => rfl
  have hread (e : Defect) :
      readVariable environment StrictVariable.readTimeout.name readTimeout? .malformedSeconds =
          .error e ↔
        Malforms environment .readTimeout e :=
    readVariable_eq_error_iff (fun _ _ => readTimeout?_eq_some_iff) (fun _ => Iff.rfl) fun _ => rfl
  have hlimit (e : Defect) :
      readVariable environment StrictVariable.responseLimit.name readLimit? .malformedInteger =
          .error e ↔
        Malforms environment .responseLimit e :=
    readVariable_eq_error_iff (fun _ _ => readLimit?_eq_some_iff) (fun _ => Iff.rfl) fun _ => rfl
  refine bind_eq_error_iff_first hconnect fun _ _ => ?_
  refine bind_eq_error_iff_first hread fun _ _ => ?_
  refine bind_eq_error_iff_first hlimit fun _ _ => ?_
  simp [pure, Except.pure, not_first_nil]

theorem settle_eq_error_iff (hoffers : OffersAll environment below) :
    (above.over below).settle = .error defect ↔
      First Quantity.order (Refuses environment above) defect := by
  have hlimit (e : Defect) :
      checked .responseLimit (· ≤ 0) (above.over below).responseLimit defaults.responseLimit =
          .error e ↔
        Refuses environment above .responseLimit e :=
    checked_merged_eq_error_iff (fun _ => decide_eq_true_iff) hoffers.responseLimit
  have hchunk (e : Defect) :
      checked .chunkSize (· ≤ 0) ((above.over below).chunkSize.map .value) defaults.chunkSize =
          .error e ↔
        Refuses environment above .chunkSize e := by
    rw [hoffers.over_eq, checked_eq_error_iff fun _ => decide_eq_true_iff, getD_map_value]
    rfl
  have hconnect (e : Defect) :
      checked .connectTimeout isExpired (above.over below).connectTimeout
          defaults.connectTimeout = .error e ↔
        Refuses environment above .connectTimeout e :=
    checked_merged_eq_error_iff (fun _ => isExpired_iff) hoffers.connectTimeout
  have hread (e : Defect) :
      checked .readTimeout isExpired (above.over below).readTimeout defaults.readTimeout =
          .error e ↔
        Refuses environment above .readTimeout e :=
    checked_merged_eq_error_iff (fun _ => isExpired_iff) hoffers.readTimeout
  refine bind_eq_error_iff_first hlimit fun _ _ => ?_
  refine bind_eq_error_iff_first hchunk fun _ _ => ?_
  refine bind_eq_error_iff_first hconnect fun _ _ => ?_
  refine bind_eq_error_iff_first hread fun _ _ => ?_
  simp [pure, Except.pure, not_first_nil]

/-! ## Both phases -/

theorem wellFormed_of_ofEnvironment (hbelow : Layer.ofEnvironment environment = .ok below)
    (strict : StrictVariable) (defect : Defect) : ¬ Malforms environment strict defect := by
  refine quiet_of_not_first ?_ strict strict.mem_order defect
  intro d hfirst
  rw [← ofEnvironment_layer_eq_error_iff, hbelow] at hfirst
  contradiction

theorem allowed_of_settle (hoffers : OffersAll environment below)
    (hsettle : (above.over below).settle = .ok settings) (quantity : Quantity)
    (defect : Defect) : ¬ Refuses environment above quantity defect := by
  refine quiet_of_not_first ?_ quantity quantity.mem_order defect
  intro d hfirst
  rw [← settle_eq_error_iff hoffers, hsettle] at hfirst
  contradiction

theorem decides_ofEnvironment (environment : Environment) (above : Layer) :
    Decides environment above (ofEnvironment environment above) := by
  unfold ofEnvironment
  cases hbelow : Layer.ofEnvironment environment with
  | error d => exact .malformed (ofEnvironment_layer_eq_error_iff.mp hbelow)
  | ok below =>
      have hwell := wellFormed_of_ofEnvironment hbelow
      have hoffers := offersAll_of_ofEnvironment hbelow
      change Decides environment above (above.over below).settle
      cases hsettle : (above.over below).settle with
      | error d => exact .refused hwell ((settle_eq_error_iff hoffers).mp hsettle)
      | ok settings =>
          exact .settled hwell (allowed_of_settle hoffers hsettle)
            (isMerged_of_settle hoffers hsettle)

/-- Nothing malformed, so there is a layer of the environment. -/
theorem exists_layer_of_wellFormed
    (hwell : ∀ strict defect, ¬ Malforms environment strict defect) :
    ∃ below, Layer.ofEnvironment environment = .ok below := by
  cases hbelow : Layer.ofEnvironment environment with
  | error d =>
      rw [ofEnvironment_layer_eq_error_iff] at hbelow
      exact absurd hbelow (not_first_of_quiet hwell)
  | ok below => exact ⟨below, rfl⟩

theorem Decides.eq {result : Except Defect Settings} (hdecides : Decides environment above result) :
    ofEnvironment environment above = result := by
  unfold ofEnvironment
  cases hdecides with
  | malformed hfirst =>
      rw [ofEnvironment_layer_eq_error_iff.mpr hfirst]
      rfl
  | refused hwell hfirst =>
      obtain ⟨below, hbelow⟩ := exists_layer_of_wellFormed hwell
      rw [hbelow]
      exact (settle_eq_error_iff (offersAll_of_ofEnvironment hbelow)).mpr hfirst
  | settled hwell hallowed hmerged =>
      obtain ⟨below, hbelow⟩ := exists_layer_of_wellFormed hwell
      have hoffers := offersAll_of_ofEnvironment hbelow
      rw [hbelow]
      change (above.over below).settle = _
      cases hsettle : (above.over below).settle with
      | error d =>
          rw [settle_eq_error_iff hoffers] at hsettle
          exact absurd hsettle (not_first_of_quiet hallowed)
      | ok other =>
          rw [(isMerged_of_settle hoffers hsettle).unique hoffers hmerged]

/-! ## What does not count -/

def variableNames : List String :=
  [connectTimeoutVariable, readTimeoutVariable, responseLimitVariable, debugVariable]

/-- All that counts of two environments under a layer is the same: which texts are malformed, and the texts
of the variables whose settings the layer leaves open. -/
structure AgreeUnder (above : Layer) (first second : Environment) : Prop where
  malformed : ∀ (strict : StrictVariable) (raw : String), strict.Malformed raw →
    (first.lookup strict.name = some raw ↔ second.lookup strict.name = some raw)
  connectTimeout : above.connectTimeout = none →
    first.lookup connectTimeoutVariable = second.lookup connectTimeoutVariable
  readTimeout : above.readTimeout = none →
    first.lookup readTimeoutVariable = second.lookup readTimeoutVariable
  responseLimit : above.responseLimit = none →
    first.lookup responseLimitVariable = second.lookup responseLimitVariable
  debug : above.debug = none → first.lookup debugVariable = second.lookup debugVariable

theorem StrictVariable.name_mem (strict : StrictVariable) : strict.name ∈ variableNames := by
  cases strict <;> decide

theorem agreeUnder_of_lookup (above : Layer)
    (hlookup : ∀ name ∈ variableNames, first.lookup name = second.lookup name) :
    AgreeUnder above first second where
  malformed strict raw _ := by rw [hlookup _ strict.name_mem]
  connectTimeout _ := hlookup _ (by decide)
  readTimeout _ := hlookup _ (by decide)
  responseLimit _ := hlookup _ (by decide)
  debug _ := hlookup _ (by decide)

theorem AgreeUnder.symm (hagree : AgreeUnder above first second) :
    AgreeUnder above second first where
  malformed strict raw hmalformed := (hagree.malformed strict raw hmalformed).symm
  connectTimeout habove := (hagree.connectTimeout habove).symm
  readTimeout habove := (hagree.readTimeout habove).symm
  responseLimit habove := (hagree.responseLimit habove).symm
  debug habove := (hagree.debug habove).symm

theorem AgreeUnder.malforms {strict : StrictVariable} (hagree : AgreeUnder above first second)
    (hmalforms : Malforms first strict defect) : Malforms second strict defect := by
  cases hmalforms with
  | intro hset hmalformed =>
      exact .intro ((hagree.malformed strict _ hmalformed).mp hset) hmalformed

theorem AgreeUnder.refuses {quantity : Quantity} (hagree : AgreeUnder above first second)
    (hrefuses : Refuses first above quantity defect) : Refuses second above quantity defect := by
  cases quantity with
  | responseLimit =>
      obtain ⟨entry, hmerges, hrejects⟩ := hrefuses
      exact ⟨entry, hmerges.of_lookup hagree.responseLimit, hrejects⟩
  | chunkSize => exact hrefuses
  | connectTimeout =>
      obtain ⟨entry, hmerges, hrejects⟩ := hrefuses
      exact ⟨entry, hmerges.of_lookup hagree.connectTimeout, hrejects⟩
  | readTimeout =>
      obtain ⟨entry, hmerges, hrejects⟩ := hrefuses
      exact ⟨entry, hmerges.of_lookup hagree.readTimeout, hrejects⟩

theorem AgreeUnder.isMerged (hagree : AgreeUnder above first second)
    (hmerged : IsMerged first above settings) : IsMerged second above settings :=
  { hmerged with
    connectTimeout := hmerged.connectTimeout.of_lookup hagree.connectTimeout
    readTimeout := hmerged.readTimeout.of_lookup hagree.readTimeout
    responseLimit := hmerged.responseLimit.of_lookup hagree.responseLimit
    debug := hmerged.debug.of_lookup hagree.debug }

theorem AgreeUnder.decides {result : Except Defect Settings}
    (hagree : AgreeUnder above first second) (hdecides : Decides first above result) :
    Decides second above result := by
  have hmalforms (strict : StrictVariable) (d : Defect) :
      Malforms first strict d ↔ Malforms second strict d :=
    ⟨hagree.malforms, hagree.symm.malforms⟩
  have hrefuses (quantity : Quantity) (d : Defect) :
      Refuses first above quantity d ↔ Refuses second above quantity d :=
    ⟨hagree.refuses, hagree.symm.refuses⟩
  cases hdecides with
  | malformed hfirst => exact .malformed (first_congr hmalforms hfirst)
  | refused hwell hfirst =>
      exact .refused (by simpa only [← hmalforms] using hwell) (first_congr hrefuses hfirst)
  | settled hwell hallowed hmerged =>
      exact .settled (by simpa only [← hmalforms] using hwell)
        (by simpa only [← hrefuses] using hallowed) (hagree.isMerged hmerged)

/-! ## The decision -/

/-- Whatever is in an environment and in the layer above it, the result is the one that the two phases
allow, and the text of a complaint names its variable.  Entries other than the four variables never count,
and a variable whose setting is given above counts only if it is malformed. -/
theorem ofEnvironment_decides (environment : Environment) (above : Layer) :
    (∀ result, ofEnvironment environment above = result ↔ Decides environment above result) ∧
    (∀ strict raw, (StrictVariable.defect strict raw).message = strict.complaint raw) ∧
    (∀ other : Environment,
      (∀ name ∈ variableNames, environment.lookup name = other.lookup name) →
        ofEnvironment other above = ofEnvironment environment above) ∧
    (∀ other : Environment, AgreeUnder above environment other →
      ofEnvironment other above = ofEnvironment environment above) := by
  have hagree (other : Environment) (h : AgreeUnder above environment other) :
      ofEnvironment other above = ofEnvironment environment above :=
    (h.decides (decides_ofEnvironment environment above)).eq
  refine ⟨?_, StrictVariable.message_defect, ?_, hagree⟩
  · intro result
    constructor
    · rintro rfl
      exact decides_ofEnvironment environment above
    · exact Decides.eq
  · intro other hlookup
    exact hagree other (agreeUnder_of_lookup above hlookup)

/-- A limit of zero in the environment is well formed, so a limit given above it is all that counts. -/
theorem ofEnvironment_decides_of_hidden_zero :
    Decides [("RPCPOST_MAX_RESPONSE_BYTES", "0")] { responseLimit := some (.value 5) }
        (.ok { defaults with responseLimit := 5 }) ∧
      ofEnvironment [("HOME", "/"), ("RPCPOST_MAX_RESPONSE_BYTES", "0")]
        { responseLimit := some (.value 5) } = .ok { defaults with responseLimit := 5 } ∧
      ofEnvironment [("RPCPOST_MAX_RESPONSE_BYTES", "-3")]
        { responseLimit := some (.value 5) } = .ok { defaults with responseLimit := 5 } := by
  obtain ⟨hdecides, -, hother, hagree⟩ :=
    ofEnvironment_decides [("RPCPOST_MAX_RESPONSE_BYTES", "0")]
      { responseLimit := some (.value 5) }
  have hsettled : ofEnvironment [("RPCPOST_MAX_RESPONSE_BYTES", "0")]
      { responseLimit := some (.value 5) } = .ok { defaults with responseLimit := 5 } := rfl
  refine ⟨(hdecides _).mp hsettled, (hother _ (by decide)).trans hsettled, ?_⟩
  have hread (raw : String) (n : Int) (hn : readLimit? raw = some n) :
      ¬ StrictVariable.responseLimit.Malformed raw :=
    fun hmalformed => hmalformed n (readLimit?_eq_some_iff.mp hn)
  rw [hagree _ ?_, hsettled]
  constructor
  case malformed =>
    intro strict raw hmalformed
    cases strict with
    | connectTimeout => exact Iff.rfl
    | readTimeout => exact Iff.rfl
    | responseLimit =>
        apply iff_of_false
        · intro hset
          rw [← Option.some.inj hset] at hmalformed
          exact hread "0" 0 (by decide) hmalformed
        · intro hset
          rw [← Option.some.inj hset] at hmalformed
          exact hread "-3" (-3) (by decide) hmalformed
  case responseLimit => intro hopen; contradiction
  all_goals exact fun _ => rfl

end Settings

end RawPost
