import RawPost.Settings.Environment
import Mathlib.Tactic

/-!
# What the variables give

The layer of an environment is put together from four variables, each looked up by its name and read for
itself.  So it can be taken apart again into what the single variables give, and it depends on nothing else
in the environment.
-/

namespace RawPost

/-- A result in sequence is there only if the first one is. -/
theorem exists_of_bind_eq_ok {ε α β : Type} {first : Except ε α}
    {next : α → Except ε β} {b : β} (hok : first >>= next = .ok b) :
    ∃ a, first = .ok a ∧ next a = .ok b := by
  cases first with
  | error e => simp [bind, Except.bind] at hok
  | ok a => exact ⟨a, rfl, hok⟩

/-- A sequence fails where its first failing part does. -/
theorem cases_of_bind_eq_error {ε α β : Type} {first : Except ε α}
    {next : α → Except ε β} {e : ε} (herror : first >>= next = .error e) :
    first = .error e ∨ ∃ a, first = .ok a ∧ next a = .error e := by
  cases first with
  | error other =>
      left
      simpa [bind, Except.bind] using herror
  | ok a => exact .inr ⟨a, rfl, herror⟩

theorem map_bind_eq {ε α β γ : Type} (first : Except ε α) (next : α → Except ε β)
    (change : β → γ) :
    (first >>= next).map change = first >>= fun a => (next a).map change := by
  cases first <;> rfl

namespace Settings

/-- Two environments differ in one variable at most. -/
def AgreeBut (name : String) (first second : Environment) : Prop :=
  ∀ other, other ≠ name → first.lookup other = second.lookup other

theorem AgreeBut.refl (name : String) (environment : Environment) :
    AgreeBut name environment environment :=
  fun _ _ => rfl

theorem agreeBut_cons (name raw : String) (environment : Environment) :
    AgreeBut name environment ((name, raw) :: environment) := by
  intro other hother
  have hname : (other == name) = false := beq_eq_false_iff_ne.mpr hother
  rw [List.lookup_cons, hname]

section Variable

variable {α : Type} {environment first second : Environment} {name raw : String}
  {read? : String → Option α} {defect : String → String → Defect}

theorem readVariable_congr (hlookup : first.lookup name = second.lookup name) :
    readVariable first name read? defect = readVariable second name read? defect := by
  rw [readVariable, readVariable, hlookup]

theorem readVariable_of_readable {value : α}
    (hset : environment.lookup name = some raw) (hread : read? raw = some value) :
    readVariable environment name read? defect = .ok (some (.value value)) := by
  simp only [readVariable, hset, hread]

theorem readable_of_readVariable {entry : Option (Entry α)}
    (hset : environment.lookup name = some raw)
    (hentry : readVariable environment name read? defect = .ok entry) :
    ∃ value, read? raw = some value := by
  simp only [readVariable, hset] at hentry
  cases hread : read? raw with
  | none => simp [hread] at hentry
  | some value => exact ⟨value, rfl⟩

end Variable

/-- The layer has what each of the variables gives, and nothing else. -/
structure Layer.IsReadFrom (environment : Environment) (layer : Layer) : Prop where
  connectTimeout :
    readVariable environment connectTimeoutVariable readTimeout? .malformedSeconds =
      .ok layer.connectTimeout
  readTimeout :
    readVariable environment readTimeoutVariable readTimeout? .malformedSeconds =
      .ok layer.readTimeout
  responseLimit :
    readVariable environment responseLimitVariable readLimit? .malformedInteger =
      .ok layer.responseLimit
  eq : layer =
    { connectTimeout := layer.connectTimeout
      readTimeout := layer.readTimeout
      responseLimit := layer.responseLimit
      debug := (environment.lookup debugVariable).map isOn }

variable {environment : Environment} {layer : Layer}

theorem isReadFrom_of_ofEnvironment
    (hlayer : Layer.ofEnvironment environment = .ok layer) :
    layer.IsReadFrom environment := by
  obtain ⟨connectTimeout, hconnect, hlayer⟩ := exists_of_bind_eq_ok hlayer
  obtain ⟨readTimeout, hread, hlayer⟩ := exists_of_bind_eq_ok hlayer
  obtain ⟨responseLimit, hlimit, hlayer⟩ := exists_of_bind_eq_ok hlayer
  simp only [pure, Except.pure, Except.ok.injEq] at hlayer
  subst hlayer
  exact ⟨hconnect, hread, hlimit, rfl⟩

theorem Layer.IsReadFrom.ofEnvironment_eq (hlayer : layer.IsReadFrom environment) :
    Layer.ofEnvironment environment = .ok layer := by
  simp only [Layer.ofEnvironment, hlayer.connectTimeout, hlayer.readTimeout,
    hlayer.responseLimit]
  exact congrArg Except.ok hlayer.eq.symm

end Settings

end RawPost
