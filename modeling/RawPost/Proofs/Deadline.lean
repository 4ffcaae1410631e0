import RawPost.Proofs.Preparation
import RawPost.Proofs.Validity

/-!
# Limits and deadlines of an exchange

Settings that have been built allow for at least one octet of a response and ask for at least one at a
time.  Their timeouts are not at or below zero, which is not to say that they are above zero: what is no
number compares with nothing, so it passes the check, and an exchange hands it to the socket.  Every
timeout that is a number, an infinite one included, is greater than zero.
-/

namespace RawPost

namespace Number.Binary64

/-- A magnitude counted in units of `2 ^ (-1074)`, the least positive number of the format; infinity counts
as the power of two that comes after the largest finite number. -/
def unitsOf (magnitude : Nat) : Nat :=
  let exponent := magnitude / binadeSteps
  let fraction := magnitude % binadeSteps
  if exponent = 0 then fraction
  else (binadeSteps + fraction) * 2 ^ (exponent - 1)

/-- The value of a number, in the same units. -/
def units (x : Binary64) : Int :=
  if x.isNegative then -(unitsOf x.magnitude) else unitsOf x.magnitude

theorem unitsOf_pos_iff (magnitude : Nat) : 0 < unitsOf magnitude ↔ 0 < magnitude := by
  have hsplit := Nat.div_add_mod magnitude binadeSteps
  unfold unitsOf
  by_cases hexponent : magnitude / binadeSteps = 0
  · rw [hexponent, Nat.mul_zero, Nat.zero_add] at hsplit
    rw [if_pos hexponent, hsplit]
  · have hsteps : 0 < binadeSteps := by decide
    have hfactor : 0 < binadeSteps + magnitude % binadeSteps := by omega
    have hmagnitude : 0 < magnitude := by
      rw [Nat.pos_iff_ne_zero]
      rintro rfl
      exact hexponent (Nat.zero_div binadeSteps)
    rw [if_neg hexponent]
    exact iff_of_true (Nat.mul_pos hfactor (Nat.two_pow_pos _)) hmagnitude

theorem isNonpositive_eq_false_iff (x : Binary64) :
    x.isNonpositive = false ↔ x.isNaN = true ∨ 0 < x.units := by
  have hunits := unitsOf_pos_iff x.magnitude
  unfold isNonpositive units
  cases hnan : x.isNaN with
  | true => simp
  | false =>
      cases hnegative : x.isNegative with
      | true => simp
      | false => simp [hunits, Nat.pos_iff_ne_zero]

end Number.Binary64

namespace Settings

/-- A timeout in seconds, if there is one, is a number. -/
def IsNumber (timeout : Timeout) : Prop :=
  ∀ seconds ∈ timeout, seconds.isNaN = false

/-- A timeout in seconds, if there is one, is a number greater than zero. -/
def IsPositive (timeout : Timeout) : Prop :=
  ∀ seconds ∈ timeout, seconds.isNaN = false ∧ 0 < seconds.units

theorem isPositive_iff_isNumber {timeout : Timeout}
    (htimeout : isExpired timeout = false) :
    IsPositive timeout ↔ IsNumber timeout := by
  cases timeout with
  | none => simp [IsPositive, IsNumber]
  | some seconds =>
      have hseconds := (seconds.isNonpositive_eq_false_iff).mp htimeout
      simp only [IsPositive, IsNumber, Option.mem_def, Option.some.injEq, forall_eq']
      constructor
      · exact And.left
      · intro hnumber
        simp only [hnumber, Bool.false_eq_true, false_or] at hseconds
        exact ⟨hnumber, hseconds⟩

/-- Settings are built from layers, the lowest of which may be the environment. -/
inductive IsBuilt (settings : Settings) : Prop where
  | settled {layer : Layer} (hsettle : layer.settle = .ok settings)
  | ofEnvironment {environment : Environment} {above : Layer}
      (hsettled : Settings.ofEnvironment environment above = .ok settings)

theorem IsBuilt.isValid {settings : Settings} (hbuilt : settings.IsBuilt) :
    settings.IsValid := by
  cases hbuilt with
  | settled hsettle => exact isValid_of_settle hsettle
  | ofEnvironment hsettled => exact isValid_of_ofEnvironment hsettled

/-- The layer that gives every setting. -/
def toLayer (settings : Settings) : Layer where
  defaultHost := some settings.defaultHost
  defaultPort := some settings.defaultPort
  version := some settings.version
  connectTimeout := some (.value settings.connectTimeout)
  readTimeout := some (.value settings.readTimeout)
  responseLimit := some (.value settings.responseLimit)
  chunkSize := some settings.chunkSize
  printResponse := some settings.printResponse
  debug := some settings.debug

theorem checked_value {α : Type} {quantity : Quantity} {isBad : α → Bool}
    {default a : α} (ha : isBad a = false) :
    checked quantity isBad (some (.value a)) default = .ok a := by
  simp [checked, ha]

/-- Nothing else than being valid is asked of settings. -/
theorem IsValid.isBuilt {settings : Settings} (hvalid : settings.IsValid) :
    settings.IsBuilt := by
  have hlimit : checked .responseLimit (· ≤ 0)
      (some (.value settings.responseLimit)) defaults.responseLimit =
        .ok settings.responseLimit :=
    checked_value (decide_eq_false (Int.not_le.mpr hvalid.responseLimit_pos))
  have hchunk : checked .chunkSize (· ≤ 0)
      (some (.value settings.chunkSize)) defaults.chunkSize =
        .ok settings.chunkSize :=
    checked_value (decide_eq_false (Int.not_le.mpr hvalid.chunkSize_pos))
  have hsettle : settings.toLayer.settle = .ok settings := by
    simp only [Layer.settle, toLayer, Option.map_some, hlimit, hchunk,
      checked_value hvalid.connectTimeout, checked_value hvalid.readTimeout]
    rfl
  exact .settled hsettle

/-- Limits and timeouts are positive, and so is every timeout that an exchange sets. -/
structure KeepsPositive [Memory] (settings : Settings) : Prop where
  responseLimit : 1 ≤ settings.responseLimit
  chunkSize : 1 ≤ settings.chunkSize
  connectTimeout : IsPositive settings.connectTimeout
  readTimeout : IsPositive settings.readTimeout
  timeoutSet : ∀ request octets peer timeout answer,
    .timeoutSet timeout answer ∈
      (Exchange.run settings request octets peer).events →
    IsPositive timeout

end Settings

theorem Exchange.timeout_of_mem_run [Memory] {settings : Settings} {request : Request}
    {octets : Octets} {peer : Peer} {timeout : Timeout}
    {answer : Except Fault Unit}
    (hmem : .timeoutSet timeout answer ∈ (run settings request octets peer).events) :
    timeout = settings.connectTimeout ∨ timeout = settings.readTimeout := by
  have hprepared := mem_preparation_of_mem_run hmem rfl
  simp only [preparation, List.mem_cons, reduceCtorEq, Event.timeoutSet.injEq,
    List.not_mem_nil, or_false, false_or] at hprepared
  exact hprepared.imp And.left And.left

namespace Settings

variable {settings : Settings}

/-- Settings that have been built are positive in all respects, but for timeouts that are no number; such a
timeout is let through, and an exchange may set it. -/
theorem IsBuilt.keepsPositive_iff [Memory] (hbuilt : settings.IsBuilt) :
    1 ≤ settings.responseLimit ∧ 1 ≤ settings.chunkSize ∧
    (IsPositive settings.connectTimeout ↔ IsNumber settings.connectTimeout) ∧
    (IsPositive settings.readTimeout ↔ IsNumber settings.readTimeout) ∧
    (settings.KeepsPositive ↔
      IsNumber settings.connectTimeout ∧ IsNumber settings.readTimeout) := by
  have hvalid := hbuilt.isValid
  have hconnect := isPositive_iff_isNumber hvalid.connectTimeout
  have hread := isPositive_iff_isNumber hvalid.readTimeout
  refine ⟨hvalid.responseLimit_pos, hvalid.chunkSize_pos, hconnect, hread, ?_, ?_⟩
  · intro hpositive
    exact ⟨hconnect.mp hpositive.connectTimeout, hread.mp hpositive.readTimeout⟩
  · rintro ⟨hconnectNumber, hreadNumber⟩
    have hconnectPositive := hconnect.mpr hconnectNumber
    have hreadPositive := hread.mpr hreadNumber
    refine ⟨hvalid.responseLimit_pos, hvalid.chunkSize_pos, hconnectPositive,
      hreadPositive, ?_⟩
    intro request octets peer timeout answer hmem
    rcases Exchange.timeout_of_mem_run hmem with rfl | rfl
    · exact hconnectPositive
    · exact hreadPositive

/-- No deadline for connecting, and an infinite one for reading. -/
theorem keepsPositive_of_infinite :
    let settings : Settings :=
      { defaults with
        connectTimeout := none
        readTimeout := some (.infinity false) }
    ofEnvironment
        [("RPCPOST_CONNECT_TIMEOUT", " None "), ("RPCPOST_READ_TIMEOUT", "inf")] {} =
      .ok settings ∧
    settings.KeepsPositive := by
  intro settings
  have hsettled : ofEnvironment
      [("RPCPOST_CONNECT_TIMEOUT", " None "), ("RPCPOST_READ_TIMEOUT", "inf")] {} =
        .ok settings := rfl
  have hconnect : IsNumber settings.connectTimeout := by
    simp [IsNumber, settings]
  have hread : IsNumber settings.readTimeout := by
    rintro seconds hseconds
    rw [← Option.some.inj hseconds]
    decide
  have hiff := (IsBuilt.keepsPositive_iff (.ofEnvironment hsettled)).2.2.2.2
  exact ⟨hsettled, hiff.mpr ⟨hconnect, hread⟩⟩

/-- A timeout that is no number is accepted, and it is not above zero. -/
theorem not_keepsPositive_of_nan :
    ¬ ∀ settings : Settings, settings.IsBuilt → settings.KeepsPositive := by
  intro hall
  let settings : Settings := { defaults with connectTimeout := some .nan }
  have hvalid : settings.IsValid := ⟨by decide, by decide, rfl, rfl⟩
  have hpositive := (hall settings hvalid.isBuilt).connectTimeout
  have hnumber := (hpositive .nan rfl).1
  revert hnumber
  decide

end Settings

end RawPost
