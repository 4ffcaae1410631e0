import RawPost.Connection.Action

/-!
# Reading a trace

A call is broken if it came back with a fault, or if it was a send of which nothing was accepted.  Stages
give their traces in pieces, so everything that is read off a trace is read off its pieces: the calls, the
octets that went out, the octets that came in, and that nothing follows a broken call.
-/

namespace RawPost

namespace Event

/-- The fault that a call came back with. -/
def fault? : Event → Option Fault
  | .opened (.error fault) => some fault
  | .resolved _ (.error fault) => some fault
  | .timeoutSet _ (.error fault) => some fault
  | .connected _ _ (.error fault) => some fault
  | .sent _ (.error fault) => some fault
  | .received _ (.error fault) => some fault
  | .closed (.error fault) => some fault
  | _ => none

def isBroken : Event → Bool
  | .sent _ (.ok 0) => true
  | event => event.fault?.isSome

def isTimeoutSet : Event → Bool
  | .timeoutSet _ _ => true
  | _ => false

def isSend : Event → Bool
  | .sent _ _ => true
  | _ => false

def isReceive : Event → Bool
  | .received _ _ => true
  | _ => false

def isClose : Event → Bool
  | .closed _ => true
  | _ => false

theorem exists_of_isSend {event : Event} (hsend : event.isSend = true) :
    ∃ offered result, event = .sent offered result := by
  cases event with
  | sent offered result => exact ⟨offered, result, rfl⟩
  | _ => contradiction

theorem exists_of_isReceive {event : Event}
    (hreceive : event.isReceive = true) :
    ∃ room result, event = .received room result := by
  cases event with
  | received room result => exact ⟨room, result, rfl⟩
  | _ => contradiction

end Event

namespace Trace

@[simp] theorem calls_nil : calls [] = [] := rfl

@[simp] theorem calls_append (first second : Trace) :
    calls (first ++ second) = calls first ++ calls second := by
  simp [calls]

@[simp] theorem calls_logged (level : Level) (message : String) (rest : Trace) :
    calls (.logged level message :: rest) = calls rest := by
  simp [calls, Event.isLogged]

theorem calls_cons {event : Event} (hevent : event.isLogged = false) (rest : Trace) :
    calls (event :: rest) = event :: calls rest := by
  simp [calls, hevent]

theorem mem_calls {trace : Trace} {event : Event} :
    event ∈ trace.calls ↔ event ∈ trace ∧ event.isLogged = false := by
  simp [calls]

theorem calls_eq_self {trace : Trace}
    (hcalls : ∀ event ∈ trace, event.isLogged = false) :
    trace.calls = trace := by
  unfold calls
  rw [List.filter_eq_self]
  intro event hmem
  simp [hcalls event hmem]

@[simp] theorem written_nil : written [] = [] := rfl

@[simp] theorem written_cons (event : Event) (rest : Trace) :
    written (event :: rest) = event.written ++ written rest := by
  simp [written]

@[simp] theorem written_append (first second : Trace) :
    written (first ++ second) = written first ++ written second := by
  simp [written]

@[simp] theorem delivered_nil : delivered [] = [] := rfl

@[simp] theorem delivered_cons (event : Event) (rest : Trace) :
    delivered (event :: rest) = event.delivered ++ delivered rest := by
  simp [delivered]

@[simp] theorem delivered_append (first second : Trace) :
    delivered (first ++ second) = delivered first ++ delivered second := by
  simp [delivered]

@[simp] theorem written_calls (trace : Trace) : trace.calls.written = trace.written := by
  induction trace with
  | nil => rfl
  | cons event rest ih =>
      cases event with
      | logged level message => simpa [Event.written] using ih
      | _ =>
          rw [calls_cons rfl, written_cons, written_cons, ih]

@[simp] theorem delivered_calls (trace : Trace) :
    trace.calls.delivered = trace.delivered := by
  induction trace with
  | nil => rfl
  | cons event rest ih =>
      cases event with
      | logged level message => simpa [Event.delivered] using ih
      | _ =>
          rw [calls_cons rfl, delivered_cons, delivered_cons, ih]

theorem written_eq_nil {trace : Trace}
    (hsends : ∀ event ∈ trace, event.isSend = false) :
    trace.written = [] := by
  unfold written
  rw [List.flatMap_eq_nil_iff]
  intro event hmem
  have hsend := hsends event hmem
  cases event <;> simp_all [Event.isSend, Event.written]

theorem delivered_eq_nil {trace : Trace}
    (hreceives : ∀ event ∈ trace, event.isReceive = false) :
    trace.delivered = [] := by
  unfold delivered
  rw [List.flatMap_eq_nil_iff]
  intro event hmem
  have hreceive := hreceives event hmem
  cases event <;> simp_all [Event.isReceive, Event.delivered]

/-! ## The last call -/

/-- The last call of a trace, the closing of the socket apart. -/
def lastCall? (trace : Trace) : Option Event :=
  (trace.calls.filter (!·.isClose)).getLast?

theorem lastCall?_append {first second : Trace} {event : Event}
    (hsecond : second.lastCall? = some event) :
    (first ++ second).lastCall? = some event := by
  unfold lastCall? at hsecond ⊢
  simp [hsecond]

theorem lastCall?_cons {first event : Event} {rest : Trace}
    (hrest : rest.lastCall? = some event) :
    lastCall? (first :: rest) = some event :=
  @lastCall?_append [first] rest event hrest

@[simp] theorem lastCall?_closed (trace : Trace) (result : Except Fault Unit) :
    lastCall? (trace ++ [.closed result]) = trace.lastCall? := by
  simp [lastCall?, calls, Event.isLogged, Event.isClose]

@[simp] theorem lastCall?_logged (trace : Trace) (level : Level) (message : String) :
    lastCall? (trace ++ [.logged level message]) = trace.lastCall? := by
  simp [lastCall?, calls, Event.isLogged]

theorem mem_of_lastCall? {trace : Trace} {event : Event}
    (hlast : trace.lastCall? = some event) :
    event ∈ trace ∧ event.isClose = false := by
  have hmem := List.mem_of_getLast? hlast
  simp only [List.mem_filter, mem_calls, Bool.not_eq_true'] at hmem
  exact ⟨hmem.1.1, hmem.2⟩

theorem lastCall?_singleton {event : Event} (hlogged : event.isLogged = false)
    (hclose : event.isClose = false) :
    lastCall? [event] = some event := by
  simp [lastCall?, calls, hlogged, hclose]

/-! ## Broken calls -/

def Unbroken (trace : Trace) : Prop :=
  ∀ event ∈ trace, event.isBroken = false

/-- Nothing follows a broken call. -/
def StopsWhenBroken (trace : Trace) : Prop :=
  ∀ before event after, trace = before ++ event :: after →
    event.isBroken = true → after = []

theorem Unbroken.append {first second : Trace}
    (hfirst : first.Unbroken) (hsecond : second.Unbroken) :
    (first ++ second).Unbroken := by
  intro event hmem
  rcases List.mem_append.mp hmem with hmem | hmem
  · exact hfirst event hmem
  · exact hsecond event hmem

theorem Unbroken.stopsWhenBroken {trace : Trace} (hunbroken : trace.Unbroken) :
    trace.StopsWhenBroken := by
  intro before event after htrace hbroken
  have hwhole := hunbroken event (by simp [htrace])
  rw [hbroken] at hwhole
  contradiction

theorem stopsWhenBroken_singleton (event : Event) : StopsWhenBroken [event] := by
  intro before other after htrace _
  rcases List.cons_eq_append_iff.mp htrace with ⟨_, hrest⟩ | ⟨rest, _, hrest⟩
  · simp_all
  · simp at hrest

theorem StopsWhenBroken.append {first second : Trace}
    (hfirst : first.Unbroken) (hsecond : second.StopsWhenBroken) :
    (first ++ second).StopsWhenBroken := by
  intro before event after htrace hbroken
  rcases List.append_eq_append_iff.mp htrace with
    ⟨rest, _, hrest⟩ | ⟨rest, hsplit, hrest⟩
  · exact hsecond rest event after hrest hbroken
  · cases rest with
    | nil => exact hsecond [] event after (by simpa using hrest.symm) hbroken
    | cons other rest =>
        have hother : event = other := by simp_all
        have hwhole := hfirst event (by simp [hsplit, hother])
        rw [hbroken] at hwhole
        contradiction

theorem StopsWhenBroken.cons {event : Event} {rest : Trace}
    (hevent : event.isBroken = false) (hrest : rest.StopsWhenBroken) :
    StopsWhenBroken (event :: rest) := by
  have hone : Unbroken [event] := by
    intro other hmem
    rw [List.mem_singleton.mp hmem]
    exact hevent
  exact StopsWhenBroken.append hone hrest

end Trace

end RawPost
