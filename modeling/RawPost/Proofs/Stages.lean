import RawPost.Proofs.Conversation

/-!
# An exchange stage by stage

The stages of an exchange can be carried out one by one on one peer, each on what the one before it has
left, up to the first that fails.  The exchange as a whole does nothing else: its events are those of the
stages with the closing behind them, and it comes to what its last stage came to, unless the closing meets
a fault that is not the system's; that fault hides whatever the stages came to.
-/

namespace RawPost.Exchange

/-- What a stage gives if it succeeds. -/
inductive Product where
  | socket
  | address (address : String)
  | connection
  | sent (count : Nat)
  | response (response : Response)
  deriving DecidableEq, Repr

/-- A stage that has been carried out, with the stages after it if it did not fail. -/
def stage {α : Type} (product : α → Product) (step : Step Stop α)
    (next : α → Peer → List (Step Stop Product)) : List (Step Stop Product) :=
  ⟨step.outcome.map product, step.events, step.peer⟩ ::
    match step.outcome with
    | .error _ => []
    | .ok a => next a step.peer

/-- The stages of an exchange on an open socket. -/
def conversationStages [Memory] (settings : Settings) (request : Request) (octets : Octets) (peer : Peer) :
    List (Step Stop Product) :=
  stage .address (resolve request.host peer) fun address peer =>
    stage (fun _ => .connection) (connect settings address request.port peer) fun _ peer =>
      stage .sent (send octets peer) fun _ peer =>
        stage .response (receive settings peer) fun _ _ => []

/-- All stages of an exchange, as far as they are carried out. -/
def stages [Memory] (settings : Settings) (request : Request) (octets : Octets) (peer : Peer) :
    List (Step Stop Product) :=
  stage (fun _ => .socket) (openSocket peer) fun _ peer =>
    conversationStages settings request octets peer

/-! ## Stages put together -/

/-- The steps, in order, do what the whole does, and the last of them comes to what the whole comes to. -/
structure Compose {α : Type} (product : α → Product)
    (steps : List (Step Stop Product)) (whole : Step Stop α) : Prop where
  events_eq : whole.events = steps.flatMap Step.events
  exists_last : ∃ last, steps.getLast? = some last ∧
    whole.outcome.map product = last.outcome ∧ whole.peer = last.peer

variable {α β : Type} {peer : Peer}

theorem Compose.single (product : α → Product) (step : Step Stop α) :
    Compose product (stage product step fun _ _ => []) step := by
  have hstage : stage product step (fun _ _ => []) =
      [⟨step.outcome.map product, step.events, step.peer⟩] := by
    unfold stage
    cases step.outcome <;> rfl
  rw [hstage]
  constructor
  · simp
  · exact ⟨_, rfl, rfl, rfl⟩

/-- A stage in front of others is an action in front of others; if it fails, it is the last of both. -/
theorem Compose.bind {action : Action Stop α} {next : α → Action Stop β}
    {steps : α → Peer → List (Step Stop Product)} (first : α → Product)
    {product : β → Product}
    (hnext : ∀ a after, Compose product (steps a after) (next a after)) :
    Compose product (stage first (action peer) steps)
      ((action >>= next) peer) := by
  rcases haction : action peer with ⟨outcome, events, after⟩
  cases outcome with
  | error stop =>
      rw [Action.bind_eq_of_error haction]
      constructor
      · simp [stage]
      · exact ⟨_, rfl, rfl, rfl⟩
  | ok a =>
      have hrest := hnext a after
      obtain ⟨last, hlast, houtcome, hpeer⟩ := hrest.exists_last
      rw [Action.bind_eq_of_ok haction]
      constructor
      · simp [stage, hrest.events_eq]
      · refine ⟨last, ?_, houtcome, hpeer⟩
        simp [stage, List.getLast?_cons, hlast]

theorem converse_compose [Memory] (settings : Settings) (request : Request)
    (octets : Octets) (peer : Peer) :
    Compose .response (conversationStages settings request octets peer)
      (converse settings request octets peer) := by
  apply Compose.bind
  intro address peer
  apply Compose.bind
  intro _ peer
  apply Compose.bind
  intro _ peer
  exact Compose.single .response (receive settings peer)

/-! ## The closing behind the stages -/

theorem openSocket_peer (peer : Peer) : (openSocket peer).peer = peer := rfl

theorem run_eq_of_openSocket_error [Memory] {settings : Settings} {request : Request}
    {octets : Octets} {stop : Stop}
    (hopen : (openSocket peer).outcome = .error stop) :
    run settings request octets peer =
      ⟨.error stop, (openSocket peer).events, peer⟩ := by
  apply Action.bind_eq_of_error
  rw [← hopen]
  rfl

theorem run_eq_of_openSocket_ok [Memory] {settings : Settings} {request : Request}
    {octets : Octets} (hopen : (openSocket peer).outcome = .ok ()) :
    run settings request octets peer =
      ⟨afterClosing (converse settings request octets peer).outcome
          peer.closing,
        (openSocket peer).events ++
          ((converse settings request octets peer).events ++
            [.closed peer.closing]),
        (converse settings request octets peer).peer⟩ := by
  have hkept :=
    (converse_conversation settings request octets peer).closing_eq
  have haction : openSocket peer =
      ⟨.ok (), (openSocket peer).events, peer⟩ := by
    rw [← hopen]
    rfl
  unfold run
  rw [Action.bind_eq_of_ok haction]
  simp only [closing, Action.closeSocket, hkept]

theorem afterClosing_of_other {outcome : Except Stop Response}
    {fault : Fault} (hother : fault.isSystem = false) :
    afterClosing outcome (.error fault) = .error (.fault fault) := by
  simp [afterClosing, hother]

/-- A whole exchange is its stages, one by one, and the closing behind them.  A fault of opening is all there
is; a fault of closing counts only if it is not the system's, and then nothing else does. -/
theorem run_eq_stages [Memory] (settings : Settings) (request : Request)
    (octets : Octets) (peer : Peer) :
    let steps := stages settings request octets peer
    let whole := run settings request octets peer
    (∀ stop, (openSocket peer).outcome = .error stop →
      whole.outcome = .error stop ∧
        whole.events = (openSocket peer).events) ∧
    ((openSocket peer).outcome = .ok () →
      whole.events = steps.flatMap Step.events ++ [.closed peer.closing] ∧
      ∃ last, steps.getLast? = some last ∧ whole.peer = last.peer ∧
        ((∀ fault, peer.closing = .error fault → fault.isSystem = true) →
          whole.outcome.map Product.response = last.outcome) ∧
        (∀ fault, peer.closing = .error fault → fault.isSystem = false →
          whole.outcome = .error (.fault fault))) := by
  intro steps whole
  constructor
  · intro stop hopen
    have hrun : whole = _ := run_eq_of_openSocket_error hopen
    rw [hrun]
    exact ⟨rfl, rfl⟩
  · intro hopen
    have hrun : whole = _ := run_eq_of_openSocket_ok hopen
    have hconverse := converse_compose settings request octets peer
    obtain ⟨last, hlast, houtcome, hpeer⟩ := hconverse.exists_last
    have hsteps : steps = ⟨.ok .socket, (openSocket peer).events, peer⟩ ::
        conversationStages settings request octets peer := by
      simp only [steps, stages, stage, hopen, openSocket_peer]
      rfl
    rw [hrun, hsteps]
    refine ⟨?_, last, ?_, hpeer, ?_, ?_⟩
    · simp [hconverse.events_eq]
    · simp [List.getLast?_cons, hlast]
    · intro hsystem
      rw [← houtcome, afterClosing_of_system _ hsystem]
    · intro fault hclosing hother
      simp only [hclosing, afterClosing_of_other hother]

/-- A fault of closing hides a response. -/
theorem run_eq_stages_of_closing_fault :
    let request : Request :=
      { method := "POST", host := "h", port := 80, path := "/" }
    let fault : Fault := ⟨.other, "boom"⟩
    let peer : Peer := { closing := .error fault, incoming := [.ok [1]] }
    (openSocket peer).outcome = .ok () ∧ peer.closing = .error fault ∧
      fault.isSystem = false ∧
      (run Settings.defaults request [2, 3] peer).outcome =
        .error (.fault fault) := by
  intro request fault peer
  have hstages :=
    (run_eq_stages Settings.defaults request [2, 3] peer).2 rfl
  obtain ⟨-, last, -, -, -, hother⟩ := hstages
  exact ⟨rfl, rfl, rfl, hother fault rfl rfl⟩

end RawPost.Exchange
