import RawPost.Proofs.Filling
import RawPost.Proofs.Offer
import RawPost.Proofs.Ordinary
import RawPost.Proofs.Stages
import RawPost.Proofs.Transfer

/-!
# Stages in any order

The stages of an exchange can be asked for one after another in any order and any number of times, on one
peer, whether the ones before have failed or not.  Only a sending puts octets out: a beginning of what it
was given, and all of it exactly if it succeeds.  Only a receipt takes octets in, and what receipts have
taken in and what is still to come are together what there was to come at first.  So no octet is lost or
comes twice where one stage ends and another one begins.
-/

namespace RawPost

namespace Step

variable {ε α β : Type} {f : α → β} {step : Step ε α}

/-- A step that gives something for its value. -/
def map (f : α → β) (step : Step ε α) : Step ε β :=
  ⟨step.outcome.map f, step.events, step.peer⟩

theorem exists_of_map_eq_ok {b : β} (hok : (step.map f).outcome = .ok b) :
    ∃ a, step.outcome = .ok a ∧ f a = b := by
  cases houtcome : step.outcome with
  | error e => simp [map, houtcome, Except.map] at hok
  | ok a =>
      simp only [map, houtcome, Except.map, Except.ok.injEq] at hok
      exact ⟨a, rfl, hok⟩

theorem eq_error_of_map {e : ε} (herror : (step.map f).outcome = .error e) :
    step.outcome = .error e := by
  cases houtcome : step.outcome with
  | error other => simpa [map, houtcome, Except.map] using herror
  | ok a => simp [map, houtcome, Except.map] at herror

end Step

namespace Exchange

/-- What can be asked for. -/
inductive Demand where
  | openSocket
  | resolve (host : String)
  | connect (address : String) (port : Int)
  | send (octets : Octets)
  | receive
  deriving DecidableEq, Repr

namespace Demand

def isSend : Demand → Bool
  | send _ => true
  | _ => false

def isReceive : Demand → Bool
  | receive => true
  | _ => false

def perform [Memory] (settings : Settings) (peer : Peer) : Demand → Step Stop Product
  | openSocket => (Exchange.openSocket peer).map fun _ => .socket
  | resolve host => (Exchange.resolve host peer).map .address
  | connect address port =>
    (Exchange.connect settings address port peer).map fun _ => .connection
  | send octets => (Exchange.send octets peer).map .sent
  | receive => (Exchange.receive settings peer).map .response

end Demand

/-- A demand, the peer that it met, and what came of it. -/
structure Entry where
  demand : Demand
  before : Peer
  step : Step Stop Product

/-- Demands one after another; none of them is left out because of a failure. -/
def session [Memory] (settings : Settings) : Peer → List Demand → List Entry
  | _, [] => []
  | peer, demand :: demands =>
    let step := demand.perform settings peer
    ⟨demand, peer, step⟩ :: session settings step.peer demands

def traceOf (entries : List Entry) : Trace :=
  entries.flatMap fun entry => entry.step.events

/-- The peer as a list of entries leaves it. -/
def peerAfter (peer : Peer) (entries : List Entry) : Peer :=
  entries.foldl (fun _ entry => entry.step.peer) peer

/-! ## One demand -/

/-- Neither puts octets out nor takes any in. -/
structure IsQuiet (before : Peer) (step : Step Stop Product) : Prop where
  written_eq : step.events.written = []
  delivered_eq : step.events.delivered = []
  incoming_eq : step.peer.incoming = before.incoming

/-- Puts out a beginning of the octets; it is all of them exactly if the step succeeds. -/
structure PutsOut (octets : Octets) (before : Peer) (step : Step Stop Product) :
    Prop where
  exists_unsent : ∃ unsent, octets = step.events.written ++ unsent ∧
    ((∃ product, step.outcome = .ok product) ↔ unsent = []) ∧
    ((∃ stop, step.outcome = .error stop) ↔ unsent ≠ [])
  delivered_eq : step.events.delivered = []
  incoming_eq : step.peer.incoming = before.incoming

/-- Takes in the next octets.  A response is what was taken in, and a response that is too large is so by
exactly as many octets as there may be. -/
structure TakesIn (settings : Settings) (before : Peer)
    (step : Step Stop Product) : Prop where
  written_eq : step.events.written = []
  delivered_append : step.events.delivered ++ step.peer.pending = before.pending
  octets_eq : ∀ response, step.outcome = .ok (.response response) →
    response.octets = step.events.delivered
  length_eq : ∀ limit, step.outcome = .error (.failure (.tooLarge limit)) →
    (step.events.delivered.length : Int) = settings.responseLimit

/-- What a demand of each kind has to do with the octets. -/
inductive Accounts (settings : Settings) (before : Peer) (step : Step Stop Product) :
    Demand → Prop where
  | quiet {demand : Demand} (hsend : demand.isSend = false)
      (hreceive : demand.isReceive = false) (hquiet : IsQuiet before step) :
      Accounts settings before step demand
  | sent {octets : Octets} (hputsOut : PutsOut octets before step) :
      Accounts settings before step (.send octets)
  | received (htakesIn : TakesIn settings before step) :
      Accounts settings before step .receive

variable {settings : Settings} {peer : Peer}

theorem openSocket_isQuiet [Memory] :
    IsQuiet peer (Demand.openSocket.perform settings peer) :=
  ⟨rfl, rfl, rfl⟩

theorem resolve_isQuiet [Memory] (host : String) :
    IsQuiet peer ((Demand.resolve host).perform settings peer) := by
  cases hresolution : peer.resolution with
  | error fault =>
      simp only [Demand.perform, resolve_eq_of_error hresolution]
      exact ⟨rfl, rfl, rfl⟩
  | ok address =>
      simp only [Demand.perform, resolve_eq_of_ok hresolution]
      exact ⟨rfl, rfl, rfl⟩

theorem connect_isQuiet [Memory] (address : String) (port : Int) :
    IsQuiet peer ((Demand.connect address port).perform settings peer) := by
  have hconnecting := connect_connecting settings address port peer
  obtain ⟨hwritten, hdelivered⟩ := hconnecting.octets_eq_nil
  refine ⟨hwritten, hdelivered, ?_⟩
  change (connect settings address port peer).peer.incoming = peer.incoming
  rw [hconnecting.peer_eq]

theorem send_putsOut [Memory] (octets : Octets) :
    PutsOut octets peer ((Demand.send octets).perform settings peer) := by
  have hsending := sendRest_sending octets.length octets peer
  have hdelivered := hsending.delivered_eq_nil
  have hpeer := hsending.peer_eq
  rcases hloop : sendRest octets.length octets peer with ⟨outcome, events, after⟩
  rw [hloop] at hsending hdelivered hpeer
  have hincoming : after.incoming = peer.incoming := by
    simp only at hpeer
    rw [hpeer]
  cases outcome with
  | ok _ =>
      have hwritten : events.written = octets := hsending.written_of_ok rfl
      simp only [Demand.perform, send_eq_of_ok hloop]
      refine ⟨⟨[], ?_, ?_⟩, ?_, hincoming⟩
      · simp [Step.map, hwritten, sentNote, Event.written]
      · simp [Step.map, Except.map]
      · simpa [Step.map, sentNote, Event.delivered] using hdelivered
  | error stop =>
      obtain ⟨_, unsent, _, _, hsplit, hunsent, _⟩ := hsending.stops rfl rfl
      simp only [Demand.perform, send_eq_of_error hloop]
      refine ⟨⟨unsent, hsplit, ?_⟩, hdelivered, hincoming⟩
      simp [Step.map, Except.map, hunsent]

theorem Receiving.delivered_append {chunkSize : Int} {response : Response}
    {step : Step Stop (Response × Option Fault)}
    (hrun : Receiving chunkSize response peer step) :
    step.events.delivered ++ step.peer.pending = peer.pending := by
  induction hrun with
  | full => rfl
  | ended hfull hreceive => exact (Peer.pending_of_receive_ok hreceive).2
  | noted hfull hreceive hsystem => exact Peer.pending_of_receive_error hreceive
  | escaped hfull hreceive hsystem => exact Peer.pending_of_receive_error hreceive
  | delivered hfull hreceive hoctets hnext ih =>
      rw [Trace.delivered_cons, Event.delivered, List.append_assoc, ih]
      exact (Peer.pending_of_receive_ok hreceive).2

/-- A full buffer has taken in as many octets as it has room for. -/
theorem Receiving.length_of_full [Memory] {chunkSize : Int} {empty last : Response}
    {step : Step Stop (Response × Option Fault)} {fault : Option Fault}
    (hbuffer : Response.ofCapacity settings.responseLimit = .ok empty)
    (hrun : Receiving chunkSize empty peer step)
    (hok : step.outcome = .ok (last, fault)) (hfull : last.isFull = true) :
    (step.events.delivered.length : Int) = settings.responseLimit := by
  obtain ⟨hpositive, rfl⟩ := Response.eq_of_ofCapacity hbuffer
  obtain ⟨count, reached, hcalls, hreached⟩ := hrun.run_calls
  have hempty : Response.received ⟨settings.responseLimit.toNat, []⟩ ≤
      settings.responseLimit.toNat := Nat.zero_le _
  have hkept := Response.run_kept (List.replicate count chunkSize) peer hempty
  rw [hcalls, ← hreached last fault hok] at hkept
  have hlast := hrun.response_of_ok hok
  have hreceived : last.received = step.events.delivered.length := by
    rw [hlast, Response.received, Response.append, List.nil_append]
  have hcapacity := (Response.isFull_iff hkept.received_le).mp hfull
  rw [hreceived, hkept.capacity_eq] at hcapacity
  rw [hcapacity]
  exact Int.toNat_of_nonneg hpositive.le

theorem Reception.delivered_append [Memory] {step : Step Stop Response}
    (hreception : Reception settings peer step) :
    step.events.delivered ++ step.peer.pending = peer.pending := by
  cases hreception with
  | noBuffer => rfl
  | escaped hbuffer hloop => exact hloop.delivered_append
  | full hbuffer hloop hfull => exact hloop.delivered_append
  | faulty hbuffer hloop hfull => exact hloop.delivered_append
  | complete hbuffer hloop hfull =>
      simpa [receivedNote, Event.delivered] using hloop.delivered_append

theorem receiveStop_ne_tooLarge (fault : Fault) (limit : Nat) :
    receiveStop fault ≠ .failure (.tooLarge limit) := by
  unfold receiveStop Stop.ofSystem
  split
  · simp
  · split <;> simp

theorem Reception.length_of_tooLarge [Memory] {step : Step Stop Response} {limit : Nat}
    (hreception : Reception settings peer step)
    (hlarge : step.outcome = .error (.failure (.tooLarge limit))) :
    (step.events.delivered.length : Int) = settings.responseLimit := by
  cases hreception with
  | noBuffer => simp at hlarge
  | escaped hbuffer hloop =>
      obtain ⟨fault, room, hstop, -⟩ := hloop.lastCall?_of_error rfl
      simp [hstop] at hlarge
  | full hbuffer hloop hfull => exact hloop.length_of_full hbuffer rfl hfull
  | faulty =>
      rw [Except.error.injEq] at hlarge
      exact absurd hlarge (receiveStop_ne_tooLarge _ limit)
  | complete => simp at hlarge

theorem receive_takesIn [Memory] :
    TakesIn settings peer (Demand.receive.perform settings peer) := by
  have hreception := receive_reception settings peer
  constructor
  · exact hreception.written_eq_nil
  · exact hreception.delivered_append
  · intro response hok
    obtain ⟨given, hgiven, hproduct⟩ := Step.exists_of_map_eq_ok hok
    rw [Product.response.injEq] at hproduct
    rw [← hproduct]
    exact (hreception.delivered_of_ok hgiven).symm
  · intro limit hlarge
    exact hreception.length_of_tooLarge (Step.eq_error_of_map hlarge)

theorem perform_accounts [Memory] (settings : Settings) (peer : Peer) (demand : Demand) :
    Accounts settings peer (demand.perform settings peer) demand := by
  cases demand with
  | openSocket => exact .quiet rfl rfl openSocket_isQuiet
  | resolve host => exact .quiet rfl rfl (resolve_isQuiet host)
  | connect address port => exact .quiet rfl rfl (connect_isQuiet address port)
  | send octets => exact .sent (send_putsOut octets)
  | receive => exact .received receive_takesIn

namespace Accounts

variable {before : Peer} {step : Step Stop Product} {demand : Demand}

theorem written_eq_nil (haccounts : Accounts settings before step demand)
    (hdemand : demand.isSend = false) : step.events.written = [] := by
  cases haccounts with
  | quiet hsend hreceive hquiet => exact hquiet.written_eq
  | sent hputsOut => contradiction
  | received htakesIn => exact htakesIn.written_eq

theorem delivered_eq_nil (haccounts : Accounts settings before step demand)
    (hdemand : demand.isReceive = false) : step.events.delivered = [] := by
  cases haccounts with
  | quiet hsend hreceive hquiet => exact hquiet.delivered_eq
  | sent hputsOut => exact hputsOut.delivered_eq
  | received htakesIn => contradiction

theorem incoming_eq (haccounts : Accounts settings before step demand)
    (hdemand : demand.isReceive = false) :
    step.peer.incoming = before.incoming := by
  cases haccounts with
  | quiet hsend hreceive hquiet => exact hquiet.incoming_eq
  | sent hputsOut => exact hputsOut.incoming_eq
  | received htakesIn => contradiction

theorem delivered_append (haccounts : Accounts settings before step demand) :
    step.events.delivered ++ step.peer.pending = before.pending := by
  cases hdemand : demand.isReceive with
  | true =>
      cases haccounts with
      | quiet hsend hreceive hquiet => simp [hreceive] at hdemand
      | sent hputsOut => contradiction
      | received htakesIn => exact htakesIn.delivered_append
  | false =>
      rw [haccounts.delivered_eq_nil hdemand, Peer.pending,
        haccounts.incoming_eq hdemand]
      rfl

end Accounts

/-! ## A whole session -/

/-- The octets that the sendings among the entries have put out. -/
def putOut (entries : List Entry) : Octets :=
  (entries.filter fun entry => entry.demand.isSend).flatMap
    fun entry => entry.step.events.written

/-- The octets that the receipts among the entries have taken in. -/
def takenIn (entries : List Entry) : Octets :=
  (entries.filter fun entry => entry.demand.isReceive).flatMap
    fun entry => entry.step.events.delivered

/-- What a list of entries says about the octets of both directions. -/
structure IsAccount (settings : Settings) (peer : Peer) (entries : List Entry) :
    Prop where
  accounts : ∀ entry ∈ entries,
    Accounts settings entry.before entry.step entry.demand
  written_eq : (traceOf entries).written = putOut entries
  delivered_eq : (traceOf entries).delivered = takenIn entries
  takenIn_append : takenIn entries ++ (peerAfter peer entries).pending = peer.pending

theorem IsAccount.cons {demand : Demand} {step : Step Stop Product}
    {entries : List Entry} (hfirst : Accounts settings peer step demand)
    (hrest : IsAccount settings step.peer entries) :
    IsAccount settings peer (⟨demand, peer, step⟩ :: entries) := by
  have htrace : traceOf (⟨demand, peer, step⟩ :: entries) =
      step.events ++ traceOf entries := rfl
  have htakenIn : takenIn (⟨demand, peer, step⟩ :: entries) =
      step.events.delivered ++ takenIn entries := by
    cases hreceive : demand.isReceive with
    | true => simp [takenIn, hreceive]
    | false => simp [takenIn, hreceive, hfirst.delivered_eq_nil hreceive]
  constructor
  · exact List.forall_mem_cons.mpr ⟨hfirst, hrest.accounts⟩
  · rw [htrace, Trace.written_append, hrest.written_eq]
    cases hsend : demand.isSend with
    | true => simp [putOut, hsend]
    | false => simp [putOut, hsend, hfirst.written_eq_nil hsend]
  · rw [htrace, Trace.delivered_append, hrest.delivered_eq, htakenIn]
  · have hafter : peerAfter peer (⟨demand, peer, step⟩ :: entries) =
        peerAfter step.peer entries := rfl
    rw [htakenIn, hafter, List.append_assoc, hrest.takenIn_append]
    exact hfirst.delivered_append

theorem session_isAccount [Memory] (settings : Settings) (peer : Peer)
    (demands : List Demand) :
    IsAccount settings peer (session settings peer demands) := by
  induction demands generalizing peer with
  | nil => exact ⟨by simp [session], rfl, rfl, rfl⟩
  | cons demand demands ih =>
      exact IsAccount.cons (perform_accounts settings peer demand) (ih _)

theorem map_demand_session [Memory] (settings : Settings) (peer : Peer)
    (demands : List Demand) :
    (session settings peer demands).map Entry.demand = demands := by
  induction demands generalizing peer with
  | nil => rfl
  | cons demand demands ih =>
      rw [session, List.map_cons, ih]

/-- Up to any point, a session is the session of the demands so far. -/
theorem eq_session_of_isPrefix [Memory] {demands : List Demand} {done : List Entry}
    (hdone : done <+: session settings peer demands) :
    done = session settings peer (done.map Entry.demand) := by
  induction done generalizing peer demands with
  | nil => rfl
  | cons entry done ih =>
      cases demands with
      | nil => simp [session] at hdone
      | cons demand demands =>
          rw [session, List.cons_prefix_cons] at hdone
          obtain ⟨rfl, hdone⟩ := hdone
          rw [List.map_cons, session, ← ih hdone]

/-- Every demand is met, and at every point of a session the sendings so far have put out what has been
written, and the receipts so far have taken in what is not to come any more. -/
theorem session_keeps_account [Memory] (settings : Settings) (peer : Peer)
    (demands : List Demand) :
    let entries := session settings peer demands
    entries.map Entry.demand = demands ∧
    ∀ done, done <+: entries → IsAccount settings peer done := by
  intro entries
  refine ⟨map_demand_session settings peer demands, ?_⟩
  intro done hdone
  rw [eq_session_of_isPrefix hdone]
  exact session_isAccount settings peer (done.map Entry.demand)

/-- A sending that is cut off before a receipt that fills the buffer, and one more of each. -/
theorem session_keeps_account_of_cut :
    let settings : Settings := { Settings.defaults with responseLimit := 2 }
    let peer : Peer :=
      { sends := [.ok 2, .error ⟨.system .reset, "reset"⟩]
        incoming := [.ok [5, 6, 7]] }
    let entries := session settings peer
      [.send [1, 2, 3], .receive, .send [4], .receive]
    IsAccount settings peer entries ∧
      takenIn entries ++ (peerAfter peer entries).pending = [5, 6, 7] := by
  intro settings peer entries
  have haccount : IsAccount settings peer entries :=
    (session_keeps_account settings peer
      [.send [1, 2, 3], .receive, .send [4], .receive]).2 entries List.prefix_rfl
  exact ⟨haccount, haccount.takenIn_append⟩

end Exchange

end RawPost
