/-
Module: IceRpc.Proofs.PendingTable
Purpose: What the pending table of a Node.js gateway holds: the calls that JavaScript
  has not closed.  While no handler lets go of the stream of such a call, these are
  exactly the calls being served that are still to be resolved.
Trusted boundary: none
Main exports: Gateway.Moves, Gateway.Tracked, Gateway.AllHeld, Gateway.Lasting,
  Gateway.OnlyServed, pending_calls_being_served
-/
import Mathlib.Data.List.Nodup
import IceRpc.Lib.Run
import IceRpc.Lib.Table
import IceRpc.NodeJs.Bridge
import IceRpc.Proofs.JsonAnswered

namespace IceRpc

open Lib

variable {T E S : Type}

/-! ### The table -/

namespace PendingCalls

theorem insert_ok {pending next : PendingCalls} {cid : CorrelationId} {sender : Nat}
    (inserted : pending.insert cid sender = .ok next) :
    ¬ pending.containsKey cid ∧ next.entries = (cid, sender) :: pending.entries := by
  unfold insert at inserted
  split at inserted
  · cases inserted
  · split at inserted
    · cases inserted
    · rename_i fresh
      cases inserted
      exact ⟨fresh, rfl⟩

/-- An id that is not in a table below its limit is admitted. -/
theorem insert_of_fresh {pending : PendingCalls} {cid : CorrelationId} (sender : Nat)
    (room : pending.entries.length < maxPendingCalls)
    (fresh : ¬ pending.containsKey cid) :
    ∃ next, pending.insert cid sender = .ok next := by
  refine ⟨⟨(cid, sender) :: pending.entries, List.nodup_cons.mpr ⟨fresh, pending.distinct⟩⟩, ?_⟩
  rw [insert, if_neg (Nat.not_le.mpr room), dif_neg fresh]

theorem mem_take {pending : PendingCalls} {cid : CorrelationId}
    {entry : CorrelationId × Nat} :
    entry ∈ (pending.take cid).2.entries ↔ entry ∈ pending.entries ∧ entry.1 ≠ cid := by
  simp [take]

/-- Taking back what was just inserted restores the table. -/
theorem take_of_inserted {pending next : PendingCalls} {cid : CorrelationId}
    {sender : Nat} (inserted : pending.insert cid sender = .ok next) :
    (next.take cid).2.entries = pending.entries := by
  obtain ⟨fresh, entries_eq⟩ := insert_ok inserted
  simp only [take, entries_eq]
  rw [List.filter_cons_of_neg (by simp), List.filter_eq_self]
  intro entry listed
  have other : entry.1 ≠ cid := by
    rintro rfl
    exact fresh (List.mem_map_of_mem listed)
  simpa using other

theorem mem_of_lookup {entries : List (CorrelationId × Nat)} {cid : CorrelationId}
    {sender : Nat} (found : entries.lookup cid = some sender) : (cid, sender) ∈ entries := by
  induction entries with
  | nil => cases found
  | cons entry entries ih =>
      obtain ⟨key, value⟩ := entry
      by_cases same : cid = key
      · subst same
        rw [List.lookup_cons_self] at found
        cases found
        exact List.mem_cons_self ..
      · rw [List.lookup_cons, beq_eq_false_iff_ne.mpr same] at found
        exact List.mem_cons_of_mem _ (ih found)

/-- One id has one entry. -/
theorem sender_unique {pending : PendingCalls} {cid : CorrelationId} {first second : Nat}
    (one : (cid, first) ∈ pending.entries) (two : (cid, second) ∈ pending.entries) :
    first = second := by
  have inj := List.inj_on_of_nodup_map pending.distinct one two rfl
  exact congrArg Prod.snd inj

end PendingCalls

/-! ### The handler -/

namespace JsonServing

/-- A poll of the handler that does not end it: the deadline does not answer for the
host, and the next event can be encoded. -/
def Endures (rkyv : Rkyv T E) (serde : Serde T E) (serving : JsonServing S)
    (timerFirst : Bool) : Prop :=
  ¬ (serving.stream.answered = false ∧ serving.elapsed = true ∧
    (timerFirst = true ∨ serving.stream.queue = [])) ∧
  ∀ value ∈ serving.stream.queue.head?, (eventFromJson rkyv serde value).isSome = true

theorem rejectWith_stream (rkyv : Rkyv T E) (emitter : ResponseEmitter S)
    (serving : JsonServing S) (err : RpcError) :
    (serving.rejectWith rkyv emitter err).stream = serving.stream ∧
      (serving.rejectWith rkyv emitter err).returned = true := by
  unfold rejectWith
  cases rkyv.encodeRpc err <;> exact ⟨rfl, rfl⟩

/-- A poll leaves the sender alone, and a handler that the poll ends has found the
sender gone or was not spared the deadline and the encoder. -/
theorem poll_stream {rkyv : Rkyv T E} {serde : Serde T E} {emitter : ResponseEmitter S}
    {serving next : JsonServing S} {timerFirst : Bool}
    (performed : serving.poll rkyv serde emitter timerFirst = some next) :
    next.stream.closed = serving.stream.closed ∧
      (Endures rkyv serde serving timerFirst →
        next.returned = false ∨ serving.stream.closed = true) := by
  unfold poll at performed
  split at performed
  · cases performed
  · rename_i notReturned
    have running : serving.returned = false := by simpa using notReturned
    rcases serving.stream.next_cases serving.elapsed timerFirst with
      ⟨answer, -, -⟩ | ⟨answer, -, closed, -⟩ | ⟨answer, first, elapsed, race⟩ |
        ⟨value, queue, queued, answer⟩
    · rw [answer] at performed
      cases performed
      exact ⟨rfl, fun _ => Or.inl running⟩
    · rw [answer] at performed
      cases performed
      exact ⟨rfl, fun _ => Or.inr closed⟩
    · rw [answer] at performed
      cases performed
      have rejected := rejectWith_stream rkyv emitter serving
        (.internal "the JSON host did not answer within 30s")
      refine ⟨congrArg JsonCallStream.closed rejected.1, fun endures => ?_⟩
      exact absurd ⟨first, elapsed, race.imp_right And.left⟩ endures.1
    · rw [answer] at performed
      cases performed
      simp only [onEvent]
      cases converted : eventFromJson rkyv serde value with
      | some sample => exact ⟨rfl, fun _ => Or.inl running⟩
      | none =>
          have rejected := rejectWith_stream rkyv emitter
            { serving with
              stream := { serving.stream with queue := queue, answered := true } }
            .serializationError
          have sender := congrArg JsonCallStream.closed rejected.1
          refine ⟨sender, fun endures => ?_⟩
          have encodes := endures.2 value (by rw [queued]; rfl)
          rw [converted] at encodes
          cases encodes

end JsonServing

namespace Gateway

variable {gateway next : Gateway S} {cid : CorrelationId}

/-! ### The steps of the gateway, one by one -/

/-- The step leaves the streams of unresolved calls with their handlers: no deadline
for the first event, no event that cannot be encoded and no remote cancellation takes
one away, and no one-way call is admitted. -/
def Lasting (rkyv : Rkyv T E) (serde : Serde T E) (gateway : Gateway S) :
    GatewayAction S → Prop
  | .onewayRequest cid args refused _ =>
      args = none ∨ ∃ err, (gateway.startCall cid refused).2 = .error err
  | .drop index =>
      ∀ call, gateway.calls[index]? = some call → call.closedByHost = true
  | .poll index timerFirst =>
      ∀ call, gateway.calls[index]? = some call →
        call.closedByHost = true ∨ call.serving.Endures rkyv serde timerFirst
  | _ => True

/-- What a step does to the table and to the calls; `lasting` is the condition on it. -/
inductive Moves (lasting : Prop) (gateway next : Gateway S) : Prop
  | idle (table : next.pending.entries = gateway.pending.entries)
      (calls : next.calls = gateway.calls)
  | refused {call : GatewayCall S}
      (table : next.pending.entries = gateway.pending.entries)
      (calls : next.calls = gateway.calls ++ [call]) (lost : call.holdsStream = false)
  | admitted {cid : CorrelationId} {call : GatewayCall S}
      (fresh : ¬ gateway.pending.containsKey cid)
      (table : next.pending.entries =
        (cid, gateway.calls.length) :: gateway.pending.entries)
      (calls : next.calls = gateway.calls ++ [call]) (named : call.cid = cid)
      (unresolved : call.closedByHost = false)
      (lasts : lasting → call.holdsStream = true)
  | served {index : Nat} {call after : GatewayCall S}
      (table : next.pending.entries = gateway.pending.entries)
      (found : gateway.calls[index]? = some call)
      (calls : next.calls = gateway.calls.set index after) (cid : after.cid = call.cid)
      (sender : after.closedByHost = call.closedByHost)
      (held : call.holdsStream = true)
      (lasts : lasting → after.holdsStream = true ∨ call.closedByHost = true)
  | resolved {index : Nat} {call after : GatewayCall S}
      (entry : (call.cid, index) ∈ gateway.pending.entries)
      (table : ∀ entry, entry ∈ next.pending.entries ↔
        entry ∈ gateway.pending.entries ∧ entry.1 ≠ call.cid)
      (found : gateway.calls[index]? = some call)
      (calls : next.calls = gateway.calls.set index after) (cid : after.cid = call.cid)
      (closed : after.closedByHost = true)

theorem startCall_cases (gateway : Gateway S) (cid : CorrelationId)
    (status : Option String) :
    ((gateway.startCall cid status).1.entries = gateway.pending.entries ∧
      ∃ err, (gateway.startCall cid status).2 = .error err) ∨
    (¬ gateway.pending.containsKey cid ∧
      (gateway.startCall cid status).1.entries =
        (cid, gateway.calls.length) :: gateway.pending.entries ∧
      (gateway.startCall cid status).2 = .ok ()) := by
  unfold startCall
  cases inserted : gateway.pending.insert cid gateway.calls.length with
  | error err => exact Or.inl ⟨rfl, err, rfl⟩
  | ok pending =>
      cases status with
      | none =>
          obtain ⟨fresh, entries_eq⟩ := PendingCalls.insert_ok inserted
          exact Or.inr ⟨fresh, entries_eq, rfl⟩
      | some status => exact Or.inl ⟨PendingCalls.take_of_inserted inserted, _, rfl⟩

theorem request_moves (lasting : Prop) (rkyv : Rkyv T E) (emitter : ResponseEmitter S)
    (gateway : Gateway S) (cid : CorrelationId) (args : Option Json)
    (status : Option String) (sink : S) :
    Moves lasting gateway (gateway.request rkyv emitter cid args status sink) := by
  have rejected (err : RpcError) : ((JsonServing.begin sink).rejectWith rkyv emitter
      err).returned = true := (JsonServing.rejectWith_stream rkyv emitter _ err).2
  cases args with
  | none =>
      refine .refused rfl rfl ?_
      simp [GatewayCall.holdsStream, jsonHostHandler, JsonServing.rejectJsonRequest,
        rejected]
  | some args =>
      rcases gateway.startCall_cases cid status with ⟨table, err, failed⟩ |
          ⟨fresh, table, started⟩
      · refine .refused table rfl ?_
        simp [GatewayCall.holdsStream, jsonHostHandler, failed, Except.mapError,
          JsonServing.rejectJsonDispatch, rejected]
      · refine .admitted fresh table rfl rfl ?_ fun _ => ?_
        · simp [GatewayCall.closedByHost, jsonHostHandler, started, Except.mapError,
            JsonServing.begin, JsonCallStream.channel]
        · simp [GatewayCall.holdsStream, jsonHostHandler, started, Except.mapError,
            JsonServing.begin]

/-- A one-way call is admitted or refused like any other. -/
theorem onewayRequest_moves (rkyv : Rkyv T E) (serde : Serde T E) (gateway : Gateway S)
    (cid : CorrelationId) (args : Option Json) (status : Option String) (sink : S) :
    Moves (Lasting rkyv serde gateway (.onewayRequest cid args status sink)) gateway
      (gateway.onewayRequest cid args status sink) := by
  cases args with
  | none => exact .idle rfl rfl
  | some args =>
      rcases gateway.startCall_cases cid status with ⟨table, err, failed⟩ |
          ⟨fresh, table, started⟩
      · simp only [onewayRequest]
        generalize gateway.startCall cid status = result at table failed
        obtain ⟨pending, outcome⟩ := result
        cases failed
        exact .idle table rfl
      · simp only [onewayRequest, Lasting]
        generalize gateway.startCall cid status = result at table started
        obtain ⟨pending, outcome⟩ := result
        cases started
        exact .admitted fresh table rfl rfl rfl fun refused => by simp at refused

theorem trySend_some {call sent : GatewayCall S} {value : Json}
    (accepted : call.trySend value = some sent) :
    call.holdsStream = true ∧ sent.cid = call.cid ∧
      sent.closedByHost = call.closedByHost ∧ sent.holdsStream = call.holdsStream := by
  unfold GatewayCall.trySend at accepted
  split at accepted
  · rename_i held
    cases accepted
    exact ⟨held, rfl, rfl, rfl⟩
  · cases accepted

theorem emitEvent_moves {lasting : Prop} {hex : String} {event : Json}
    (emitted : gateway.emitEvent hex event = .ok next) : Moves lasting gateway next := by
  unfold emitEvent at emitted
  cases parsed : parseCid hex with
  | error err => simp [parsed, bind, Except.bind] at emitted
  | ok cid =>
      cases enveloped : nextEnvelope event with
      | error err => simp [parsed, enveloped, bind, Except.bind] at emitted
      | ok envelope =>
          simp only [parsed, enveloped, bind, Except.bind] at emitted
          split at emitted
          · cases emitted
          · split at emitted
            · rename_i index _ sent pushed
              cases emitted
              obtain ⟨call, found, accepted⟩ := Option.bind_eq_some_iff.mp pushed
              obtain ⟨held, cid_eq, sender_eq, held_eq⟩ := trySend_some accepted
              exact .served rfl found rfl cid_eq sender_eq held
                fun _ => Or.inl (held_eq.trans held)
            · cases emitted

/-! ### Who is in the table -/

/-- Every entry of the table is an unresolved call of that id, and every unresolved
call whose handler holds its stream has its entry. -/
structure Tracked (gateway : Gateway S) : Prop where
  entry : ∀ cid index, (cid, index) ∈ gateway.pending.entries →
    ∃ call, gateway.calls[index]? = some call ∧ call.cid = cid ∧
      call.closedByHost = false
  held : ∀ index call, gateway.calls[index]? = some call → call.holdsStream = true →
    call.closedByHost = false → (call.cid, index) ∈ gateway.pending.entries

/-- The handlers hold the streams of all calls in the table. -/
def AllHeld (gateway : Gateway S) : Prop :=
  ∀ cid index call, (cid, index) ∈ gateway.pending.entries →
    gateway.calls[index]? = some call → call.holdsStream = true

theorem tracked_new : (new : Gateway S).Tracked := by
  constructor
  · intro cid index listed
    cases listed
  · intro index call found
    simp [new] at found

theorem resolve_moves {lasting : Prop} {hex : String} {event : Json} (tracked : gateway.Tracked)
    (resolved : gateway.resolve hex event = .ok next) : Moves lasting gateway next := by
  unfold resolve at resolved
  cases parsed : parseCid hex with
  | error err => simp [parsed, bind, Except.bind] at resolved
  | ok cid =>
      cases enveloped : terminalEnvelope event with
      | error err => simp [parsed, enveloped, bind, Except.bind] at resolved
      | ok envelope =>
          simp only [parsed, enveloped, bind, Except.bind, PendingCalls.take] at resolved
          cases looked : gateway.pending.entries.lookup cid with
          | none =>
              rw [looked] at resolved
              cases resolved
          | some index =>
              have listed := PendingCalls.mem_of_lookup looked
              obtain ⟨call, found, rfl, -⟩ := tracked.entry cid index listed
              simp only [looked, found] at resolved
              cases resolved
              refine .resolved listed (fun entry => PendingCalls.mem_take) found rfl ?_ rfl
              cases sent : call.trySend envelope with
              | none => rfl
              | some after => exact (trySend_some sent).2.1

theorem atHandler_some {index : Nat} {act : GatewayCall S → Option (GatewayCall S)}
    (performed : gateway.atHandler index act = some next) :
    ∃ call after, gateway.calls[index]? = some call ∧ call.holdsStream = true ∧
      act call = some after ∧ next = gateway.setCall index after := by
  unfold atHandler at performed
  obtain ⟨call, found, rest⟩ := Option.bind_eq_some_iff.mp performed
  split at rest
  · rename_i held
    obtain ⟨after, acted, final⟩ := Option.bind_eq_some_iff.mp rest
    cases final
    exact ⟨call, after, found, held, acted, rfl⟩
  · cases rest

/-- Every step of the gateway is one of its moves. -/
theorem step_moves {rkyv : Rkyv T E} {serde : Serde T E} {emitter : ResponseEmitter S}
    {action : GatewayAction S} (tracked : gateway.Tracked)
    (performed : gateway.step rkyv serde emitter action = some next) :
    Moves (Lasting rkyv serde gateway action) gateway next := by
  cases action with
  | request cid args status sink =>
      cases performed
      exact request_moves _ rkyv emitter gateway cid args status sink
  | onewayRequest cid args status sink =>
      cases performed
      exact onewayRequest_moves rkyv serde gateway cid args status sink
  | emitEvent hex event =>
      simp only [step] at performed
      cases emitted : gateway.emitEvent hex event with
      | error err =>
          rw [emitted] at performed
          cases performed
          exact .idle rfl rfl
      | ok after =>
          rw [emitted] at performed
          cases performed
          exact emitEvent_moves emitted
  | resolve hex event =>
      simp only [step] at performed
      cases resolved : gateway.resolve hex event with
      | error err =>
          rw [resolved] at performed
          cases performed
          exact .idle rfl rfl
      | ok after =>
          rw [resolved] at performed
          cases performed
          exact resolve_moves tracked resolved
  | elapse index =>
      obtain ⟨call, after, found, held, acted, rfl⟩ := atHandler_some performed
      cases acted
      exact .served rfl found rfl rfl rfl held fun _ => Or.inl held
  | poll index timerFirst =>
      obtain ⟨call, after, found, held, acted, rfl⟩ := atHandler_some performed
      obtain ⟨serving, polled, final⟩ := Option.bind_eq_some_iff.mp acted
      cases final
      obtain ⟨sender, ends⟩ := JsonServing.poll_stream polled
      refine .served rfl found rfl rfl sender held fun lasting => ?_
      rcases lasting call found with closed | endures
      · exact Or.inr closed
      · refine (ends endures).imp_left fun running => ?_
        simp only [GatewayCall.holdsStream, running, Bool.and_eq_true] at held ⊢
        exact ⟨held.1, rfl⟩
  | drop index =>
      obtain ⟨call, after, found, held, acted, rfl⟩ := atHandler_some performed
      cases acted
      exact .served rfl found rfl rfl rfl held fun lasting => Or.inr (lasting call found)

/-! ### What every step keeps -/

theorem tracked_step {rkyv : Rkyv T E} {serde : Serde T E} {emitter : ResponseEmitter S}
    {action : GatewayAction S} (tracked : gateway.Tracked)
    (performed : gateway.step rkyv serde emitter action = some next) : next.Tracked := by
  cases step_moves tracked performed with
  | idle table calls =>
      constructor
      · rw [table, calls]
        exact tracked.entry
      · rw [table, calls]
        exact tracked.held
  | refused table calls lost =>
      constructor
      · intro cid index listed
        rw [table] at listed
        obtain ⟨call, found, rest⟩ := tracked.entry cid index listed
        rw [calls]
        exact ⟨call, getElem?_snoc_of_some found, rest⟩
      · intro index call found held unresolved
        rw [calls] at found
        rw [table]
        rcases getElem?_snoc_cases found with ⟨-, rfl⟩ | old
        · rw [lost] at held
          cases held
        · exact tracked.held index call old held unresolved
  | @admitted cid call fresh table calls named unresolved lasts =>
      constructor
      · intro other index listed
        rw [table] at listed
        rw [calls]
        rcases List.mem_cons.mp listed with same | old
        · cases same
          exact ⟨call, List.getElem?_concat_length .., named, unresolved⟩
        · obtain ⟨before, found, rest⟩ := tracked.entry other index old
          exact ⟨before, getElem?_snoc_of_some found, rest⟩
      · intro index other found held openSender
        rw [calls] at found
        rw [table]
        rcases getElem?_snoc_cases found with ⟨rfl, rfl⟩ | old
        · rw [named]
          exact List.mem_cons_self ..
        · exact List.mem_cons_of_mem _ (tracked.held index other old held openSender)
  | @served index call after table found calls cid sender held lasts =>
      constructor
      · intro other position listed
        rw [table] at listed
        rw [calls]
        obtain ⟨before, foundBefore, named, unresolved⟩ := tracked.entry other position listed
        rcases eq_or_ne position index with rfl | different
        · cases found.symm.trans foundBefore
          exact ⟨after, getElem?_set_of_some after found, cid.trans named,
            sender.trans unresolved⟩
        · exact ⟨before, (List.getElem?_set_ne (Ne.symm different)).trans foundBefore,
            named, unresolved⟩
      · intro position other foundAfter holds unresolved
        rw [calls] at foundAfter
        rw [table]
        rcases getElem?_set_cases foundAfter with ⟨rfl, rfl⟩ | ⟨-, old⟩
        · rw [cid]
          exact tracked.held position call found held (sender.symm.trans unresolved)
        · exact tracked.held position other old holds unresolved
  | @resolved index call after entry table found calls cid closed =>
      constructor
      · intro other position listed
        obtain ⟨old, different⟩ := (table _).mp listed
        obtain ⟨before, foundBefore, named, unresolved⟩ := tracked.entry other position old
        have elsewhere : position ≠ index := by
          rintro rfl
          cases found.symm.trans foundBefore
          exact different named.symm
        rw [calls]
        exact ⟨before, (List.getElem?_set_ne (Ne.symm elsewhere)).trans foundBefore,
          named, unresolved⟩
      · intro position other foundAfter holds unresolved
        rw [calls] at foundAfter
        rcases getElem?_set_cases foundAfter with ⟨rfl, rfl⟩ | ⟨elsewhere, old⟩
        · rw [closed] at unresolved
          cases unresolved
        · have listed := tracked.held position other old holds unresolved
          refine (table _).mpr ⟨listed, ?_⟩
          intro same
          rw [show other.cid = call.cid from same] at listed
          exact elsewhere (PendingCalls.sender_unique listed entry)

/-- A step that leaves unresolved calls with their handlers keeps the table to calls
whose streams are held. -/
theorem allHeld_step {rkyv : Rkyv T E} {serde : Serde T E} {emitter : ResponseEmitter S}
    {action : GatewayAction S} (tracked : gateway.Tracked) (all : gateway.AllHeld)
    (lasting : Lasting rkyv serde gateway action)
    (performed : gateway.step rkyv serde emitter action = some next) : next.AllHeld := by
  intro cid position other listed foundAfter
  cases step_moves tracked performed with
  | idle table calls =>
      rw [table] at listed
      rw [calls] at foundAfter
      exact all cid position other listed foundAfter
  | refused table calls lost =>
      rw [table] at listed
      rw [calls] at foundAfter
      obtain ⟨before, found, -⟩ := tracked.entry cid position listed
      cases (getElem?_snoc_of_some found).symm.trans foundAfter
      exact all cid position other listed found
  | @admitted cid call fresh table calls named unresolved lasts =>
      rw [table] at listed
      rw [calls] at foundAfter
      rcases List.mem_cons.mp listed with same | old
      · cases same
        rw [List.getElem?_concat_length] at foundAfter
        cases foundAfter
        exact lasts lasting
      · obtain ⟨before, found, -⟩ := tracked.entry _ position old
        cases (getElem?_snoc_of_some found).symm.trans foundAfter
        exact all _ position other old found
  | @served index call after table found calls named sender held lasts =>
      rw [table] at listed
      rw [calls] at foundAfter
      rcases getElem?_set_cases foundAfter with ⟨rfl, rfl⟩ | ⟨-, old⟩
      · obtain ⟨before, foundBefore, -, unresolved⟩ := tracked.entry cid position listed
        cases found.symm.trans foundBefore
        rcases lasts lasting with holds | closed
        · exact holds
        · rw [unresolved] at closed
          cases closed
      · exact all cid position other listed old
  | @resolved index call after entry table found calls named closed =>
      obtain ⟨old, different⟩ := (table _).mp listed
      rw [calls] at foundAfter
      rcases getElem?_set_cases foundAfter with ⟨rfl, rfl⟩ | ⟨-, before⟩
      · obtain ⟨same, foundSame, rfl, -⟩ := tracked.entry cid position old
        cases found.symm.trans foundSame
        exact absurd rfl different
      · exact all cid position other old before

/-! ### Every run -/

/-- The table holds exactly the calls being served that JavaScript has not resolved;
once no call is being served it is empty and any call is admitted. -/
structure OnlyServed (gateway : Gateway S) : Prop where
  served : ∀ cid, gateway.pending.containsKey cid ↔
    ∃ call ∈ gateway.calls, call.cid = cid ∧ call.holdsStream = true ∧
      call.closedByHost = false
  idle : (∀ call ∈ gateway.calls, call.holdsStream = false) →
    gateway.pending.entries = [] ∧
      ∀ cid, ∃ pending, gateway.startCall cid none = (pending, .ok ())

theorem Tracked.containsKey (tracked : gateway.Tracked) {call : GatewayCall S}
    (listed : call ∈ gateway.calls) (held : call.holdsStream = true)
    (unresolved : call.closedByHost = false) : gateway.pending.containsKey call.cid := by
  obtain ⟨index, found⟩ := List.mem_iff_getElem?.mp listed
  exact List.mem_map_of_mem (tracked.held index call found held unresolved)

theorem Tracked.onlyServed (tracked : gateway.Tracked) (all : gateway.AllHeld) :
    gateway.OnlyServed := by
  have isServed : ∀ entry ∈ gateway.pending.entries, ∃ call ∈ gateway.calls,
      call.cid = entry.1 ∧ call.holdsStream = true ∧ call.closedByHost = false := by
    intro entry listed
    obtain ⟨call, found, named, unresolved⟩ := tracked.entry entry.1 entry.2 listed
    exact ⟨call, List.mem_of_getElem? found, named, all _ _ call listed found, unresolved⟩
  constructor
  · intro cid
    constructor
    · intro contained
      obtain ⟨entry, listed, rfl⟩ := List.mem_map.mp contained
      exact isServed entry listed
    · rintro ⟨call, listed, rfl, held, unresolved⟩
      exact tracked.containsKey listed held unresolved
  · intro nobody
    have empty : gateway.pending.entries = [] := by
      apply List.eq_nil_iff_forall_not_mem.mpr
      intro entry listed
      obtain ⟨call, member, -, held, -⟩ := isServed entry listed
      rw [nobody call member] at held
      cases held
    refine ⟨empty, ?_⟩
    intro cid
    have room : gateway.pending.entries.length < maxPendingCalls := by
      rw [empty]
      decide
    have fresh : ¬ gateway.pending.containsKey cid := by
      rw [PendingCalls.containsKey, empty]
      exact List.not_mem_nil
    obtain ⟨pending, inserted⟩ :=
      PendingCalls.insert_of_fresh gateway.calls.length room fresh
    exact ⟨pending, by rw [startCall, inserted]⟩

end Gateway

/-- In every run of the gateway an unresolved call whose handler holds its stream is
in the table.  In a run that leaves unresolved calls with their handlers, the table
holds those calls only, and is empty once no call is being served. -/
theorem pending_calls_being_served (rkyv : Rkyv T E) (serde : Serde T E)
    (emitter : ResponseEmitter S) (actions : List (GatewayAction S)) (final : Gateway S)
    (performed : run (Gateway.step rkyv serde emitter) .new actions = some final) :
    (∀ call ∈ final.calls, call.holdsStream = true → call.closedByHost = false →
      final.pending.containsKey call.cid) ∧
    (StepsMeet (Gateway.step rkyv serde emitter) (Gateway.Lasting rkyv serde) .new
      actions → final.OnlyServed) := by
  have tracked : final.Tracked :=
    run_invariant Gateway.Tracked Gateway.tracked_new
      (fun _ _ _ tracked moved => Gateway.tracked_step tracked moved) performed
  refine ⟨fun call listed => tracked.containsKey listed, fun lasting => ?_⟩
  have kept := run_invariant_of_stepsMeet
    (fun gateway : Gateway S => gateway.Tracked ∧ gateway.AllHeld)
    (Gateway.Lasting rkyv serde)
    (fun _ _ _ inv meets moved =>
      ⟨Gateway.tracked_step inv.1 moved, Gateway.allHeld_step inv.1 inv.2 meets moved⟩)
    ⟨Gateway.tracked_new, fun _ _ _ listed => nomatch listed⟩ lasting performed
  exact kept.1.onlyServed kept.2

/-- The id of the calls below. -/
def sampleCid : CorrelationId := Vector.replicate 16 7

/-- A call is served and resolved, and read to its end; a one-way call of its id is
refused meanwhile. -/
theorem pending_calls_being_served_resolved :
    let actions : List (GatewayAction (List Sample)) :=
      [.request sampleCid (some .null) none [], .onewayRequest sampleCid (some .null) none [],
        .resolve (fmtCorrelationId sampleCid) .null, .poll 0 false, .poll 0 false]
    ∃ final, run (Gateway.step plainCodec nullSerde collectEmitter) .new actions = some final ∧
      final.OnlyServed := by
  intro actions
  refine ⟨_, rfl,
    (pending_calls_being_served plainCodec nullSerde collectEmitter actions _ rfl).2 ?_⟩
  refine stepsMeet_cons rfl trivial (stepsMeet_cons rfl (Or.inr ⟨_, rfl⟩)
    (stepsMeet_cons rfl trivial ?_))
  refine stepsMeet_cons rfl ?_ (stepsMeet_cons rfl ?_ trivial)
  · rintro call ⟨⟩
    exact Or.inl rfl
  · rintro call ⟨⟩
    exact Or.inl rfl

/-- A resolved call is out of the table while its handler still holds its stream; a
call whose handler task is dropped by a remote cancellation stays in it. -/
theorem pending_calls_not_held :
    (∃ final, run (Gateway.step plainCodec nullSerde collectEmitter) .new
        [.request sampleCid (some .null) none [],
          .resolve (fmtCorrelationId sampleCid) .null] = some final ∧
      ¬ final.pending.containsKey sampleCid ∧
      ∃ call ∈ final.calls, call.cid = sampleCid ∧ call.holdsStream = true) ∧
    (∃ final, run (Gateway.step plainCodec nullSerde collectEmitter) .new
        [.request sampleCid (some .null) none [], .drop 0] = some final ∧
      final.pending.containsKey sampleCid ∧
      ∀ call ∈ final.calls, call.holdsStream = false) := by
  refine ⟨⟨_, rfl, by decide, _, List.mem_singleton_self _, rfl, rfl⟩,
    ⟨_, rfl, by decide, ?_⟩⟩
  intro call listed
  rw [List.mem_singleton.mp listed]
  rfl

end IceRpc
