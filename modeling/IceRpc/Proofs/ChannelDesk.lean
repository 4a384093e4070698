/-
Module: IceRpc.Proofs.ChannelDesk
Purpose: The provider's side of a whole channel, abstracted from the threads it runs
  on.  `Desk` is what the channel holds for the calls it answers, `Desk.Moves` what can
  happen to it, and every step of the channel is one of these moves or none.
Trusted boundary: none
Main exports: answer, Desk, Channel.desk, Desk.Moves, Provider.handleRequest_routes,
  Desk.fresh_moves, Channel.step_desk
-/
import IceRpc.Proofs.ChannelOwners
import IceRpc.Proofs.ChannelRequests
import IceRpc.Proofs.InFlight

namespace IceRpc

open Function (update update_eq_self update_eq_self_iff update_of_ne)

variable {T E : Type}

/-- What the caller of a request is to receive: the events of the observable its
service method returns, as they cross the wire, or the reason why the request reaches
no method.  A one-way method answers nothing. -/
def answer (table : Services T E) (request : Frame) : List (Event T E) :=
  match answerOf table request.header request.payload with
  | .unknownService id => [.error (.technical (.unknownService (hexId id)))]
  | .rejected rejection => [.error (.technical rejection.rpcError)]
  | .unknownMethod id => [.error (.technical (.unknownMethod (hexId id)))]
  | .served handled =>
      if handled.expectsResponse then handled.task.events.map Event.onWire else []

/-! ### What the provider holds for its calls -/

/-- The part of a channel that answers: the call each task serves, the loops, the
publications under way, and the records of both sides. -/
structure Desk (T E : Type) where
  nextToken : TokenId
  role : TokenId → Option (CorrelationId × Handling T E)
  serving : TokenId → Option (Answering T E)
  outbox : Option TokenId → Option Publication
  handled : List Frame
  log : List Frame

def Task.role (task : Task (Handling T E)) : CorrelationId × Handling T E :=
  (task.cid, task.body)

theorem role_update (tasks : TokenId → Option (Task (Handling T E))) (token : TokenId)
    (task : Task (Handling T E)) :
    (fun other => ((update tasks token (some task)) other).map Task.role) =
      update (fun other => (tasks other).map Task.role) token
        (some task.role) := by
  funext other
  rcases eq_or_ne other token with rfl | different
  · simp
  · simp [different]

/-- A task that goes on serves the same call. -/
theorem role_rephased {tasks : TokenId → Option (Task (Handling T E))} {token : TokenId}
    {task : Task (Handling T E)} (changed : Task (Handling T E))
    (current : tasks token = some task) (same : changed.role = task.role) :
    (fun other => ((update tasks token (some changed)) other).map Task.role) =
      fun other => (tasks other).map Task.role := by
  rw [role_update, same]
  apply update_eq_self_iff.mpr
  simp [current]

def Channel.desk (channel : Channel T E) : Desk T E :=
  { nextToken := channel.provider.nextToken
    role := fun token => (channel.provider.tasks token).map Task.role
    serving := channel.serving
    outbox := channel.outbox
    handled := channel.handled
    log := channel.log }

namespace Desk

/-- No sample of the call of this request was taken up before. -/
def Unseen (desk : Desk T E) (request : Frame) : Prop :=
  ∀ earlier ∈ desk.handled,
    earlier.header.correlationId ≠ request.header.correlationId

section

variable (rkyv : Rkyv T E) (table : Services T E) (desk : Desk T E)

/-- What can happen at a desk. -/
inductive Moves : Desk T E → Prop where
  /-- A sample that starts no answer. -/
  | pass (frame : Frame) : Moves { desk with handled := desk.handled ++ [frame] }
  | hire {request : Frame} {handling : Handling T E}
      (isRequest : request.header.eventKind = .request) (unseen : desk.Unseen request)
      (answered : answer table request = handling.events.map Event.onWire) :
      Moves { desk with
        nextToken := desk.nextToken + 1
        role := update desk.role desk.nextToken
          (some (request.header.correlationId, handling))
        serving := update desk.serving desk.nextToken
          (some (.start request.header handling))
        handled := desk.handled ++ [request] }
  | reject {request : Frame} {err : RpcError} {bytes : Bytes} {header : RpcHeader}
      (isRequest : request.header.eventKind = .request) (unseen : desk.Unseen request)
      (answered : answer table request = [.error (.technical err)])
      (encoded : rkyv.encodeRpc err = some bytes) (empty : desk.outbox none = none)
      (isCid : header.correlationId = request.header.correlationId)
      (isKind : header.eventKind = .rpcError) :
      Moves { desk with
        outbox := update desk.outbox none (some (.ofFrame ⟨header, bytes⟩))
        handled := desk.handled ++ [request] }
  /-- A turn that hands a sample to the publisher. -/
  | emit {token : TokenId} {role : CorrelationId × Handling T E} {serving : Answering T E}
      {sample : Sample} {header : RpcHeader} (current : desk.role token = some role)
      (works : desk.serving token = some serving) (empty : desk.outbox (some token) = none)
      (emitted : (serving.turn rkyv).responding.sink = some sample)
      (isCid : header.correlationId = serving.request.correlationId)
      (isKind : header.eventKind = sample.kind) :
      Moves { desk with
        serving := update desk.serving token (some (serving.turn rkyv))
        outbox := update desk.outbox (some token)
          (some (.ofFrame ⟨header, sample.payload⟩)) }
  /-- A turn that does not. -/
  | rest {token : TokenId} {serving : Answering T E}
      (works : desk.serving token = some serving) (empty : desk.outbox (some token) = none)
      (silent : (serving.turn rkyv).responding.sink = none) :
      Moves { desk with
        serving := update desk.serving token (some (serving.turn rkyv)) }
  | retry {owner : Option TokenId} {publication : Publication} (attempts : Nat)
      (current : desk.outbox owner = some publication) :
      Moves { desk with
        outbox := update desk.outbox owner
          (some { publication with attempts := attempts }) }
  | deliver {owner : Option TokenId} {publication : Publication}
      (current : desk.outbox owner = some publication) :
      Moves { desk with
        outbox := update desk.outbox owner none
        log := desk.log ++ [.sent publication.header publication.payload] }
  | fail {owner : Option TokenId} {publication : Publication}
      (current : desk.outbox owner = some publication) :
      Moves { desk with
        outbox := update desk.outbox owner none
        serving := Answering.refuse desk.serving owner }

end

/-- A token that was not handed out names nothing. -/
def Fresh (desk : Desk T E) : Prop :=
  ∀ token, desk.nextToken ≤ token →
    desk.role token = none ∧ desk.outbox (some token) = none

/-- Only a thread that has published or a task that exists publishes. -/
theorem Fresh.publish {desk : Desk T E} (fresh : desk.Fresh) {owner : Option TokenId}
    (known : ∀ token, owner = some token →
      ¬ (desk.role token = none ∧ desk.outbox (some token) = none))
    (changed : Option Publication) (token : TokenId) (unused : desk.nextToken ≤ token) :
    desk.role token = none ∧
      update desk.outbox owner changed (some token) = none := by
  have different : some token ≠ owner := fun same => known token same.symm (fresh token unused)
  rw [update_of_ne different]
  exact fresh token unused

theorem fresh_moves {rkyv : Rkyv T E} {table : Services T E} {desk next : Desk T E}
    (move : desk.Moves rkyv table next) (fresh : desk.Fresh) : next.Fresh := by
  have occupied : ∀ {owner : Option TokenId} {publication : Publication},
      desk.outbox owner = some publication → ∀ token, owner = some token →
        ¬ (desk.role token = none ∧ desk.outbox (some token) = none) := by
    rintro owner publication current token rfl ⟨-, empty⟩
    cases empty.symm.trans current
  cases move with
  | pass | rest => exact fresh
  | hire isRequest unseen answered =>
      intro token unused
      have later : desk.nextToken < token := unused
      simp only [update_of_ne (Nat.ne_of_gt later)]
      exact fresh token (Nat.le_of_lt later)
  | reject =>
      intro token unused
      simp only [update_of_ne (Option.some_ne_none token)]
      exact fresh token unused
  | emit current =>
      refine fresh.publish ?_ _
      rintro token isToken ⟨noRole, -⟩
      cases isToken
      cases noRole.symm.trans current
  | retry attempts current => exact fresh.publish (occupied current) _
  | deliver current => exact fresh.publish (occupied current) none
  | fail current => exact fresh.publish (occupied current) none

end Desk

/-! ### Every step is a move of the desk, or none -/

/-- A stamped response carries the id of its request and its own kind. -/
theorem RpcHeader.stamped_response (request : RpcHeader) (kind : EventKind)
    (version : UInt16) (now seq : UInt64) :
    ((RpcHeader.responseFrom request kind version now).withSeq seq).correlationId =
        request.correlationId ∧
      ((RpcHeader.responseFrom request kind version now).withSeq seq).eventKind = kind :=
  ⟨rfl, EventKind.fromU8_asU8 kind⟩

/-- The response publication leaves one new sample behind. -/
theorem ResponseHub.since_publish (hub : ResponseHub) (outcome : PublishOutcome)
    (kind : EventKind) (request : RpcHeader) (payload : Bytes) :
    (hub.publish outcome kind request payload).1.since hub =
      some ⟨(RpcHeader.responseFrom request kind request.serviceVersion
        outcome.now).withSeq hub.seq, payload⟩ := by
  simp [ResponseHub.publish, ResponseHub.since]

@[simp] theorem ResponseHub.since_self (hub : ResponseHub) : hub.since hub = none := by
  simp [ResponseHub.since]

namespace Provider

variable {rkyv : Rkyv T E} {table : Services T E}

section

variable (rkyv : Rkyv T E) (table : Services T E) (provider : Provider (Handling T E))
  (outcome : PublishOutcome) (frame : Frame)

/-- Where a sample goes, and what the caller of a request is to receive. -/
inductive Routes : Provider (Handling T E) → Prop where
  | accepts {handling : Handling T E} (isRequest : frame.header.eventKind = .request)
      (answered : answer table frame = handling.events.map Event.onWire) :
      Routes (provider.accept frame.header.correlationId handling)
  | rejects {err : RpcError} {bytes : Bytes} (isRequest : frame.header.eventKind = .request)
      (answered : answer table frame = [.error (.technical err)])
      (encoded : rkyv.encodeRpc err = some bytes) :
      Routes { provider with
        hub := (provider.hub.publish outcome .rpcError frame.header bytes).1 }
  /-- A one-way method, a Cancel, or a rejection that cannot be encoded. -/
  | passes (oneway : List (Handling T E)) (cancelled : TokenId → Bool) :
      Routes { provider with oneway := oneway, cancelled := cancelled }

end

theorem reject_routes (provider : Provider (Handling T E)) (outcome : PublishOutcome)
    {frame : Frame} {err : RpcError} (isRequest : frame.header.eventKind = .request)
    (answered : answer table frame = [.error (.technical err)]) :
    Routes rkyv table provider outcome frame
      (provider.reject rkyv outcome frame.header err) := by
  rw [reject, emitRpcError]
  cases encoded : rkyv.encodeRpc err with
  | some bytes => exact .rejects isRequest answered encoded
  | none => exact .passes provider.oneway provider.cancelled

theorem handleRequest_routes (provider : Provider (Handling T E)) (outcome : PublishOutcome)
    (frame : Frame) :
    Routes rkyv table provider outcome frame
      (provider.handleRequest rkyv table outcome frame.header frame.payload) := by
  by_cases isRequest : frame.header.eventKind = .request
  · rw [handleRequest_answer rkyv table provider outcome frame.payload isRequest]
    cases answers : answerOf table frame.header frame.payload with
    | unknownService | rejected | unknownMethod =>
        exact reject_routes provider outcome isRequest (by rw [answer, answers])
    | served handled =>
        simp only [perform]
        split
        · rename_i expects
          exact .accepts isRequest (by rw [answer, answers]; exact if_pos expects)
        · exact .passes _ provider.cancelled
  · rcases provider.handleRequest_cases rkyv table outcome frame.header frame.payload with
      ⟨accepts, -⟩ | ⟨-, handled⟩ | ⟨notCancel, -⟩
    · exact absurd accepts.1 isRequest
    · rw [handled, cancel_frame]
      exact .passes provider.oneway _
    · unfold handleRequest
      split
      · contradiction
      · contradiction
      · exact .passes provider.oneway provider.cancelled

/-- The steps of the provider that run no handler hand out no token and change no
role. -/
theorem step_role {provider next : Provider (Handling T E)} {action : ProviderAction}
    (isLocal : action.isLocal = true)
    (performed : provider.step rkyv table action = some next) :
    next.nextToken = provider.nextToken ∧
      (fun token => (next.tasks token).map Task.role) =
        fun token => (provider.tasks token).map Task.role := by
  cases action with
  | sample header payload outcome => cases isLocal
  | pollHandler token ready => cases isLocal
  | detach =>
      obtain ⟨inline, rfl⟩ := detach_eq performed
      exact ⟨rfl, rfl⟩
  | beginPoll token =>
      obtain ⟨task, current, -, rfl⟩ := beginPoll_eq performed
      exact ⟨rfl, role_rephased _ current rfl⟩
  | pollToken token =>
      simp only [step, pollToken] at performed
      split at performed
      · rename_i task current
        split at performed
        · split at performed
          · cases performed
            exact ⟨rfl, role_rephased _ current rfl⟩
          · cases performed
            exact ⟨rfl, role_rephased { task with phase := .waiting } current rfl⟩
        · cases performed
      · cases performed
  | drop token =>
      obtain ⟨task, inline, current, -, rfl⟩ := drop_eq performed
      exact ⟨rfl, role_rephased { task with phase := .gone } current rfl⟩

theorem pollHandler_role {provider next : Provider (Handling T E)} {token : TokenId}
    {ready : Bool} (performed : provider.pollHandler token ready = some next) :
    next.nextToken = provider.nextToken ∧
      (fun token => (next.tasks token).map Task.role) =
        fun token => (provider.tasks token).map Task.role := by
  unfold pollHandler at performed
  split at performed
  · rename_i task current
    split at performed
    · cases performed
      exact ⟨rfl, role_rephased _ current rfl⟩
    · cases performed
  · cases performed

end Provider

namespace Channel

variable {rkyv : Rkyv T E} {table : Services T E} {channel next : Channel T E}

theorem dispatch_desk {now : UInt64} {frame : Frame} {rest : List Frame}
    {provider : Provider (Handling T E)} (asked : Asked rkyv channel)
    (idle : channel.provider.inline = none) (free : channel.outbox none = none)
    (found : channel.requests.waiting .provider = frame :: rest)
    (routes : channel.provider.Routes rkyv table { now := now, delivered := true } frame
      provider) :
    channel.desk.Moves rkyv table (channel.dispatched frame rest provider).desk := by
  have keepsOutbox : update channel.outbox none none = channel.outbox := by
    rw [← free, update_eq_self]
  have unseen : frame.header.eventKind = .request → channel.desk.Unseen frame := by
    intro isRequest earlier before sameId
    have ordered := asked.requests.ordered
    rw [seen, found, List.pairwise_append] at ordered
    exact ordered.2.2 earlier before frame (List.mem_cons_self ..) sameId isRequest
  cases routes with
  | accepts isRequest answered =>
      have move : channel.desk.Moves rkyv table _ := .hire isRequest (unseen isRequest) answered
      simpa [desk, dispatched, Provider.accept, Provider.register, adopt, keepsOutbox,
        role_update, Task.role] using move
  | rejects isRequest answered encoded =>
      obtain ⟨isCid, isKind⟩ := RpcHeader.stamped_response frame.header .rpcError
        frame.header.serviceVersion now channel.provider.hub.seq
      have move : channel.desk.Moves rkyv table _ :=
        .reject isRequest (unseen isRequest) answered encoded free isCid isKind
      simpa [desk, dispatched, adopt, idle, ResponseHub.since_publish] using move
  | passes oneway cancelled =>
      have move : channel.desk.Moves rkyv table _ := .pass frame
      simpa [desk, dispatched, adopt, idle, keepsOutbox] using move

/-- Every step of a channel is a move of its desk, or does not touch it. -/
theorem step_desk {action : ChannelAction T E} (asked : Asked rkyv channel)
    (performed : channel.step rkyv table action = some next) :
    next.desk = channel.desk ∨ channel.desk.Moves rkyv table next.desk := by
  cases step_steps performed with
  | dispatch idle free found routed =>
      exact Or.inr (dispatch_desk asked idle free found
        (routed ▸ channel.provider.handleRequest_routes _ _))
  | attend isLocal stepped =>
      obtain ⟨sameNext, sameRole⟩ := Provider.step_role isLocal stepped
      exact Or.inl (by simp only [desk, sameNext, sameRole])
  | emit current works empty emitted published =>
      subst published
      rename_i token now task serving sample
      have isRole : channel.desk.role token = some task.role := by simp [desk, current]
      obtain ⟨isCid, isKind⟩ := RpcHeader.stamped_response serving.request sample.kind
        serving.request.serviceVersion now channel.provider.hub.seq
      have move : channel.desk.Moves rkyv table _ :=
        .emit isRole works empty emitted isCid isKind
      exact Or.inr (by simpa [desk, ResponseHub.since_publish] using move)
  | rest works empty silent polled =>
      obtain ⟨sameNext, sameRole⟩ := Provider.pollHandler_role polled
      have move : channel.desk.Moves rkyv table _ := .rest works empty silent
      exact Or.inr (by simpa [desk, sameNext, sameRole] using move)
  | retry attempts current => exact Or.inr (.retry attempts current)
  | deliver current => exact Or.inr (.deliver current)
  | fail current => exact Or.inr (.fail current)
  | joinRequests | leaveRequests | joinResponses | leaveResponses | call | attempt | notify
  | cancel | advance | receive => exact Or.inl rfl

end Channel

end IceRpc
