/-
Module: IceRpc.Proofs.InFlight
Purpose: The provider's in-flight registry.  Under distinct correlation ids an entry
  is in the registry exactly while the wrapped task of its call is alive; a Cancel
  fires one token and changes nothing else; and a cancelled call is not polled
  again.
Trusted boundary: none
Main exports: Provider.handleRequest_cases, Provider.step_cases,
  Provider.Registered, in_flight_registry
-/
import IceRpc.Lib.Run
import IceRpc.Lib.Table
import IceRpc.Transport.Server
import IceRpc.Types.PlainCodec

namespace IceRpc

open Function (update update_of_ne update_self)

variable {T E F : Type}
variable {provider next : Provider F} {token : TokenId}

namespace Provider

/-! ### What one step can do -/

/-- The request reaches a handler whose caller awaits a response. -/
def Accepts (table : UInt32 → Option (ServiceDispatcher F)) (header : RpcHeader) :
    Prop :=
  header.eventKind = .request ∧
    ∃ dispatcher entry, table header.serviceId = some dispatcher ∧
      RequestRejection.classify dispatcher header = none ∧
      dispatcher.handlers header.methodId = some entry ∧ entry.oneway = false

/-- What the routing of a sample can do: accept a call, fire a token, or leave the
calls as they are. -/
theorem handleRequest_cases (rkyv : Rkyv T E)
    (table : UInt32 → Option (ServiceDispatcher F)) (provider : Provider F)
    (outcome : PublishOutcome) (header : RpcHeader) (payload : Bytes) :
    (Accepts table header ∧ ∃ body,
      provider.handleRequest rkyv table outcome header payload =
        provider.accept header.correlationId body) ∨
    (header.eventKind = .cancel ∧
      provider.handleRequest rkyv table outcome header payload =
        (provider.cancel header.correlationId).1) ∨
    (header.eventKind ≠ .cancel ∧ ∃ hub oneway,
      provider.handleRequest rkyv table outcome header payload =
        { provider with hub := hub, oneway := oneway }) := by
  cases kind : header.eventKind with
  | request =>
      simp only [handleRequest, kind]
      cases found : table header.serviceId with
      | none => exact Or.inr (Or.inr ⟨by simp, _, provider.oneway, rfl⟩)
      | some dispatcher =>
          simp only
          cases rejected : RequestRejection.classify dispatcher header with
          | some rejection => exact Or.inr (Or.inr ⟨by simp, _, provider.oneway, rfl⟩)
          | none =>
              simp only [ServiceDispatcher.dispatch]
              cases handler : dispatcher.handlers header.methodId with
              | none => exact Or.inr (Or.inr ⟨by simp, _, provider.oneway, rfl⟩)
              | some entry =>
                  simp only [Option.map_some]
                  cases oneway : entry.oneway with
                  | false =>
                      refine Or.inl ⟨⟨kind, dispatcher, entry, found, rejected, handler,
                        oneway⟩, entry.handler header payload, ?_⟩
                      rfl
                  | true => exact Or.inr (Or.inr ⟨by simp, provider.hub, _, rfl⟩)
  | cancel => exact Or.inr (Or.inl ⟨rfl, by simp [handleRequest, kind]⟩)
  | next =>
      exact Or.inr (Or.inr ⟨by simp, provider.hub, provider.oneway,
        by simp [handleRequest, kind]⟩)
  | complete =>
      exact Or.inr (Or.inr ⟨by simp, provider.hub, provider.oneway,
        by simp [handleRequest, kind]⟩)
  | error =>
      exact Or.inr (Or.inr ⟨by simp, provider.hub, provider.oneway,
        by simp [handleRequest, kind]⟩)
  | rpcError =>
      exact Or.inr (Or.inr ⟨by simp, provider.hub, provider.oneway,
        by simp [handleRequest, kind]⟩)

/-- A task goes on: it keeps its id and stays alive. -/
def Advances (provider next : Provider F) : Prop :=
  ∃ token task changed inline, provider.tasks token = some task ∧
    changed.cid = task.cid ∧ task.alive = true ∧ changed.alive = true ∧
    next = { provider.setTask token changed with inline := inline }

theorem beginPoll_eq (performed : provider.beginPoll token = some next) :
    ∃ task, provider.tasks token = some task ∧ task.phase = .waiting ∧
      next = provider.setTask token
        { task with
          phase := if provider.cancelled token then .finished else .polling } := by
  unfold beginPoll at performed
  split at performed
  · rename_i task current
    split at performed
    · rename_i phase
      cases performed
      exact ⟨task, current, phase, rfl⟩
    · cases performed
  · cases performed

theorem beginPoll_advances (performed : provider.beginPoll token = some next) :
    provider.Advances next := by
  obtain ⟨task, current, phase, rfl⟩ := beginPoll_eq performed
  refine ⟨token, task, _, provider.inline, current, ?_, ?_, ?_, rfl⟩
  · rfl
  · simp [Task.alive, phase]
  · simp only [Task.alive]
    split_ifs <;> simp

theorem pollHandler_advances {ready : Bool}
    (performed : provider.pollHandler token ready = some next) : provider.Advances next := by
  unfold pollHandler at performed
  split at performed
  · rename_i task current
    split at performed
    · rename_i phase
      cases performed
      refine ⟨token, task, _, provider.inline, current, ?_, ?_, ?_, rfl⟩
      · rfl
      · simp [Task.alive, phase]
      · cases ready <;> simp [Task.alive]
    · cases performed
  · cases performed

theorem pollToken_advances (performed : provider.pollToken token = some next) :
    provider.Advances next := by
  unfold pollToken at performed
  split at performed
  · rename_i task current
    split at performed
    · rename_i phase
      split at performed
      · cases performed
        refine ⟨token, task, _, provider.inline, current, ?_, ?_, ?_, rfl⟩
        · rfl
        · simp [Task.alive, phase]
        · simp [Task.alive]
      · cases performed
        refine ⟨token, task, { task with phase := .waiting }, _, current, ?_, ?_, ?_, rfl⟩
        · rfl
        · simp [Task.alive, phase]
        · simp [Task.alive]
    · cases performed
  · cases performed

theorem drop_eq (performed : provider.drop token = some next) :
    ∃ task inline, provider.tasks token = some task ∧ task.alive = true ∧
      next = { (provider.unregister task.cid).setTask token
        { task with phase := .gone } with inline := inline } := by
  unfold drop at performed
  split at performed
  · rename_i task current
    split at performed
    · rename_i may
      cases performed
      refine ⟨task, _, current, ?_, rfl⟩
      rcases may with finished | ⟨waiting, -⟩
      · simp [Task.alive, finished]
      · simp [Task.alive, waiting]
    · cases performed
  · cases performed

theorem detach_eq (performed : provider.detach = some next) :
    ∃ inline, next = { provider with inline := inline } := by
  unfold detach at performed
  split at performed
  · split at performed
    · split at performed
      · cases performed
        exact ⟨_, rfl⟩
      · cases performed
    · cases performed
  · cases performed

/-- A Cancel touches nothing but the flags. -/
theorem cancel_frame (provider : Provider F) (cid : CorrelationId) :
    (provider.cancel cid).1 =
      { provider with cancelled := (provider.cancel cid).1.cancelled } := by
  unfold cancel
  split
  · rfl
  · rfl

/-! ### The registry and the tasks -/

/-- The registry and the living tasks agree.  `cids` are the ids of the requests
handled so far. -/
structure Registered (cids : List CorrelationId) (provider : Provider F) : Prop where
  fresh : ∀ token task, provider.tasks token = some task →
    token < provider.nextToken
  seen : ∀ token task, provider.tasks token = some task → task.cid ∈ cids
  entry : ∀ cid token, provider.inFlight cid = some token →
    ∃ task, provider.tasks token = some task ∧ task.alive = true ∧ task.cid = cid
  listed : ∀ token task, provider.tasks token = some task → task.alive = true →
    provider.inFlight task.cid = some token

namespace Registered

variable {cids : List CorrelationId}

/-- A step that touches neither the registry nor the tasks, whatever was handled. -/
theorem of_same (inv : Registered cids provider) (more : List CorrelationId)
    (sameTasks : next.tasks = provider.tasks)
    (sameInFlight : next.inFlight = provider.inFlight)
    (sameNext : next.nextToken = provider.nextToken) :
    Registered (cids ++ more) next := by
  constructor
  · rw [sameTasks, sameNext]
    exact inv.fresh
  · intro token task current
    rw [sameTasks] at current
    exact List.mem_append_left more (inv.seen token task current)
  · rw [sameTasks, sameInFlight]
    exact inv.entry
  · rw [sameTasks, sameInFlight]
    exact inv.listed

theorem advance (inv : Registered cids provider) (advances : provider.Advances next) :
    Registered cids next := by
  obtain ⟨token, task, changed, inline, current, sameCid, alive, stillAlive, rfl⟩ :=
    advances
  constructor
  · intro other found isFound
    rcases Lib.update_some_cases isFound with ⟨rfl, -⟩ | ⟨-, before⟩
    · exact inv.fresh other task current
    · exact inv.fresh other found before
  · intro other found isFound
    rcases Lib.update_some_cases isFound with ⟨rfl, rfl⟩ | ⟨-, before⟩
    · rw [sameCid]
      exact inv.seen other task current
    · exact inv.seen other found before
  · intro cid other isEntry
    obtain ⟨found, isFound, foundAlive, isCid⟩ := inv.entry cid other isEntry
    rcases eq_or_ne other token with rfl | different
    · cases current.symm.trans isFound
      exact ⟨changed, update_self .., stillAlive, sameCid.trans isCid⟩
    · refine ⟨found, ?_, foundAlive, isCid⟩
      exact (update_of_ne different ..).trans isFound
  · intro other found isFound foundAlive
    rcases Lib.update_some_cases isFound with ⟨rfl, rfl⟩ | ⟨-, before⟩
    · rw [sameCid]
      exact inv.listed other task current alive
    · exact inv.listed other found before foundAlive

/-- A new call: its id was never seen, so no entry is overwritten. -/
theorem accept (inv : Registered cids provider) {cid : CorrelationId}
    (unseen : cid ∉ cids) (body : F) :
    Registered (cids ++ [cid]) (provider.accept cid body) := by
  constructor
  · intro token task isFound
    rcases Lib.update_some_cases isFound with ⟨rfl, -⟩ | ⟨-, before⟩
    · exact Nat.lt_succ_self _
    · exact Nat.lt_succ_of_lt (inv.fresh token task before)
  · intro token task isFound
    rcases Lib.update_some_cases isFound with ⟨-, rfl⟩ | ⟨-, before⟩
    · exact List.mem_append_right cids (List.mem_singleton.mpr rfl)
    · exact List.mem_append_left [cid] (inv.seen token task before)
  · intro other token isEntry
    rcases Lib.update_some_cases isEntry with ⟨rfl, rfl⟩ | ⟨-, before⟩
    · exact ⟨_, update_self .., by simp [Task.alive], rfl⟩
    · obtain ⟨task, current, alive, isCid⟩ := inv.entry other token before
      -- The new token was never handed out.
      have used : token ≠ provider.nextToken :=
        Nat.ne_of_lt (inv.fresh token task current)
      exact ⟨task, (update_of_ne used ..).trans current, alive, isCid⟩
  · intro token task isFound alive
    rcases Lib.update_some_cases isFound with ⟨rfl, rfl⟩ | ⟨-, before⟩
    · exact update_self ..
    · have otherCid : task.cid ≠ cid := by
        intro isCid
        exact unseen (isCid ▸ inv.seen token task before)
      exact (update_of_ne otherCid ..).trans (inv.listed token task before alive)

/-- The drop of a task releases its own entry and no other. -/
theorem drop (inv : Registered cids provider) {task : Task F} {inline : Option TokenId}
    (current : provider.tasks token = some task) (alive : task.alive = true) :
    Registered cids { (provider.unregister task.cid).setTask token
      { task with phase := .gone } with inline := inline } := by
  constructor
  · intro other found isFound
    rcases Lib.update_some_cases isFound with ⟨rfl, -⟩ | ⟨-, before⟩
    · exact inv.fresh other task current
    · exact inv.fresh other found before
  · intro other found isFound
    rcases Lib.update_some_cases isFound with ⟨rfl, rfl⟩ | ⟨-, before⟩
    · exact inv.seen other task current
    · exact inv.seen other found before
  · intro cid other isEntry
    obtain ⟨different, before⟩ := Lib.update_none_cases isEntry
    obtain ⟨found, isFound, foundAlive, isCid⟩ := inv.entry cid other before
    have otherToken : other ≠ token := by
      intro sameToken
      subst sameToken
      cases current.symm.trans isFound
      exact different isCid.symm
    exact ⟨found, (update_of_ne otherToken ..).trans isFound, foundAlive, isCid⟩
  · intro other found isFound foundAlive
    rcases Lib.update_some_cases isFound with ⟨-, rfl⟩ | ⟨different, before⟩
    · simp [Task.alive] at foundAlive
    · have otherEntry := inv.listed other found before foundAlive
      have otherCid : found.cid ≠ task.cid := by
        intro sameCid
        have ownEntry := inv.listed token task current alive
        rw [← sameCid, otherEntry] at ownEntry
        exact different (Option.some.inj ownEntry)
      exact (update_of_ne otherCid ..).trans otherEntry

end Registered

end Provider

/-! ### Whole runs -/

/-- The correlation id of a handled request. -/
def ProviderAction.requestCid : ProviderAction → Option CorrelationId
  | .sample header _ _ =>
      if header.eventKind = .request then some header.correlationId else none
  | _ => none

namespace Provider

/-- Every step keeps the agreement, as long as no request repeats an id. -/
theorem registered_step {rkyv : Rkyv T E} {table : UInt32 → Option (ServiceDispatcher F)}
    {cids : List CorrelationId} {action : ProviderAction} (inv : Registered cids provider)
    (distinct : (cids ++ action.requestCid.toList).Nodup)
    (performed : provider.step rkyv table action = some next) :
    Registered (cids ++ action.requestCid.toList) next := by
  cases action with
  | sample header payload outcome =>
      simp only [step] at performed
      split at performed
      · cases performed
      · cases performed
        rcases provider.handleRequest_cases rkyv table outcome header payload with
          ⟨accepts, body, handled⟩ | ⟨isCancel, handled⟩ | ⟨-, hub, oneway, handled⟩
        · rw [handled]
          simp only [ProviderAction.requestCid, accepts.1, if_true,
            Option.toList_some] at distinct ⊢
          apply inv.accept
          intro seen
          exact (List.nodup_append.mp distinct).2.2 _ seen _
            (List.mem_singleton.mpr rfl) rfl
        · rw [handled, cancel_frame]
          exact inv.of_same _ rfl rfl rfl
        · rw [handled]
          exact inv.of_same _ rfl rfl rfl
  | detach =>
      obtain ⟨inline, rfl⟩ := detach_eq performed
      exact inv.of_same _ rfl rfl rfl
  | beginPoll token =>
      simpa [ProviderAction.requestCid] using inv.advance (beginPoll_advances performed)
  | pollHandler token ready =>
      simpa [ProviderAction.requestCid] using
        inv.advance (pollHandler_advances performed)
  | pollToken token =>
      simpa [ProviderAction.requestCid] using inv.advance (pollToken_advances performed)
  | drop token =>
      obtain ⟨task, inline, current, alive, rfl⟩ := drop_eq performed
      simpa [ProviderAction.requestCid] using inv.drop current alive

/-- The registry and the living tasks agree after every run with distinct ids. -/
theorem registered_run {rkyv : Rkyv T E}
    {table : UInt32 → Option (ServiceDispatcher F)} {actions : List ProviderAction}
    {final : Provider F}
    (performed : Lib.run (step rkyv table) new actions = some final)
    (distinct : (actions.filterMap ProviderAction.requestCid).Nodup) :
    Registered (actions.filterMap ProviderAction.requestCid) final := by
  have start : Registered [] (new : Provider F) := by
    constructor
    · intro token task current
      cases current
    · intro token task current
      cases current
    · intro cid token isEntry
      cases isEntry
    · intro token task current
      cases current
  apply Lib.run_history_invariant
    (fun past provider => (past.filterMap ProviderAction.requestCid).Nodup →
      Registered (past.filterMap ProviderAction.requestCid) provider)
    (fun _ => start) _ performed distinct
  intro past provider action next inv stepped distinctNow
  have split : (past ++ [action]).filterMap ProviderAction.requestCid =
      past.filterMap ProviderAction.requestCid ++ action.requestCid.toList := by
    rw [List.filterMap_append]
    cases isRequest : action.requestCid <;> simp [isRequest]
  rw [split] at distinctNow ⊢
  exact registered_step (inv (List.nodup_append.mp distinctNow).1) distinctNow stepped

/-- A Cancel for a call in flight sets one flag and changes nothing else. -/
theorem step_cancel {rkyv : Rkyv T E} {table : UInt32 → Option (ServiceDispatcher F)}
    {header : RpcHeader} {payload : Bytes} {outcome : PublishOutcome}
    (isCancel : header.eventKind = .cancel)
    (performed : provider.step rkyv table (.sample header payload outcome) = some next) :
    (∀ token, provider.inFlight header.correlationId = some token →
      next = { provider with
        cancelled := update provider.cancelled token true }) ∧
    (provider.inFlight header.correlationId = none → next = provider) := by
  simp only [step] at performed
  split at performed
  · cases performed
  · cases performed
    simp only [handleRequest, isCancel, cancel]
    constructor
    · intro token inFlight
      rw [inFlight]
    · intro unknown
      rw [unknown]

/-- Only an accepted call whose caller awaits a response enters the registry. -/
theorem step_request_registers {rkyv : Rkyv T E} {table : UInt32 → Option (ServiceDispatcher F)}
    {header : RpcHeader} {payload : Bytes} {outcome : PublishOutcome}
    (performed : provider.step rkyv table (.sample header payload outcome) = some next)
    (entered : next.inFlight ≠ provider.inFlight) : Accepts table header := by
  simp only [step] at performed
  split at performed
  · cases performed
  · cases performed
    rcases provider.handleRequest_cases rkyv table outcome header payload with
      ⟨accepts, -⟩ | ⟨-, handled⟩ | ⟨-, hub, oneway, handled⟩
    · exact accepts
    · rw [handled, cancel_frame] at entered
      exact absurd rfl entered
    · rw [handled] at entered
      exact absurd rfl entered

/-- A poll that begins on a cancelled token is over: the handler is not polled, and
nothing is left to do but the drop. -/
theorem step_poll_cancelled {rkyv : Rkyv T E} {table : UInt32 → Option (ServiceDispatcher F)}
    (fired : provider.cancelled token = true)
    (performed : provider.step rkyv table (.beginPoll token) = some next) :
    ∃ task, provider.tasks token = some task ∧
      next.tasks token = some { task with phase := .finished } ∧
      ∀ ready, next.step rkyv table (.pollHandler token ready) = none := by
  obtain ⟨task, current, -, rfl⟩ := beginPoll_eq performed
  refine ⟨task, current, ?_, ?_⟩
  · simp [setTask, fired]
  · intro ready
    simp [step, pollHandler, setTask, fired]

end Provider

/-- The in-flight registry of a provider, in every state of every run whose requests
have distinct correlation ids: an entry names the living task of its call, a Cancel
fires the token of the call it names and changes nothing else, only accepted calls
that are answered enter the registry, and a poll that begins on a cancelled token
ends without polling the handler. -/
theorem in_flight_registry (rkyv : Rkyv T E)
    (table : UInt32 → Option (ServiceDispatcher F)) (actions : List ProviderAction)
    (provider : Provider F)
    (performed : Lib.run (Provider.step rkyv table) .new actions = some provider)
    (distinct : (actions.filterMap ProviderAction.requestCid).Nodup) :
    (∀ cid token, provider.inFlight cid = some token ↔
      ∃ task, provider.tasks token = some task ∧ task.alive = true ∧
        task.cid = cid) ∧
    (∀ header payload outcome next, header.eventKind = .cancel →
      provider.step rkyv table (.sample header payload outcome) = some next →
      (∀ token, provider.inFlight header.correlationId = some token →
        next = { provider with
          cancelled := update provider.cancelled token true }) ∧
      (provider.inFlight header.correlationId = none → next = provider)) ∧
    (∀ header payload outcome next,
      provider.step rkyv table (.sample header payload outcome) = some next →
      next.inFlight ≠ provider.inFlight → Provider.Accepts table header) ∧
    (∀ token next, provider.cancelled token = true →
      provider.step rkyv table (.beginPoll token) = some next →
      ∃ task, provider.tasks token = some task ∧
        next.tasks token = some { task with phase := .finished } ∧
        ∀ ready, next.step rkyv table (.pollHandler token ready) = none) := by
  have inv := Provider.registered_run performed distinct
  refine ⟨?_, ?_, ?_, ?_⟩
  · intro cid token
    constructor
    · intro isEntry
      exact inv.entry cid token isEntry
    · rintro ⟨task, current, alive, rfl⟩
      exact inv.listed token task current alive
  · intro header payload outcome next isCancel stepped
    exact Provider.step_cancel isCancel stepped
  · intro header payload outcome next stepped entered
    exact Provider.step_request_registers stepped entered
  · intro token next fired stepped
    exact Provider.step_poll_cancelled fired stepped

/-- A service with one answering method and one one-way method. -/
def echoTable : UInt32 → Option (ServiceDispatcher Unit) := fun id =>
  if id = 2 then
    some (((ServiceDispatcher.new { id := 2, version := 3 }).method 1
      fun _ _ => ()).onewayMethod 4 fun _ _ => ())
  else
    none

/-- A sample of the request channel for the call of `byte`. -/
def requestSample (byte : UInt8) (methodId : UInt32) : ProviderAction :=
  .sample (RpcHeader.request (Vector.replicate 16 byte) methodId 2 3 0) []
    { now := 0, delivered := true }

def cancelSample (byte : UInt8) : ProviderAction :=
  .sample (RpcHeader.cancelFrom (RpcHeader.request (Vector.replicate 16 byte) 1 2 3 0) 0)
    [] { now := 0, delivered := true }

/-- Two calls and a one-way call; the first call is cancelled while the second
finishes, so only the first is still in flight. -/
theorem in_flight_registry_two_calls :
    ∃ provider, Lib.run (Provider.step plainCodec echoTable) .new
        [requestSample 1 1, .beginPoll 0, .pollHandler 0 false, .pollToken 0,
          requestSample 9 4, cancelSample 1, cancelSample 7, requestSample 2 1,
          .beginPoll 1, .pollHandler 1 true, .drop 1] = some provider ∧
      provider.cancelled 0 = true ∧
      provider.inFlight (Vector.replicate 16 1) = some 0 ∧
      ∀ token, provider.inFlight (Vector.replicate 16 2) ≠ some token := by
  obtain ⟨entries, -⟩ := in_flight_registry plainCodec echoTable
    [requestSample 1 1, .beginPoll 0, .pollHandler 0 false, .pollToken 0,
      requestSample 9 4, cancelSample 1, cancelSample 7, requestSample 2 1,
      .beginPoll 1, .pollHandler 1 true, .drop 1] _ rfl (by decide)
  refine ⟨_, rfl, rfl, (entries _ _).mpr ⟨_, rfl, rfl, rfl⟩, ?_⟩
  intro token isEntry
  cases isEntry

end IceRpc
