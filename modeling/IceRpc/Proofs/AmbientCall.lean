/-
Module: IceRpc.Proofs.AmbientCall
Purpose: The two thread-local slots carry a lexical notion: running code sees the
  context of the innermost call it is part of and the token of its task.  The worker
  with its slots is compared with one that has none and hands the innermost call down
  instead; from there traces are followed over chains of calls.
Trusted boundary: none
Main exports: Entry, Serving, Serving.serve, Serving.step, exec_toThread, Continues,
  Hop, ambient_call_follows_task
-/
import IceRpc.Lib.Run
import IceRpc.Types.Context

namespace IceRpc

open Lib

/-! ### Serving without slots -/

/-- Something seen of running code, with the task that was polled and the innermost
call the code is part of. -/
structure Entry where
  task : HandlerTask
  owner : CallContext
  seen : Seen
deriving Repr, DecidableEq

/-- What a worker does to calls, without its slots. -/
structure Serving where
  taken : Taken
  locals : Nat → Option CallContext
  entries : List Entry
  tasks : List HandlerTask
  cancelled : TokenId → Bool

namespace Serving

/-- Nothing is served yet. -/
def new : Serving :=
  { taken := { correlationIds := 0, spanIds := 0 }
    locals := fun _ => none
    entries := []
    tasks := []
    cancelled := fun _ => false }

/-- Something is seen of the code of `owner`. -/
def record (serving : Serving) (task : HandlerTask) (owner : CallContext)
    (seen : Seen) : Serving :=
  { serving with entries := serving.entries ++ [{ task, owner, seen }] }

/-- The context of an in-process call made by `owner`. -/
def localContext (mint : Mint) (task : HandlerTask) (owner : CallContext)
    (serving : Serving) (call : LocalCall) : CallContext × Serving :=
  match serving.locals call.id with
  | some context => (context, serving)
  | none =>
      let (context, taken) := CallContext.localCall mint serving.taken (some owner)
        call.service call.serviceName call.method
      (context, { serving.record task owner (.called context) with
        taken := taken
        locals := fun id => if id = call.id then some context else serving.locals id })

/-- Run the code of one poll of `task`: it is part of `owner`, and the body of an
in-process call is part of that call. -/
def serve (mint : Mint) (task : HandlerTask) (token : Option TokenId) :
    Code → CallContext → Serving → Serving
  | .done, _, serving => serving
  | .observe rest, owner, serving =>
      serve mint task token (rest (some owner) token) owner
        (serving.record task owner (.observed (some owner) token))
  | .emit outgoing rest, owner, serving =>
      let sent := outgoing.header mint serving.taken (some owner)
      serve mint task token (rest sent.1) owner
        { serving.record task owner (.emitted sent.1) with taken := sent.2 }
  | .pollLocal call body rest, owner, serving =>
      let known := serving.localContext mint task owner call
      serve mint task token rest owner (serve mint task token body known.1 known.2)

/-- The token that the code of a task sees: that of the task, else the one that was
there. -/
def tokenOf (ambient : Option TokenId) (task : HandlerTask) : Option TokenId :=
  task.token <|> ambient

/-- One step of the worker, on a thread whose token slot holds `ambient`. -/
def step (mint : Mint) (ambient : Option TokenId) (serving : Serving) :
    WorkerAction → Option Serving
  | .accept header serviceName method token =>
      let made := CallContext.new mint serving.taken header serviceName method
      some { serving with
        taken := made.2
        tasks := serving.tasks ++ [{ context := made.1, token := token }] }
  | .cancel token =>
      some { serving with
        cancelled := fun other => if other = token then true else serving.cancelled other }
  | .poll task code =>
      match serving.tasks[task]? with
      | none => none
      | some polled =>
          if polled.token.any serving.cancelled then
            some serving
          else
            some (serve mint polled (tokenOf ambient polled) code polled.context serving)

/-- The thread of a worker with these slots. -/
def toThread (slots : Slots) (serving : Serving) : Thread :=
  { slots := slots
    taken := serving.taken
    locals := serving.locals
    seen := serving.entries.map Entry.seen }

/-- The worker with these slots. -/
def toWorker (slots : Slots) (serving : Serving) : Worker :=
  { thread := serving.toThread slots
    tasks := serving.tasks
    cancelled := serving.cancelled }

/-! ### The slots carry what is handed down -/

theorem record_toThread (slots : Slots) (serving : Serving) (task : HandlerTask)
    (owner : CallContext) (seen : Seen) :
    (serving.record task owner seen).toThread slots =
      { serving.toThread slots with seen := (serving.toThread slots).seen ++ [seen] } := by
  simp [record, toThread]

theorem localContext_toThread (mint : Mint) (task : HandlerTask) (owner : CallContext)
    (token : Option TokenId) (serving : Serving) (call : LocalCall) :
    (serving.toThread { current := some owner, currentCancel := token }).localContext
        mint call =
      ((serving.localContext mint task owner call).1,
        (serving.localContext mint task owner call).2.toThread
          { current := some owner, currentCancel := token }) := by
  unfold Thread.localContext localContext
  cases known : serving.locals call.id with
  | some context => simp [toThread, known]
  | none => simp [toThread, record, known]

/-- With the innermost call in the slots, code does what it does when the innermost
call is handed down, and leaves the slots as they were. -/
theorem exec_toThread (mint : Mint) (task : HandlerTask) (token : Option TokenId)
    (code : Code) (owner : CallContext) (serving : Serving) :
    Thread.exec mint code
        (serving.toThread { current := some owner, currentCancel := token }) =
      (serve mint task token code owner serving).toThread
        { current := some owner, currentCancel := token } := by
  induction code generalizing owner serving with
  | done => rfl
  | observe rest ih =>
      rw [Thread.exec, serve, ← ih, record_toThread]
      rfl
  | emit outgoing rest ih =>
      rw [Thread.exec, serve, ← ih]
      simp [toThread, record]
  | pollLocal call body rest bodyIh restIh =>
      rw [Thread.exec, serve, localContext_toThread mint task]
      -- the body runs with the callee in the slot, the rest with the caller back in it
      have inside := bodyIh (serving.localContext mint task owner call).1
        (serving.localContext mint task owner call).2
      simp only [CallContext.enterAmbient, toThread] at inside ⊢
      rw [inside]
      exact restIh owner _

theorem scopedPoll_toThread (mint : Mint) (task : HandlerTask) (slots : Slots)
    (code : Code) (serving : Serving) :
    task.context.scopedPoll mint code (serving.toThread slots) =
      (serve mint task slots.currentCancel code task.context serving).toThread slots := by
  have inside := exec_toThread mint task slots.currentCancel code task.context serving
  simp only [CallContext.scopedPoll, CallContext.enterAmbient, toThread] at inside ⊢
  rw [inside]
  rfl

/-- A poll of a task leaves the slots as they were, and its code sees its token. -/
theorem poll_toThread (mint : Mint) (slots : Slots) (task : HandlerTask) (code : Code)
    (serving : Serving) :
    task.poll mint serving.cancelled code (serving.toThread slots) =
      (if task.token.any serving.cancelled then serving
        else serve mint task (tokenOf slots.currentCancel task) code task.context
          serving).toThread slots := by
  cases held : task.token with
  | none =>
      simp only [HandlerTask.poll, held, Option.any_none, tokenOf]
      exact scopedPoll_toThread mint task slots code serving
  | some token =>
      simp only [HandlerTask.poll, held, Option.any_some, tokenOf]
      split
      · rfl
      · have inside := scopedPoll_toThread mint task
          (installCallCancellation token slots).2 code serving
        simp only [installCallCancellation, toThread] at inside ⊢
        rw [inside]
        rfl

theorem localContext_frame (mint : Mint) (task : HandlerTask) (owner : CallContext)
    (serving : Serving) (call : LocalCall) :
    (serving.localContext mint task owner call).2.tasks = serving.tasks ∧
      (serving.localContext mint task owner call).2.cancelled = serving.cancelled := by
  unfold localContext
  cases serving.locals call.id <;> exact ⟨rfl, rfl⟩

/-- Code neither adds tasks nor cancels tokens. -/
theorem serve_frame (mint : Mint) (task : HandlerTask) (token : Option TokenId)
    (code : Code) (owner : CallContext) (serving : Serving) :
    (serve mint task token code owner serving).tasks = serving.tasks ∧
      (serve mint task token code owner serving).cancelled = serving.cancelled := by
  induction code generalizing owner serving with
  | done => exact ⟨rfl, rfl⟩
  | observe rest ih => exact ih _ _ owner _
  | emit outgoing rest ih => exact ih _ owner _
  | pollLocal call body rest bodyIh restIh =>
      rw [serve]
      have known := localContext_frame mint task owner serving call
      have inside := bodyIh (serving.localContext mint task owner call).1
        (serving.localContext mint task owner call).2
      have after := restIh owner (serve mint task token body
        (serving.localContext mint task owner call).1
        (serving.localContext mint task owner call).2)
      exact ⟨after.1.trans (inside.1.trans known.1), after.2.trans (inside.2.trans known.2)⟩

theorem step_toWorker (mint : Mint) (slots : Slots) (serving : Serving)
    (action : WorkerAction) :
    (serving.toWorker slots).step mint action =
      (serving.step mint slots.currentCancel action).map (toWorker slots) := by
  cases action with
  | accept header serviceName method token => rfl
  | cancel token => rfl
  | poll task code =>
      simp only [Worker.step, step, toWorker]
      cases serving.tasks[task]? with
      | none => rfl
      | some polled =>
          simp only [poll_toThread]
          split
          · rfl
          · have frame := serve_frame mint polled (tokenOf slots.currentCancel polled) code
              polled.context serving
            simp only [Option.map_some, toWorker, frame.1, frame.2]

/-- The worker with its slots runs as the one without. -/
theorem run_toWorker (mint : Mint) (slots : Slots) (actions : List WorkerAction) :
    run (Worker.step mint) (Worker.new slots) actions =
      (run (step mint slots.currentCancel) new actions).map (toWorker slots) :=
  run_map (toWorker slots) (step_toWorker mint slots) new actions

end Serving

/-! ### Traces -/

/-- The trace stays in the trace of the call, if it has one, and names the span of the
call as its parent. -/
def Continues (owner : CallContext) (trace : TraceContext) : Prop :=
  owner.trace.isPresent = true →
    trace.traceId = owner.trace.traceId ∧ trace.flags = owner.trace.flags ∧
      trace.parentSpanId = owner.spanId

theorem childTrace_continues (mint : Mint) (taken : Taken) (owner : CallContext) :
    Continues owner (owner.childTrace mint taken).1 := by
  intro present
  rw [CallContext.childTrace, TraceContext.continuedOrRoot, if_pos present]
  exact ⟨rfl, rfl, rfl⟩

/-- A request emitted by a call carries the child trace of the call. -/
theorem header_continues (mint : Mint) (taken : Taken) (owner : CallContext)
    (outgoing : Outgoing) :
    Continues owner (outgoing.header mint taken (some owner)).1.trace :=
  childTrace_continues mint taken owner

/-- So does the context of an in-process call. -/
theorem localCall_continues (mint : Mint) (taken : Taken) (owner : CallContext)
    (service : ServiceRef) (serviceName method : String) :
    Continues owner
      (CallContext.localCall mint taken (some owner) service serviceName method).1.trace :=
  childTrace_continues mint (nextCorrelationId mint taken).2 owner

/-- What is seen of the code of a call is as the call should have it. -/
def Entry.Right (entry : Entry) : Prop :=
  match entry.seen with
  | .observed context token =>
      context = some entry.owner ∧
        ∀ own, entry.task.token = some own → token = some own
  | .emitted header => Continues entry.owner header.trace
  | .called context => Continues entry.owner context.trace

namespace Serving

/-- Everything seen so far is as it should be. -/
def AllRight (serving : Serving) : Prop :=
  ∀ entry ∈ serving.entries, entry.Right

theorem AllRight.record {serving : Serving} (right : serving.AllRight)
    {task : HandlerTask} {owner : CallContext} {seen : Seen}
    (added : ({ task, owner, seen } : Entry).Right) :
    (serving.record task owner seen).AllRight := by
  intro entry listed
  rcases List.mem_append.mp listed with before | now
  · exact right entry before
  · rw [List.mem_singleton.mp now]
    exact added

theorem AllRight.localContext {serving : Serving} (right : serving.AllRight)
    (mint : Mint) (task : HandlerTask) (owner : CallContext) (call : LocalCall) :
    (serving.localContext mint task owner call).2.AllRight := by
  unfold Serving.localContext
  cases serving.locals call.id with
  | some context => exact right
  | none => exact right.record (localCall_continues mint _ owner _ _ _)

theorem AllRight.serve {mint : Mint} {task : HandlerTask} {token : Option TokenId}
    (own : ∀ held, task.token = some held → token = some held) (code : Code)
    (owner : CallContext) {serving : Serving} (right : serving.AllRight) :
    (Serving.serve mint task token code owner serving).AllRight := by
  induction code generalizing owner serving with
  | done => exact right
  | observe rest ih =>
      apply ih
      exact right.record ⟨rfl, own⟩
  | emit outgoing rest ih =>
      apply ih
      exact right.record (header_continues mint _ owner outgoing)
  | pollLocal call body rest bodyIh restIh =>
      apply restIh
      apply bodyIh
      exact right.localContext mint task owner call

theorem tokenOf_own {ambient : Option TokenId} {task : HandlerTask} (held : TokenId)
    (own : task.token = some held) : tokenOf ambient task = some held := by
  rw [tokenOf, own]
  rfl

theorem AllRight.step {mint : Mint} {ambient : Option TokenId} {serving next : Serving}
    {action : WorkerAction} (right : serving.AllRight)
    (performed : serving.step mint ambient action = some next) : next.AllRight := by
  cases action with
  | accept header serviceName method token =>
      cases performed
      exact right
  | cancel token =>
      cases performed
      exact right
  | poll task code =>
      simp only [Serving.step] at performed
      cases found : serving.tasks[task]? with
      | none =>
          rw [found] at performed
          cases performed
      | some polled =>
          rw [found] at performed
          simp only at performed
          split at performed
          · cases performed
            exact right
          · cases performed
            exact right.serve tokenOf_own code polled.context

theorem allRight_run {mint : Mint} {ambient : Option TokenId} {final : Serving}
    {actions : List WorkerAction}
    (performed : run (Serving.step mint ambient) new actions = some final) :
    final.AllRight := by
  apply run_invariant AllRight _ (fun _ _ _ right moved => right.step moved) performed
  intro entry listed
  cases listed

end Serving

/-! ### Chains of calls -/

/-- The entry is seen in some run of some worker. -/
def Recorded (entry : Entry) : Prop :=
  ∃ (mint : Mint) (ambient : Option TokenId) (actions : List WorkerAction)
    (final : Serving),
    run (Serving.step mint ambient) Serving.new actions = some final ∧
      entry ∈ final.entries

/-- The second call is made while the first is served: over the wire, to a handler of
whatever process, or in the same process. -/
inductive Hop : CallContext → CallContext → Prop
  | remote {entry : Entry} {header : RpcHeader} (recorded : Recorded entry)
      (emitted : entry.seen = .emitted header) (mint : Mint) (taken : Taken)
      (serviceName method : String) :
      Hop entry.owner (CallContext.new mint taken header serviceName method).1
  | inProcess {entry : Entry} {context : CallContext} (recorded : Recorded entry)
      (called : entry.seen = .called context) : Hop entry.owner context

theorem Recorded.right {entry : Entry} (recorded : Recorded entry) : entry.Right := by
  obtain ⟨_, _, _, final, performed, listed⟩ := recorded
  exact Serving.allRight_run performed entry listed

/-- One hop continues the trace. -/
theorem Hop.continues {first second : CallContext} (hop : Hop first second) :
    Continues first second.trace := by
  cases hop with
  | remote recorded emitted mint taken serviceName method =>
      have right := recorded.right
      rw [Entry.Right, emitted] at right
      exact right
  | inProcess recorded called =>
      have right := recorded.right
      rw [Entry.Right, called] at right
      exact right

theorem isPresent_of_traceId {first second : TraceContext}
    (same : second.traceId = first.traceId) (present : first.isPresent = true) :
    second.isPresent = true := by
  rw [TraceContext.isPresent, same]
  exact present

/-- Along a chain of hops from a traced call the trace stays and every call parents on
the one before. -/
theorem chain_continues {first : CallContext} {later : List CallContext}
    (chain : List.IsChain Hop (first :: later)) (traced : first.trace.isPresent = true) :
    List.IsChain (fun caller callee => callee.trace.parentSpanId = caller.spanId)
        (first :: later) ∧
      ∀ context ∈ later, context.trace.traceId = first.trace.traceId ∧
        context.trace.flags = first.trace.flags := by
  induction later generalizing first with
  | nil => exact ⟨.singleton first, nofun⟩
  | cons second later ih =>
      obtain ⟨hop, rest⟩ := List.isChain_cons_cons.mp chain
      obtain ⟨traceId, flags, parent⟩ := hop.continues traced
      obtain ⟨parents, same⟩ := ih rest (isPresent_of_traceId traceId traced)
      refine ⟨List.isChain_cons_cons.mpr ⟨parent, parents⟩, ?_⟩
      intro context listed
      rcases List.mem_cons.mp listed with rfl | further
      · exact ⟨traceId, flags⟩
      · have there := same context further
        exact ⟨there.1.trans traceId, there.2.trans flags⟩

/-! ### Every run of a worker -/

/-- In every run of a worker: the slots hold in every state what they held at first,
what is seen is what is seen when the innermost call is handed down, where code
observes that call and the token of its task and its calls continue that call's trace;
and along chains of hops the trace stays. -/
theorem ambient_call_follows_task :
    (∀ (mint : Mint) (slots : Slots) (actions : List WorkerAction) (final : Worker),
      run (Worker.step mint) (Worker.new slots) actions = some final →
      final.thread.slots = slots ∧
      ∃ serving, run (Serving.step mint slots.currentCancel) Serving.new actions =
          some serving ∧
        final.thread.seen = serving.entries.map Entry.seen ∧
        ∀ entry ∈ serving.entries, entry.Right) ∧
    (∀ (first : CallContext) (later : List CallContext),
      List.IsChain Hop (first :: later) → first.trace.isPresent = true →
      List.IsChain (fun caller callee => callee.trace.parentSpanId = caller.spanId)
          (first :: later) ∧
        ∀ context ∈ later, context.trace.traceId = first.trace.traceId ∧
          context.trace.flags = first.trace.flags) := by
  refine ⟨?_, fun first later chain traced => chain_continues chain traced⟩
  intro mint slots actions final performed
  rw [Serving.run_toWorker, Option.map_eq_some_iff] at performed
  obtain ⟨serving, served, rfl⟩ := performed
  exact ⟨rfl, serving, served, rfl, Serving.allRight_run served⟩

/-- Counters that nobody else takes from. -/
def quietMint : Mint :=
  { pid := 7, correlationCounter := UInt64.ofNat, spanCounter := UInt64.ofNat }

/-- A traced, sampled request. -/
def tracedRequest : RpcHeader :=
  (RpcHeader.request (Vector.replicate 16 1) 3 4 1 0).withTrace
    { traceId := Vector.replicate 16 9, parentSpanId := 2, flags := 1 }

/-- The call that serves it. -/
def tracedCall : CallContext :=
  (CallContext.new quietMint { correlationIds := 0, spanIds := 0 } tracedRequest
    "Db" "get").1

/-- The in-process call made while serving it. -/
def innerCall : CallContext :=
  (CallContext.localCall quietMint { correlationIds := 0, spanIds := 1 }
    (some tracedCall) { id := 8, version := 1 } "Log" "write").1

/-- The handler looks around before, within and after an in-process call. -/
def nestedRun : List WorkerAction :=
  [.accept tracedRequest "Db" "get" (some 5),
    .poll 0 (.observe fun _ _ =>
      .pollLocal { id := 0, service := { id := 8, version := 1 }, serviceName := "Log",
                   method := "write" }
        (.observe fun _ _ => .done) (.observe fun _ _ => .done))]

/-- A traced call and an in-process call within it, on a thread with empty slots. -/
theorem ambient_call_follows_task_nested :
    (∃ final, run (Worker.step quietMint)
        (Worker.new { current := none, currentCancel := none }) nestedRun = some final ∧
      final.thread.seen =
        [.observed (some tracedCall) (some 5), .called innerCall,
          .observed (some innerCall) (some 5), .observed (some tracedCall) (some 5)] ∧
      final.thread.slots = { current := none, currentCancel := none }) ∧
    innerCall.trace.traceId = Vector.replicate 16 9 := by
  constructor
  · exact ⟨_, rfl, rfl, (ambient_call_follows_task.1 quietMint _ nestedRun _ rfl).1⟩
  · have recorded : Recorded
        { task := { context := tracedCall, token := some 5 }, owner := tracedCall,
          seen := .called innerCall } := by
      refine ⟨quietMint, none, nestedRun, _, rfl, ?_⟩
      exact List.mem_cons_of_mem _ (List.mem_cons_self ..)
    have hop : Hop tracedCall innerCall := .inProcess recorded rfl
    have chain : List.IsChain Hop [tracedCall, innerCall] :=
      List.isChain_cons_cons.mpr ⟨hop, .singleton innerCall⟩
    exact ((ambient_call_follows_task.2 tracedCall [innerCall] chain (by decide)).2
      innerCall (List.mem_singleton_self _)).1

end IceRpc
