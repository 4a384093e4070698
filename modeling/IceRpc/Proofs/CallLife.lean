/-
Module: IceRpc.Proofs.CallLife
Purpose: The life of one call, abstracted from the channel it shares.  `CallView`
  is what a channel holds for one correlation id, `CallView.Moves` the moves of
  that call on its own, and every step of the channel is seen by every call as one
  of its moves or not at all.
Trusted boundary: none
Main exports: CallView, CallView.Moves, ConsumerPorts.view, ConsumerPorts.label,
  ConsumerPorts.step_moves, ConsumerPorts.step_rests, call_invariant
-/
import IceRpc.Transport.Client
import IceRpc.Types.PlainCodec

namespace IceRpc

open Lib (Unended)

variable {T E : Type}
variable {ports next : ConsumerPorts T E} {id : CorrelationId}

/-! ### What a channel holds for one call -/

/-- Handler entry, call, dispatcher work and published samples of one id. -/
structure CallView (T E : Type) where
  handler : Option (Rkyv T E)
  call : Option (Call T E)
  work : Option (Work T E)
  requests : List RpcHeader
  cancels : List RpcHeader

/-- What can happen to one call. -/
inductive CallAction (T E : Type) where
  | call (rkyv : Rkyv T E) (header : RpcHeader) (payload : Bytes)
  | attempt (met : Conditions)
  | giveUp
  | sample (sample : Sample)
  | trySend
  | release
  | recv
  | drop
  | cleanup
  | publishCancel (header : RpcHeader)
  | close

namespace CallView

/-- An id nobody has used yet. -/
def unused : CallView T E :=
  { handler := none, call := none, work := none, requests := [], cancels := [] }

/-- The moves of one call. -/
inductive Moves : CallView T E → CallAction T E → CallView T E → Prop where
  | call {view : CallView T E} (rkyv : Rkyv T E) (header : RpcHeader)
      (payload : Bytes) (fresh : view.call = none) :
      Moves view (.call rkyv header payload)
        { view with
          handler := some rkyv
          call := some (.registered rkyv header payload) }
  | attempt {view : CallView T E} {call : Call T E} {attempts : Nat}
      (met : Conditions) (current : view.call = some call)
      (phase : call.phase = .publishing attempts) :
      Moves view (.attempt met)
        { view with
          call := some { call with
            phase := .ofProgress
              (publishAttempt call.header call.payload attempts met).1 }
          requests := view.requests ++ delivered call.header
            (publishAttempt call.header call.payload attempts met).2 }
  | giveUp {view : CallView T E} {call : Call T E} {err : RpcError}
      (current : view.call = some call) (phase : call.phase = .refused err) :
      Moves view .giveUp
        { view with
          handler := none
          call := some { call with phase := .failed err } }
  | skip {view : CallView T E} (sample : Sample) (noHandler : view.handler = none) :
      Moves view (.sample sample) view
  | take {view : CallView T E} {rkyv : Rkyv T E} (sample : Sample)
      (found : view.handler = some rkyv) (idle : view.work = none) :
      Moves view (.sample sample)
        { view with work := some (.sending (handleSample rkyv sample)) }
  | sendFirst {view : CallView T E} {call : Call T E} {delivery : Delivery T E}
      (working : view.work = some (.sending delivery))
      (current : view.call = some call) (isOpen : call.isOpen = true) :
      Moves view .trySend
        { view with
          call := some { call with queue := call.queue ++ [delivery.event] }
          work := delivery.afterFirst }
  | refuseFirst {view : CallView T E} {delivery : Delivery T E}
      (working : view.work = some (.sending delivery))
      (gone : ∀ call, view.call = some call → call.isOpen = false) :
      Moves view .trySend { view with work := some .releasing }
  | sendFollowUp {view : CallView T E} {call : Call T E} {event : Event T E}
      {terminal : Bool} (working : view.work = some (.sendingFollowUp event terminal))
      (current : view.call = some call) (isOpen : call.isOpen = true) :
      Moves view .trySend
        { view with
          call := some { call with queue := call.queue ++ [event] }
          work := Work.finished terminal }
  | refuseFollowUp {view : CallView T E} {event : Event T E} {terminal : Bool}
      (working : view.work = some (.sendingFollowUp event terminal))
      (gone : ∀ call, view.call = some call → call.isOpen = false) :
      Moves view .trySend { view with work := Work.finished terminal }
  | release {view : CallView T E} (working : view.work = some .releasing) :
      Moves view .release { view with handler := none, work := none }
  | recv {view : CallView T E} {call : Call T E} {event : Event T E}
      {queue : List (Event T E)} (current : view.call = some call)
      (phase : call.phase = .live) (waiting : call.queue = event :: queue) :
      Moves view .recv
        { view with
          call := some
            { call with
              queue := queue
              taken := call.taken ++ [event]
              terminated := call.terminated || event.isTerminal } }
  | drop {view : CallView T E} {call : Call T E} (current : view.call = some call)
      (phase : call.phase = .live) :
      Moves view .drop
        { view with call := some { call with phase := .dropping call.terminated } }
  | cleanup {view : CallView T E} {call : Call T E} {terminated : Bool}
      (current : view.call = some call) (phase : call.phase = .dropping terminated) :
      Moves view .cleanup
        { view with
          handler := none
          call := some { call with
            phase := if !terminated && view.handler.isSome then .cancelling
              else .closing } }
  | publishCancel {view : CallView T E} {call : Call T E} (header : RpcHeader)
      (current : view.call = some call) (phase : call.phase = .cancelling) :
      Moves view (.publishCancel header)
        { view with
          call := some { call with phase := .closing }
          cancels := view.cancels ++ [header] }
  | close {view : CallView T E} {call : Call T E} (current : view.call = some call)
      (phase : call.phase = .closing) :
      Moves view .close { view with call := some { call with phase := .dropped } }

end CallView

/-! ### The channel, seen by one call -/

namespace ConsumerPorts

/-- The dispatcher's work, if it is at a sample of this id. -/
def workFor (ports : ConsumerPorts T E) (cid : CorrelationId) : Option (Work T E) :=
  match ports.dispatcher with
  | some (busy, work) => if busy = cid then some work else none
  | none => none

/-- The samples of a log that carry this id. -/
def ofCall (cid : CorrelationId) (log : List RpcHeader) : List RpcHeader :=
  log.filter fun header => decide (header.correlationId = cid)

/-- What the channel holds for one id. -/
def view (cid : CorrelationId) (ports : ConsumerPorts T E) : CallView T E :=
  { handler := ports.handlers cid
    call := ports.calls cid
    work := ports.workFor cid
    requests := ofCall cid ports.requests
    cancels := ofCall cid ports.cancels }

/-- Every call is stored under the id of its request. -/
def Keyed (ports : ConsumerPorts T E) : Prop :=
  ∀ cid call, ports.calls cid = some call → call.header.correlationId = cid

/-- What a step of the channel is for the call of one id. -/
def label (cid : CorrelationId) (ports : ConsumerPorts T E) :
    ClientAction T E → Option (CallAction T E)
  | .call id rkyv methodId service trace payload now =>
      if id = cid then
        some (.call rkyv (ports.requestHeader id methodId service trace now) payload)
      else none
  | .attempt id met => if id = cid then some (.attempt met) else none
  | .giveUp id => if id = cid then some .giveUp else none
  | .sample header payload =>
      if header.correlationId = cid then some (.sample ⟨header.eventKind, payload⟩)
      else none
  | .trySend => (ports.workFor cid).map fun _ => .trySend
  | .release => (ports.workFor cid).map fun _ => .release
  | .recv id => if id = cid then some .recv else none
  | .drop id => if id = cid then some .drop else none
  | .cleanup id => if id = cid then some .cleanup else none
  | .publishCancel id now =>
      if id = cid then
        (ports.calls id).map fun call => .publishCancel (ports.cancelHeader call now)
      else none
  | .close id => if id = cid then some .close else none

/-! ### One step of the channel -/

/-- What a step at the call of `id` does to the views of all calls. -/
def StepsAt (id : CorrelationId) (action : CallAction T E)
    (ports next : ConsumerPorts T E) : Prop :=
  (ports.view id).Moves action (next.view id) ∧
    ∀ cid, cid ≠ id → next.view cid = ports.view cid

@[simp] theorem ofCall_append (cid : CorrelationId) (log more : List RpcHeader) :
    ofCall cid (log ++ more) = ofCall cid log ++ ofCall cid more :=
  List.filter_append ..

theorem ofCall_self {log : List RpcHeader} {cid : CorrelationId}
    (own : ∀ header ∈ log, header.correlationId = cid) : ofCall cid log = log := by
  apply List.filter_eq_self.mpr
  intro header member
  simp [own header member]

theorem ofCall_other {log : List RpcHeader} {cid : CorrelationId}
    (own : ∀ header ∈ log, header.correlationId = id) (other : cid ≠ id) : ofCall cid log = [] := by
  apply List.filter_eq_nil_iff.mpr
  intro header member
  simp [own header member, other.symm]

theorem delivered_own {header other : RpcHeader} {takers : List Port}
    (member : other ∈ delivered header takers) : other = header := by
  unfold delivered at member
  split at member
  · cases member
  · exact List.mem_singleton.mp member

theorem call_steps {rkyv : Rkyv T E} {methodId : UInt32} {service : ServiceRef}
    {trace : TraceContext} {payload : Bytes} {now : UInt64}
    (performed : ports.call id rkyv methodId service trace payload now = some next) :
    StepsAt id (.call rkyv (ports.requestHeader id methodId service trace now) payload)
      ports next := by
  unfold call at performed
  split at performed
  · cases performed
  · rename_i fresh
    cases performed
    constructor
    · have move : (ports.view id).Moves _ _ := .call rkyv
        (ports.requestHeader id methodId service trace now) payload fresh
      simpa [view, workFor] using move
    · intro cid other
      simp [view, workFor, other]

theorem attempt_steps {met : Conditions} (keyed : ports.Keyed)
    (performed : ports.attempt id met = some next) : StepsAt id (.attempt met) ports next := by
  unfold attempt at performed
  split at performed
  · rename_i call current
    split at performed
    · rename_i attempts phase
      cases performed
      have own : ∀ header ∈ delivered call.header
          (publishAttempt call.header call.payload attempts met).2,
          header.correlationId = id := by
        intro header member
        rw [delivered_own member]
        exact keyed id call current
      constructor
      · have move : (ports.view id).Moves _ _ := .attempt met current phase
        have logged := ofCall_self own
        simpa [view, workFor, setCall, logged] using move
      · intro cid other
        have logged := ofCall_other own other
        simp [view, workFor, setCall, other, logged]
    · cases performed
  · cases performed

theorem stepsAt_setCall {action : CallAction T E} {call : Call T E}
    (move : (ports.view id).Moves action { ports.view id with call := some call }) :
    StepsAt id action ports (ports.setCall id call) := by
  constructor
  · simpa [view, workFor, setCall] using move
  · intro cid other
    simp [view, workFor, setCall, other]

/-- The handler of the call goes as well. -/
theorem stepsAt_released {action : CallAction T E} {call : Call T E}
    (move : (ports.view id).Moves action
      { ports.view id with handler := none, call := some call }) :
    StepsAt id action ports ((ports.releaseHandler id).1.setCall id call) := by
  constructor
  · simpa [view, workFor, setCall, releaseHandler] using move
  · intro cid other
    simp [view, workFor, setCall, releaseHandler, other]

theorem giveUp_steps (performed : ports.giveUp id = some next) : StepsAt id .giveUp ports next := by
  unfold giveUp at performed
  split at performed
  · rename_i call current
    split at performed
    · rename_i err phase
      cases performed
      exact stepsAt_released (.giveUp current phase)
    · cases performed
  · cases performed

theorem sample_steps {header : RpcHeader} {payload : Bytes}
    (performed : ports.sample header payload = some next) :
    StepsAt header.correlationId (.sample ⟨header.eventKind, payload⟩) ports next := by
  unfold sample at performed
  split at performed
  · cases performed
  · rename_i idle
    split at performed
    · rename_i rkyv found
      cases performed
      constructor
      · have noWork : (ports.view header.correlationId).work = none := by
          simp [view, workFor, idle]
        have move : (ports.view header.correlationId).Moves _ _ := .take
          ⟨header.eventKind, payload⟩ found noWork
        simpa [view, workFor] using move
      · intro cid other
        simp [view, workFor, idle, other.symm]
    · rename_i noHandler
      cases performed
      exact ⟨.skip _ noHandler, fun _ _ => rfl⟩

theorem workFor_of_busy {work : Work T E} (busy : ports.dispatcher = some (id, work)) :
    ports.workFor id = some work := by
  simp [workFor, busy]

theorem workFor_of_other {cid : CorrelationId} {work : Work T E}
    (busy : ports.dispatcher = some (id, work)) (other : cid ≠ id) : ports.workFor cid = none := by
  simp [workFor, busy, other.symm]

/-- What `try_send_event` does to the call it is for, and to nothing else. -/
theorem trySendEvent_cases (ports : ConsumerPorts T E) (id : CorrelationId)
    (event : Event T E) :
    (∃ call, ports.calls id = some call ∧ call.isOpen = true ∧
      ports.trySendEvent id event =
        (ports.setCall id { call with queue := call.queue ++ [event] }, true)) ∨
    ((∀ call, ports.calls id = some call → call.isOpen = false) ∧
      ports.trySendEvent id event = (ports, false)) := by
  unfold trySendEvent
  split
  · rename_i call current
    split
    · rename_i isOpen
      exact Or.inl ⟨call, current, isOpen, rfl⟩
    · rename_i gone
      refine Or.inr ⟨?_, rfl⟩
      intro other same
      rw [current] at same
      cases same
      simpa using gone
  · rename_i noCall
    refine Or.inr ⟨?_, rfl⟩
    intro other same
    rw [noCall] at same
    cases same

/-- The handler at work goes on, or is done, and its call changes. -/
theorem stepsAt_sent {action : CallAction T E} {call : Call T E} {work : Work T E}
    {left : Option (Work T E)} (busy : ports.dispatcher = some (id, work))
    (move : (ports.view id).Moves action
      { ports.view id with call := some call, work := left }) :
    StepsAt id action ports
      { ports.setCall id call with dispatcher := left.map (Prod.mk id) } := by
  constructor
  · cases left <;> simpa [view, workFor, setCall] using move
  · intro cid other
    cases left <;> simp [view, workFor, setCall, busy, other, other.symm]

theorem stepsAt_refused {action : CallAction T E} {work : Work T E}
    {left : Option (Work T E)} (busy : ports.dispatcher = some (id, work))
    (move : (ports.view id).Moves action { ports.view id with work := left }) :
    StepsAt id action ports { ports with dispatcher := left.map (Prod.mk id) } := by
  constructor
  · cases left <;> simpa [view, workFor] using move
  · intro cid other
    cases left <;> simp [view, workFor, busy, other.symm]

theorem trySend_steps (performed : ports.trySend = some next) :
    ∃ id work, ports.dispatcher = some (id, work) ∧ StepsAt id .trySend ports next := by
  unfold trySend at performed
  split at performed
  · rename_i id delivery busy
    cases performed
    refine ⟨id, _, busy, ?_⟩
    have working := workFor_of_busy busy
    rcases ports.trySendEvent_cases id delivery.event with
      ⟨call, current, isOpen, sent⟩ | ⟨gone, sent⟩
    · rw [sent]
      exact stepsAt_sent busy (.sendFirst working current isOpen)
    · rw [sent]
      exact stepsAt_refused busy (.refuseFirst working gone)
  · rename_i id event terminal busy
    cases performed
    refine ⟨id, _, busy, ?_⟩
    have working := workFor_of_busy busy
    rcases ports.trySendEvent_cases id event with
      ⟨call, current, isOpen, sent⟩ | ⟨gone, sent⟩
    · rw [sent]
      exact stepsAt_sent busy (.sendFollowUp working current isOpen)
    · rw [sent]
      exact stepsAt_refused busy (.refuseFollowUp working gone)
  · cases performed

theorem release_steps (performed : ports.release = some next) :
    ∃ id work, ports.dispatcher = some (id, work) ∧ StepsAt id .release ports next := by
  unfold release at performed
  split at performed
  · rename_i id busy
    cases performed
    refine ⟨id, _, busy, ?_, ?_⟩
    · have move : (ports.view id).Moves _ _ := .release (workFor_of_busy busy)
      simpa [view, workFor, releaseHandler] using move
    · intro cid other
      simp [view, workFor, releaseHandler, busy, other, other.symm]
  · cases performed

theorem recv_steps (performed : ports.recv id = some next) : StepsAt id .recv ports next := by
  unfold recv at performed
  split at performed
  · rename_i call current
    split at performed
    · rename_i event queue phase waiting
      cases performed
      exact stepsAt_setCall (.recv current phase waiting)
    · cases performed
  · cases performed

theorem drop_steps (performed : ports.drop id = some next) : StepsAt id .drop ports next := by
  unfold drop at performed
  split at performed
  · rename_i call current
    split at performed
    · rename_i phase
      cases performed
      exact stepsAt_setCall (.drop current phase)
    · cases performed
  · cases performed

theorem cleanup_steps (performed : ports.cleanup id = some next) :
    StepsAt id .cleanup ports next := by
  unfold cleanup at performed
  split at performed
  · rename_i call current
    split at performed
    · rename_i terminated phase
      cases performed
      exact stepsAt_released (.cleanup current phase)
    · cases performed
  · cases performed

theorem publishCancel_steps {now : UInt64} (keyed : ports.Keyed)
    (performed : ports.publishCancel id now = some next) :
    ∃ call, ports.calls id = some call ∧
      StepsAt id (.publishCancel (ports.cancelHeader call now)) ports next := by
  unfold publishCancel at performed
  split at performed
  · rename_i call current
    split at performed
    · rename_i phase
      cases performed
      have own : ∀ header ∈ [ports.cancelHeader call now],
          header.correlationId = id := by
        intro header member
        rw [List.mem_singleton.mp member, ← keyed id call current]
        rfl
      refine ⟨call, current, ?_, ?_⟩
      · have move : (ports.view id).Moves _ _ := .publishCancel
          (ports.cancelHeader call now) current phase
        have logged := ofCall_self own
        simpa [view, workFor, setCall, logged] using move
      · intro cid other
        have logged := ofCall_other own other
        simp [view, workFor, setCall, other, logged]
    · cases performed
  · cases performed

theorem close_steps (performed : ports.close id = some next) : StepsAt id .close ports next := by
  unfold close at performed
  split at performed
  · rename_i call current
    split at performed
    · rename_i phase
      cases performed
      exact stepsAt_setCall (.close current phase)
    · cases performed
  · cases performed

/-- Every step of the channel is a move of one call, and no other call sees it. -/
theorem step_at_one_call {action : ClientAction T E} (keyed : ports.Keyed)
    (performed : ports.step action = some next) :
    ∃ id act, StepsAt id act ports next ∧ ports.label id action = some act ∧
      ∀ cid, cid ≠ id → ports.label cid action = none := by
  cases action with
  | call id rkyv methodId service trace payload now =>
      exact ⟨id, _, call_steps performed, by simp [label],
        fun cid other => by simp [label, other.symm]⟩
  | attempt id met =>
      exact ⟨id, _, attempt_steps keyed performed, by simp [label],
        fun cid other => by simp [label, other.symm]⟩
  | giveUp id =>
      exact ⟨id, _, giveUp_steps performed, by simp [label],
        fun cid other => by simp [label, other.symm]⟩
  | sample header payload =>
      exact ⟨_, _, sample_steps performed, by simp [label],
        fun cid other => by simp [label, other.symm]⟩
  | trySend =>
      obtain ⟨id, work, busy, steps⟩ := trySend_steps performed
      exact ⟨id, _, steps, by simp [label, workFor_of_busy busy],
        fun cid other => by simp [label, workFor_of_other busy other]⟩
  | release =>
      obtain ⟨id, work, busy, steps⟩ := release_steps performed
      exact ⟨id, _, steps, by simp [label, workFor_of_busy busy],
        fun cid other => by simp [label, workFor_of_other busy other]⟩
  | recv id =>
      exact ⟨id, _, recv_steps performed, by simp [label],
        fun cid other => by simp [label, other.symm]⟩
  | drop id =>
      exact ⟨id, _, drop_steps performed, by simp [label],
        fun cid other => by simp [label, other.symm]⟩
  | cleanup id =>
      exact ⟨id, _, cleanup_steps performed, by simp [label],
        fun cid other => by simp [label, other.symm]⟩
  | publishCancel id now =>
      obtain ⟨call, current, steps⟩ := publishCancel_steps keyed performed
      exact ⟨id, _, steps, by simp [label, current],
        fun cid other => by simp [label, other.symm]⟩
  | close id =>
      exact ⟨id, _, close_steps performed, by simp [label],
        fun cid other => by simp [label, other.symm]⟩

/-- A step the call takes part in is one of its moves. -/
theorem step_moves {action : ClientAction T E} {cid : CorrelationId} {act : CallAction T E}
    (keyed : ports.Keyed) (performed : ports.step action = some next)
    (own : ports.label cid action = some act) : (ports.view cid).Moves act (next.view cid) := by
  obtain ⟨id, done, steps, labelled, others⟩ := step_at_one_call keyed performed
  by_cases same : cid = id
  · subst same
    rw [own] at labelled
    cases labelled
    exact steps.1
  · rw [others cid same] at own
    cases own

/-- Every other step leaves the call as it is. -/
theorem step_rests {action : ClientAction T E} {cid : CorrelationId} (keyed : ports.Keyed)
    (performed : ports.step action = some next) (notOwn : ports.label cid action = none) :
    next.view cid = ports.view cid := by
  obtain ⟨id, done, steps, labelled, -⟩ := step_at_one_call keyed performed
  apply steps.2 cid
  intro same
  rw [same, labelled] at notOwn
  cases notOwn

/-- A move keeps the header of the call, unless it registers one. -/
theorem moves_header {before after : CallView T E} {act : CallAction T E}
    (move : before.Moves act after) {call : Call T E} (current : after.call = some call) :
    (∃ old, before.call = some old ∧ old.header = call.header) ∨
      ∃ rkyv payload, act = .call rkyv call.header payload := by
  cases move with
  | call rkyv header payload fresh =>
      cases current
      exact Or.inr ⟨rkyv, payload, rfl⟩
  | skip sample noHandler => exact Or.inl ⟨call, current, rfl⟩
  | take sample found idle => exact Or.inl ⟨call, current, rfl⟩
  | refuseFirst working gone => exact Or.inl ⟨call, current, rfl⟩
  | refuseFollowUp working gone => exact Or.inl ⟨call, current, rfl⟩
  | release working => exact Or.inl ⟨call, current, rfl⟩
  | attempt met was phase => cases current; exact Or.inl ⟨_, was, rfl⟩
  | giveUp was phase => cases current; exact Or.inl ⟨_, was, rfl⟩
  | sendFirst working was isOpen => cases current; exact Or.inl ⟨_, was, rfl⟩
  | sendFollowUp working was isOpen => cases current; exact Or.inl ⟨_, was, rfl⟩
  | recv was phase waiting => cases current; exact Or.inl ⟨_, was, rfl⟩
  | drop was phase => cases current; exact Or.inl ⟨_, was, rfl⟩
  | cleanup was phase => cases current; exact Or.inl ⟨_, was, rfl⟩
  | publishCancel header was phase => cases current; exact Or.inl ⟨_, was, rfl⟩
  | close was phase => cases current; exact Or.inl ⟨_, was, rfl⟩

theorem keyed_new : (new : ConsumerPorts T E).Keyed := by
  intro cid call current
  cases current

theorem keyed_step {action : ClientAction T E} (keyed : ports.Keyed)
    (performed : ports.step action = some next) : next.Keyed := by
  obtain ⟨id, act, ⟨move, others⟩, labelled, -⟩ := step_at_one_call keyed performed
  intro cid call current
  by_cases same : cid = id
  · subst same
    rcases moves_header move current with ⟨old, was, header⟩ | ⟨rkyv, payload, isCall⟩
    · rw [← header]
      exact keyed cid old was
    · -- The header of a new call is built with its id.
      subst isCall
      cases action <;> simp [label] at labelled
      obtain ⟨rfl, -, header, -⟩ := labelled
      rw [← header]
      rfl
  · have unchanged := congrArg CallView.call (others cid same)
    exact keyed cid call (unchanged.symm.trans current)

end ConsumerPorts

/-! ### Whole runs, seen by one call -/

/-- What the record of a run keeps about one call. -/
inductive CallMark where
  | registered
  | sample (sample : Sample)
  | dropped

/-- The mark an action leaves on the call of `cid`. -/
def ClientAction.mark (cid : CorrelationId) : ClientAction T E → Option CallMark
  | .call id _ _ _ _ _ _ => if id = cid then some .registered else none
  | .sample header payload =>
      if header.correlationId = cid then some (.sample ⟨header.eventKind, payload⟩)
      else none
  | .drop id => if id = cid then some .dropped else none
  | _ => none

def CallAction.mark : CallAction T E → Option CallMark
  | .call _ _ _ => some .registered
  | .sample received => some (.sample received)
  | .drop => some .dropped
  | _ => none

/-- One mark of the record, for the samples since the registration. -/
def CallMark.record (samples : List Sample) : CallMark → List Sample
  | .registered => []
  | .sample received => samples ++ [received]
  | .dropped => samples

/-- The samples of a record since the call was registered. -/
def sinceRegistered (marks : List CallMark) : List Sample :=
  marks.foldl CallMark.record []

/-- The samples the dispatcher took up for the call of `cid` since it was
registered. -/
def ownSamples (cid : CorrelationId) (actions : List (ClientAction T E)) :
    List Sample :=
  sinceRegistered (actions.filterMap (ClientAction.mark cid))

/-- The channel and the call agree on the record. -/
theorem marks_agree {action : ClientAction T E} (cid : CorrelationId)
    (performed : ports.step action = some next) :
    (ports.label cid action).bind CallAction.mark = action.mark cid := by
  cases action with
  | publishCancel id now =>
      simp only [ConsumerPorts.label, ClientAction.mark]
      split
      · cases ports.calls id <;> rfl
      · rfl
  | trySend => cases busy : ports.workFor cid <;> simp [ConsumerPorts.label,
      ClientAction.mark, busy, CallAction.mark]
  | release => cases busy : ports.workFor cid <;> simp [ConsumerPorts.label,
      ClientAction.mark, busy, CallAction.mark]
  | _ =>
      simp only [ConsumerPorts.label, ClientAction.mark]
      split <;> rfl

/-- Invariant rule for the calls of a channel: what the moves of one call keep,
given the record of that call, holds of every call after every run. -/
theorem call_invariant (cid : CorrelationId) (holds : List CallMark → CallView T E → Prop)
    (preserved : ∀ marks here act there, holds marks here →
      CallView.Moves here act there →
      holds (marks ++ (CallAction.mark act).toList) there) (marks : List CallMark)
    {final : ConsumerPorts T E} {actions : List (ClientAction T E)} (keyed : ports.Keyed)
    (now : holds marks (ports.view cid))
    (performed : Lib.run ConsumerPorts.step ports actions = some final) :
    holds (marks ++ actions.filterMap (ClientAction.mark cid)) (final.view cid) := by
  have result := Lib.run_component_invariant ConsumerPorts.Keyed
    (ConsumerPorts.view cid) (ConsumerPorts.label cid) CallView.Moves
    (fun _ _ _ => ConsumerPorts.keyed_step)
    (fun _ _ _ _ => ConsumerPorts.step_moves)
    (fun _ _ _ => ConsumerPorts.step_rests)
    (fun past here => holds (marks ++ past.filterMap CallAction.mark) here)
    (fun past here act there holdsHere move => by
      have next := preserved _ here act there holdsHere move
      cases mark : act.mark <;> simpa [mark] using next)
    [] keyed (by simpa using now) performed
  rw [List.nil_append, Lib.filterMap_labels (ConsumerPorts.label cid)
    (ClientAction.mark cid) CallAction.mark
    (fun _ _ _ stepped => marks_agree cid stepped) performed] at result
  exact result

/-! ### A channel with one listening provider -/

/-- A provider is connected and its buffer is empty. -/
def providerListening : Conditions :=
  { shutdown := false
    counted := [{ port := .provider, capacity := 1, buffer := [] }]
    loanError := none
    sendError := none
    topic := [{ port := .provider, capacity := 1, buffer := [] }]
    takes := Subscriber.hasRoom
    expired := false
    terminating := false }

/-- Nobody is connected and the deadline has passed. -/
def nobodyListening : Conditions :=
  { shutdown := false, counted := [], loanError := none, sendError := none,
    topic := [], takes := Subscriber.hasRoom, expired := true, terminating := false }

/-- A correlation id made of one byte. -/
def idOf (byte : UInt8) : CorrelationId := Vector.replicate 16 byte

/-- A call of a byte service, without a trace. -/
def plainCall (cid : CorrelationId) : ClientAction UInt8 UInt8 :=
  .call cid plainCodec 1 { id := 2, version := 3 }
    { traceId := Vector.replicate 16 0, parentSpanId := 0, flags := 0 } [] 0

/-- A response sample for the call of `cid`. -/
def responseTo (cid : CorrelationId) (kind : EventKind) (payload : Bytes) :
    ClientAction UInt8 UInt8 :=
  .sample (RpcHeader.responseFrom (RpcHeader.request cid 1 2 3 0) kind 3 0) payload

end IceRpc
