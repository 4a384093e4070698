/-
Module: IceRpc.Locator
Purpose: The service locator (`ice-rpc/src/locator.rs`): the order in which registered
  services are initialized, the initialization itself, and concurrent lookups of a service
  at the granularity of the locator's lock sections.
Trusted boundary: human-reviewed spec; the `init` of a service acts on a world of its own
Main exports: topologicalOrder, Registered, initializeAll, Locator, Locator.step
-/
import Mathlib.Logic.Function.Basic

namespace IceRpc

/-! ### The order of initialization -/

/-- What one round of the loop of `topological_order` has built so far; `done` lists the
members of its set. -/
structure Pass where
  order : List Nat
  done : List String
  nextRemaining : List Nat
  progressed : Bool
deriving Repr, DecidableEq

section Order

variable (names : List String) (deps : List (List String))

/-- A dependency that is done, or not registered, does not hold a service back. -/
def isReady (done : List String) (index : Nat) : Bool :=
  (deps.getD index []).all fun dep => done.contains dep || !names.contains dep

/-- One service of the inner loop. -/
def Pass.visit (pass : Pass) (index : Nat) : Pass :=
  if isReady names deps pass.done index then
    { pass with
      order := pass.order ++ [index]
      done := names.getD index "" :: pass.done
      progressed := true }
  else
    { pass with nextRemaining := pass.nextRemaining ++ [index] }

/-- The inner loop over the services that remain. -/
def runPass (order : List Nat) (done : List String) (remaining : List Nat) : Pass :=
  remaining.foldl (Pass.visit names deps)
    { order := order, done := done, nextRemaining := [], progressed := false }

/-- The inner loop drops or keeps each service. -/
theorem foldl_visit_length (remaining : List Nat) (pass : Pass) :
    (remaining.foldl (Pass.visit names deps) pass).nextRemaining.length ≤
        pass.nextRemaining.length + remaining.length ∧
      ((remaining.foldl (Pass.visit names deps) pass).progressed = true →
        pass.progressed = true ∨
          (remaining.foldl (Pass.visit names deps) pass).nextRemaining.length <
            pass.nextRemaining.length + remaining.length) := by
  induction remaining generalizing pass with
  | nil => exact ⟨Nat.le_refl _, fun progressed => Or.inl progressed⟩
  | cons index later ih =>
      have visited : (pass.visit names deps index).nextRemaining.length ≤
          pass.nextRemaining.length + 1 ∧
          ((pass.visit names deps index).progressed = true → pass.progressed = true ∨
            (pass.visit names deps index).nextRemaining.length = pass.nextRemaining.length) := by
        rw [Pass.visit]
        split
        · exact ⟨Nat.le_succ _, fun _ => Or.inr rfl⟩
        · simp
      obtain ⟨atMost, fewer⟩ := ih (pass.visit names deps index)
      rw [List.foldl_cons, List.length_cons]
      refine ⟨by omega, ?_⟩
      intro progressed
      rcases fewer progressed with now | later_
      · rcases visited.2 now with before | same
        · exact Or.inl before
        · exact Or.inr (by omega)
      · exact Or.inr (by omega)

theorem runPass_length {order : List Nat} {done : List String} {remaining : List Nat}
    (progressed : (runPass names deps order done remaining).progressed = true) :
    (runPass names deps order done remaining).nextRemaining.length < remaining.length := by
  rcases (foldl_visit_length names deps remaining _).2 progressed with before | fewer
  · cases before
  · rw [List.length_nil, Nat.zero_add] at fewer
    exact fewer

/-- The loop of `topological_order`.  A round without progress appends what remains, which
ends the loop. -/
def orderFrom (order : List Nat) (done : List String) (remaining : List Nat) : List Nat :=
  if remaining.isEmpty then order
  else
    let pass := runPass names deps order done remaining
    if _progressed : pass.progressed = true then
      orderFrom pass.order pass.done pass.nextRemaining
    else
      pass.order ++ pass.nextRemaining
termination_by remaining.length
decreasing_by exact runPass_length names deps _progressed

/-- `topological_order`. -/
def topologicalOrder : List Nat :=
  orderFrom names deps [] [] (List.range names.length)

end Order

/-! ### Initialization -/

section Initialization

variable {W : Type}

/-- What `initialize_all` takes of an entry: its name, its `init` and its dependencies. -/
structure Registered (W : Type) where
  name : String
  init : W → Bool × W
  dependencies : List String

/-- The loop of `initialize_all`; the indices are those of the snapshot. -/
def initInOrder (snapshot : List (Registered W)) : List Nat → W → Except String Unit × W
  | [], world => (.ok (), world)
  | index :: later, world =>
      match snapshot[index]? with
      | none => initInOrder snapshot later world
      | some entry =>
          match entry.init world with
          | (true, world) => initInOrder snapshot later world
          | (false, world) =>
              (.error ("service '" ++ entry.name ++ "' failed to initialize"), world)

/-- `initialize_all`, on a snapshot of the entries in the order the map iterates them. -/
def initializeAll (startRegisteredChannels : W → W) (snapshot : List (Registered W))
    (world : W) : Except String Unit × W :=
  let order := topologicalOrder (snapshot.map Registered.name)
    (snapshot.map Registered.dependencies)
  match initInOrder snapshot order world with
  | (.ok (), world) => (.ok (), startRegisteredChannels world)
  | failed => failed

end Initialization

/-! ### Concurrent lookups -/

/-- A type that implements `ServiceConsumer`: its `SERVICE_NAME` and what makes it this type. -/
structure ServiceType where
  name : String
  typeId : Nat
deriving Repr, DecidableEq

/-- An `Arc<dyn Any>`: the type of its value, and which allocation it is. -/
structure Instance where
  typeId : Nat
  address : Nat
deriving Repr, DecidableEq

/-- `downcast::<T>().ok()`. -/
def Instance.downcast (found : Instance) (service : ServiceType) : Option Instance :=
  if found.typeId = service.typeId then some found else none

/-- Where a call of `get` or `get_blocking` is, between its lock sections. -/
inductive GetPhase where
  | started
  | unregistered
  | missed
  | built (proxy : Instance)
  | returned (answer : Option Instance)
deriving Repr, DecidableEq

/-- One call, of `get` or of its blocking twin. -/
structure GetCall where
  blocking : Bool
  service : ServiceType
  phase : GetPhase
deriving Repr, DecidableEq

/-- The `ServiceLocator`, the calls in progress, and the next free address. -/
structure Locator where
  entries : String → Option Instance
  lazyCache : String → Option Instance
  calls : List GetCall
  nextAddress : Nat

/-- The sections of the calls, in any interleaving. -/
inductive LocatorAction where
  | register (service : ServiceType)
  | call (blocking : Bool) (service : ServiceType)
  | readEntries (index : Nat)
  | readCache (index : Nat)
  | consumeProxy (index : Nat)
  | writeCache (index : Nat)
deriving Repr, DecidableEq

namespace Locator

/-- A fresh locator. -/
def new : Locator where
  entries _ := none
  lazyCache _ := none
  calls := []
  nextAddress := 0

/-- The call goes on to another phase. -/
def setPhase (locator : Locator) (index : Nat) (call : GetCall) (phase : GetPhase) : Locator :=
  { locator with calls := locator.calls.set index { call with phase := phase } }

/-- One section: `register` under the write lock of the entries, the three sections of `get`
and `get_blocking`, and the building of a proxy between them. -/
def step (locator : Locator) : LocatorAction → Option Locator
  | .register service =>
      some { locator with
        entries := Function.update locator.entries service.name
          (some { typeId := service.typeId, address := locator.nextAddress })
        nextAddress := locator.nextAddress + 1 }
  | .call blocking service =>
      some { locator with
        calls := locator.calls ++
          [{ blocking := blocking, service := service, phase := .started }] }
  | .readEntries index => do
      let call ← locator.calls[index]?
      match call.phase with
      | .started =>
          match locator.entries call.service.name with
          | some found =>
              some (locator.setPhase index call (.returned (found.downcast call.service)))
          | none => some (locator.setPhase index call .unregistered)
      | _ => none
  | .readCache index => do
      let call ← locator.calls[index]?
      match call.phase with
      | .unregistered =>
          match locator.lazyCache call.service.name with
          | some found =>
              some (locator.setPhase index call (.returned (found.downcast call.service)))
          | none => some (locator.setPhase index call .missed)
      | _ => none
  | .consumeProxy index => do
      let call ← locator.calls[index]?
      match call.phase with
      | .missed =>
          let proxy : Instance :=
            { typeId := call.service.typeId, address := locator.nextAddress }
          some { locator.setPhase index call (.built proxy) with
            nextAddress := locator.nextAddress + 1 }
      | _ => none
  | .writeCache index => do
      let call ← locator.calls[index]?
      match call.phase with
      | .built proxy =>
          -- `entry(name).or_insert_with(..)`, and then the call's own proxy
          some { locator.setPhase index call (.returned (some proxy)) with
            lazyCache := Function.update locator.lazyCache call.service.name
              (some ((locator.lazyCache call.service.name).getD proxy)) }
      | _ => none

end Locator

end IceRpc
