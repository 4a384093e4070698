/-
Module: IceRpc.Proofs.MethodNames
Purpose: The methods of a service are routed by the hash of their names.  A method
  registered later takes the place of an earlier one of the same id without a word,
  so every name reaches its own handler exactly when the ids are distinct.
Trusted boundary: none
Main exports: MethodSpec, registerMethods, registerMethods_handlers,
  method_reaches_handler_iff
-/
import Mathlib.Data.List.Induction
import Mathlib.Data.List.Nodup
import IceRpc.Lib.Table
import IceRpc.Transport.Bridge

namespace IceRpc

open Lib

variable {F : Type}

/-- A method of a service: its name, and whether a call of it expects no answer. -/
structure MethodSpec where
  name : String
  oneway : Bool
deriving Repr, DecidableEq

/-- The id a method has on the wire. -/
def MethodSpec.id (method : MethodSpec) : UInt32 := methodIdOf method.name

/-- The registration the generated code makes for one method: through `method` or
`oneway_method`, under the hash of its name. -/
def ServiceDispatcher.addMethod (handler : String → RpcHeader → Bytes → F)
    (dispatcher : ServiceDispatcher F) (method : MethodSpec) : ServiceDispatcher F :=
  if method.oneway then
    dispatcher.onewayMethod (methodIdOf method.name) (handler method.name)
  else
    dispatcher.method (methodIdOf method.name) (handler method.name)

/-- The dispatcher of a service with its methods registered in the given order. -/
def registerMethods (service : ServiceRef) (handler : String → RpcHeader → Bytes → F)
    (methods : List MethodSpec) : ServiceDispatcher F :=
  methods.foldl (ServiceDispatcher.addMethod handler) (.new service)

/-- One registration, read off the table. -/
theorem ServiceDispatcher.addMethod_handlers (handler : String → RpcHeader → Bytes → F)
    (dispatcher : ServiceDispatcher F) (method : MethodSpec) (id : UInt32) :
    (dispatcher.addMethod handler method).handlers id =
      if id = method.id then some ⟨handler method.name, method.oneway⟩
      else dispatcher.handlers id := by
  obtain ⟨name, _ | _⟩ := method <;> rfl

/-- An id leads to the last method registered under it. -/
theorem registerMethods_handlers (service : ServiceRef)
    (handler : String → RpcHeader → Bytes → F) (methods : List MethodSpec)
    (id : UInt32) :
    (registerMethods service handler methods).handlers id =
      (methods.reverse.find? fun method => method.id = id).map fun method =>
        ⟨handler method.name, method.oneway⟩ := by
  induction methods using List.reverseRecOn with
  | nil => rfl
  | append_singleton methods method ih =>
      rw [registerMethods, List.foldl_append, List.foldl_cons, List.foldl_nil,
        ServiceDispatcher.addMethod_handlers, ← registerMethods, ih,
        List.reverse_append, List.reverse_singleton, List.singleton_append,
        List.find?_cons]
      rcases eq_or_ne id method.id with rfl | different
      · simp
      · rw [if_neg different]
        simp [different.symm]

/-- Whatever the handlers are, dispatching the id of each name runs the handler of
that name, with its one-way flag. -/
def ReachOwnHandlers (methods : List MethodSpec) : Prop :=
  ∀ (F : Type) (service : ServiceRef) (handler : String → RpcHeader → Bytes → F),
    ∀ method ∈ methods, ∀ header payload,
      (registerMethods service handler methods).dispatch (methodIdOf method.name) header
          payload =
        some { task := handler method.name header payload
               expectsResponse := !method.oneway }

/-- For every set of methods with distinct names, registered in any order: every name
reaches its own handler exactly when no two of the names have the same hash. -/
theorem method_reaches_handler_iff (methods : List MethodSpec)
    (distinct : (methods.map (·.name)).Nodup) :
    ReachOwnHandlers methods ↔ (methods.map MethodSpec.id).Nodup := by
  constructor
  · intro reach
    -- handlers that answer their own name tell two methods apart
    have named : ∀ method ∈ methods,
        (methods.reverse.find? fun other => other.id = method.id).map (·.name) =
          some method.name := by
      intro method member
      have reached := reach String ⟨0, 0⟩ (fun name _ _ => name) method member
        (RpcHeader.request (Vector.replicate 16 0) 0 0 0 0) []
      rw [ServiceDispatcher.dispatch, registerMethods_handlers, Option.map_map] at reached
      have tasks := congrArg (Option.map DispatchedRequest.task) reached
      rw [Option.map_map] at tasks
      exact tasks
    apply List.Nodup.map_on _ (List.Nodup.of_map _ distinct)
    intro first isFirst second isSecond same
    have firstNamed := named first isFirst
    rw [same, named second isSecond] at firstNamed
    exact (List.inj_on_of_nodup_map distinct isSecond isFirst
      (Option.some.inj firstNamed)).symm
  · intro ids F service handler method member header payload
    have alone := filter_key_of_nodup ids member
    rw [ServiceDispatcher.dispatch, registerMethods_handlers, ← List.head?_filter,
      List.filter_reverse]
    change Option.map _ (Option.map _ (List.head? (List.reverse
      (methods.filter fun other => other.id = method.id)))) = _
    rw [alone]
    rfl

theorem method_reaches_handler_three :
    ([⟨"get_user_age", false⟩, ⟨"set_user_age", false⟩, ⟨"log_event", true⟩].map
        MethodSpec.name).Nodup ∧
      ReachOwnHandlers
        [⟨"get_user_age", false⟩, ⟨"set_user_age", false⟩, ⟨"log_event", true⟩] :=
  ⟨by decide, (method_reaches_handler_iff _ (by decide)).mpr (by decide)⟩

/-- Two different names with one hash: the method registered second has replaced the
first. -/
theorem method_replaced_by_collision :
    ([⟨"costarring", false⟩, ⟨"liquid", false⟩].map MethodSpec.name).Nodup ∧
      ¬ ReachOwnHandlers [⟨"costarring", false⟩, ⟨"liquid", false⟩] := by
  refine ⟨by decide, ?_⟩
  intro reach
  have reached := reach String ⟨0, 0⟩ (fun name _ _ => name) ⟨"costarring", false⟩
    (by simp) (RpcHeader.request (Vector.replicate 16 0) 0 0 0 0) []
  have task := congrArg (Option.map DispatchedRequest.task) reached
  revert task
  decide

end IceRpc
