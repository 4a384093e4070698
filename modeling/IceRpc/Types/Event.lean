/-
Module: IceRpc.Types.Event
Purpose: The event vocabulary of a stream (`ice-rpc-rx/src/event.rs`) and the
  technical errors it may carry (`ice-rpc-rx/src/error.rs`).
Trusted boundary: human-reviewed spec
Main exports: RpcError, ObservableError, Event, Event.isTerminal
-/

namespace IceRpc

/-- Encoded payload of a sample. -/
abbrev Bytes := List UInt8

/-- Technical RPC error. -/
inductive RpcError where
  | serializationError
  | transportError (message : String)
  | timeout
  | cancelled
  | internal (message : String)
  | protocolMismatch (message : String)
  | unknownMethod (method : String)
  | unknownService (id : String)
  | incompatibleVersion (expected actual : UInt16)
deriving Repr, DecidableEq

/-- `RpcError::is_retryable`. -/
def RpcError.isRetryable : RpcError → Bool
  | .transportError _ | .timeout => true
  | _ => false

/-- `transport_error`: a failure of the transport with the operation it hit. -/
def transportError (context err : String) : RpcError :=
  .transportError (context ++ ": " ++ err)

/-- The single error type of the streaming API.  `empty` is a pull-side
artefact and has no representation on the wire. -/
inductive ObservableError (E : Type) where
  | business (error : E)
  | technical (error : RpcError)
  | empty
deriving Repr, DecidableEq

/-- Event of a stream, as consumers observe it. -/
inductive Event (T E : Type) where
  | next (value : T)
  | complete
  | error (error : ObservableError E)
deriving Repr, DecidableEq

namespace Event

variable {T E : Type}

/-- `Event::is_terminal`. -/
def isTerminal : Event T E → Bool
  | .next _ => false
  | .complete | .error _ => true

@[simp] theorem isTerminal_next (value : T) :
    (Event.next value : Event T E).isTerminal = false := rfl

@[simp] theorem isTerminal_complete :
    (Event.complete : Event T E).isTerminal = true := rfl

@[simp] theorem isTerminal_error (error : ObservableError E) :
    (Event.error error : Event T E).isTerminal = true := rfl

end Event

end IceRpc
