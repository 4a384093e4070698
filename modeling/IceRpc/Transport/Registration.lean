/-
Module: IceRpc.Transport.Registration
Purpose: The deferred start of the channels a process provides
  (`ice-rpc/src/transport/server.rs`): the registry, the sealed flag, the two entry
  points as they run alone, and their interleaving at the granularity of the flag
  accesses and of the locked registry accesses.
Trusted boundary: human-reviewed spec; the thread of a channel is its service table
Main exports: RegisteredChannelService, ProvidedChannel, Providing,
  Providing.registerNativeService, Providing.startRegisteredChannels, Registering,
  RegisteringAction, Registering.step
-/
import Mathlib.Logic.Function.Basic
import IceRpc.Transport.Server

namespace IceRpc

variable {F : Type}

/-! ### Channels and their services -/

/-- One service given to a channel.  `call` names the registration that brought it;
the source keeps only the name and the dispatcher. -/
structure RegisteredChannelService (F : Type) where
  call : Nat
  name : String
  dispatcher : ServiceDispatcher F

/-- A channel with the services given to it: a `PendingChannel` while it waits in the
registry, the arguments of `spawn_native_service` once it has its thread. -/
structure ProvidedChannel (F : Type) where
  channel : String
  services : List (RegisteredChannelService F)

/-- `conflicting_name`: the name already registered under `id`, if any. -/
def conflictingName (entries : List (RegisteredChannelService F)) (id : UInt32) :
    Option String :=
  (entries.find? fun service => service.dispatcher.service.id = id).map (·.name)

/-- The text of a refused registration. -/
def collisionMessage (channel serviceName previous : String) (serviceId : UInt32) :
    String :=
  "service_id collision on channel '" ++ channel ++ "': '" ++ serviceName ++
    "' and '" ++ previous ++ "' both map to " ++ hexId serviceId

/-- The locked access of `register_native_service`: find or create the entry of the
channel, refuse a conflicting id, else push the service.  The registry is a map, kept
as a list with one entry for each channel. -/
def joinRegistry (channel : String) (service : RegisteredChannelService F) :
    List (ProvidedChannel F) → Except RpcError (List (ProvidedChannel F))
  | [] => .ok [{ channel := channel, services := [service] }]
  | pending :: registry =>
      if pending.channel = channel then
        match conflictingName pending.services service.dispatcher.service.id with
        | some previous =>
            .error (.transportError (collisionMessage channel service.name previous
              service.dispatcher.service.id))
        | none =>
            .ok ({ pending with services := pending.services ++ [service] } :: registry)
      else
        (joinRegistry channel service registry).map (pending :: ·)

/-- The table of a channel thread, collected from its services: the last service of
an id is the one that stays. -/
def ProvidedChannel.table (provided : ProvidedChannel F) (id : UInt32) :
    Option (ServiceDispatcher F) :=
  (provided.services.reverse.find? fun service =>
    service.dispatcher.service.id = id).map (·.dispatcher)

/-! ### The two entry points, each running alone -/

/-- What the registrations of a process share: `CHANNELS_SEALED`, the registry, and
the channel threads started so far. -/
structure Providing (F : Type) where
  channelsSealed : Bool
  registry : List (ProvidedChannel F)
  threads : List (ProvidedChannel F)

namespace Providing

/-- A process that has registered nothing yet. -/
def new : Providing F := { channelsSealed := false, registry := [], threads := [] }

/-- `spawn_native_service`: one more thread subscribed to the channel. -/
def spawnNativeService (providing : Providing F) (provided : ProvidedChannel F) :
    Providing F :=
  { providing with threads := providing.threads ++ [provided] }

/-- `register_native_service`. -/
def registerNativeService (providing : Providing F) (channel : String)
    (service : RegisteredChannelService F) : Except RpcError Unit × Providing F :=
  if providing.channelsSealed then
    (.ok (), providing.spawnNativeService { channel := channel, services := [service] })
  else
    match joinRegistry channel service providing.registry with
    | .ok registry => (.ok (), { providing with registry := registry })
    | .error refusal => (.error refusal, providing)

/-- `start_registered_channels`. -/
def startRegisteredChannels (providing : Providing F) : Providing F :=
  if providing.channelsSealed then
    providing
  else
    { channelsSealed := true
      registry := []
      threads := providing.threads ++ providing.registry }

/-- The threads subscribed to a channel: each of them receives every sample of it. -/
def threadsOf (providing : Providing F) (channel : String) : List (ProvidedChannel F) :=
  providing.threads.filter (·.channel = channel)

end Providing

/-! ### The entry points interleaved -/

/-- Where a call of `register_native_service` stands. -/
inductive RegisterPhase where
  /-- The sealed flag is loaded next. -/
  | loading
  /-- The flag was set: the call starts a thread of its own next. -/
  | spawning
  /-- The flag was unset: the locked registry access is next. -/
  | joining
  /-- The call returned. -/
  | returned (result : Except RpcError Unit)

/-- A call of `register_native_service`: its arguments and where it stands. -/
structure RegisterCall (F : Type) where
  channel : String
  service : RegisteredChannelService F
  phase : RegisterPhase

/-- Where a call of `start_registered_channels` stands. -/
inductive StartPhase (F : Type) where
  /-- The sealed flag is swapped next. -/
  | swapping
  /-- The flag was unset before: the registry is drained next. -/
  | draining
  /-- The drained channels that have no thread yet. -/
  | starting (left : List (ProvidedChannel F))
  /-- Returned, every drained channel started. -/
  | started
  /-- Returned at once: the flag was set already. -/
  | skipped

/-- A process in which registrations and starts run concurrently.  A start is named
by its position, a registration by its number. -/
structure Registering (F : Type) where
  shared : Providing F
  calls : Nat → Option (RegisterCall F)
  starts : List (StartPhase F)

/-- One atomic step of one of the calls. -/
inductive RegisteringAction (F : Type) where
  | register (call : Nat) (channel name : String) (dispatcher : ServiceDispatcher F)
  | load (call : Nat)
  | spawn (call : Nat)
  | join (call : Nat)
  | start
  | swap (start : Nat)
  | drain (start : Nat)
  /-- The start spawns the thread of one of the channels left, in the order the map
  was drained. -/
  | startChannel (start : Nat) (index : Nat)
  | finish (start : Nat)

namespace Registering

/-- No call was made yet. -/
def new : Registering F := { shared := .new, calls := fun _ => none, starts := [] }

variable (registering : Registering F)

def setCall (id : Nat) (call : RegisterCall F) : Registering F :=
  { registering with calls := Function.update registering.calls id (some call) }

def setStart (id : Nat) (phase : StartPhase F) : Registering F :=
  { registering with starts := registering.starts.set id phase }

/-- The load of the sealed flag. -/
def load (id : Nat) : Option (Registering F) :=
  match registering.calls id with
  | some { channel, service, phase := .loading } =>
      some (registering.setCall id
        { channel := channel
          service := service
          phase := if registering.shared.channelsSealed then .spawning else .joining })
  | _ => none

/-- The thread a registration starts for itself. -/
def spawn (id : Nat) : Option (Registering F) :=
  match registering.calls id with
  | some { channel, service, phase := .spawning } =>
      some
        { registering.setCall id
            { channel := channel, service := service, phase := .returned (.ok ()) } with
          shared := registering.shared.spawnNativeService
            { channel := channel, services := [service] } }
  | _ => none

/-- The locked registry access of a registration. -/
def join (id : Nat) : Option (Registering F) :=
  match registering.calls id with
  | some { channel, service, phase := .joining } =>
      match joinRegistry channel service registering.shared.registry with
      | .ok registry =>
          some
            { registering.setCall id
                { channel := channel
                  service := service
                  phase := .returned (.ok ()) } with
              shared := { registering.shared with registry := registry } }
      | .error refusal =>
          some (registering.setCall id
            { channel := channel
              service := service
              phase := .returned (.error refusal) })
  | _ => none

/-- The swap of the sealed flag. -/
def swap (id : Nat) : Option (Registering F) :=
  match registering.starts[id]? with
  | some .swapping =>
      some
        { registering.setStart id
            (if registering.shared.channelsSealed then .skipped else .draining) with
          shared := { registering.shared with channelsSealed := true } }
  | _ => none

/-- The locked drain of the registry. -/
def drain (id : Nat) : Option (Registering F) :=
  match registering.starts[id]? with
  | some .draining =>
      some
        { registering.setStart id (.starting registering.shared.registry) with
          shared := { registering.shared with registry := [] } }
  | _ => none

/-- One turn of the loop over the drained channels. -/
def startChannel (id index : Nat) : Option (Registering F) :=
  match registering.starts[id]? with
  | some (.starting left) =>
      match left[index]? with
      | some provided =>
          some
            { registering.setStart id (.starting (left.eraseIdx index)) with
              shared := registering.shared.spawnNativeService provided }
      | none => none
  | _ => none

/-- The loop is over. -/
def finish (id : Nat) : Option (Registering F) :=
  match registering.starts[id]? with
  | some (.starting []) => some (registering.setStart id .started)
  | _ => none

/-- One step of the process; `none` when the action is not enabled. -/
def step : RegisteringAction F → Option (Registering F)
  | .register id channel name dispatcher =>
      match registering.calls id with
      | none =>
          some (registering.setCall id
            { channel := channel
              service := { call := id, name := name, dispatcher := dispatcher }
              phase := .loading })
      | some _ => none
  | .load id => registering.load id
  | .spawn id => registering.spawn id
  | .join id => registering.join id
  | .start => some { registering with starts := registering.starts ++ [.swapping] }
  | .swap id => registering.swap id
  | .drain id => registering.drain id
  | .startChannel id index => registering.startChannel id index
  | .finish id => registering.finish id

end Registering

end IceRpc
