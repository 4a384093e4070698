/-
Module: IceRpc.Rt.Cancel
Purpose: The cancellation token, at the grain of its atomic operations: the flag, the
  waker list behind its lock, the calls that cancel it and the tasks that poll it.
Trusted boundary: sequentially consistent flag accesses; a section under the lock is
  one step
Main exports: CancellationToken, CancelCall.step, Waiter.step, TokenSystem.step
-/
import IceRpc.Lib.Poll
import Mathlib.Logic.Function.Basic

namespace IceRpc

open Lib

variable {W : Type} [DecidableEq W]

/-- The state shared by the clones of a token.  Equality of wakers is `will_wake`. -/
structure CancellationToken (W : Type) where
  cancelled : Bool
  wakers : List W
deriving Repr, DecidableEq

namespace CancellationToken

/-- A new token is not cancelled. -/
def new : CancellationToken W := { cancelled := false, wakers := [] }

/-- The section of `poll_cancelled` under the lock: a waker already in the list is not
added again, and a different one replaces nothing. -/
def register (token : CancellationToken W) (waker : W) : CancellationToken W :=
  if waker ∈ token.wakers then token
  else { token with wakers := token.wakers ++ [waker] }

end CancellationToken

/-! ### Cancelling -/

/-- What a call of `cancel` does next. -/
inductive CancelCall (W : Type) where
  /-- Swap the flag; a call nobody has made yet is here too. -/
  | swapping
  /-- Take the waker list under the lock. -/
  | taking
  /-- Wake what is left of the list it took. -/
  | waking (left : List W)
  /-- The call has returned. -/
  | returned
deriving Repr, DecidableEq

/-- The next atomic step of a call of `cancel`: the token and the call after it, and
the waker it wakes. -/
def CancelCall.step (token : CancellationToken W) :
    CancelCall W → Option (CancellationToken W × CancelCall W × Option W)
  | .swapping =>
      if token.cancelled then some (token, .returned, none)
      else some ({ token with cancelled := true }, .taking, none)
  | .taking => some ({ token with wakers := [] }, .waking token.wakers, none)
  | .waking (waker :: left) => some (token, .waking left, some waker)
  | .waking [] => some (token, .returned, none)
  | .returned => none

/-! ### Polling -/

/-- The function a poll of the token enters through. -/
inductive PollEntry where
  | pollCancelled
  | pollCancelledCached
  /-- The wrapper of a provider's task: it polls the task, then the token. -/
  | cancellableCall
deriving Repr, DecidableEq

/-- What a poll with the given waker does next.  `cached` tells whether
`poll_cancelled` was called by `poll_cancelled_cached`. -/
inductive PollPoint (W : Type) where
  | idle
  /-- `CancellableCall::poll` reads the flag. -/
  | callRead (waker : W)
  /-- `CancellableCall::poll` polls the task it wraps. -/
  | pollingTask (waker : W)
  /-- `poll_cancelled_cached` reads the flag. -/
  | cachedRead (waker : W)
  /-- `poll_cancelled_cached` compares the cached waker. -/
  | cacheTest (waker : W)
  /-- `poll_cancelled` reads the flag. -/
  | firstRead (waker : W) (cached : Bool)
  /-- `poll_cancelled` registers the waker under the lock. -/
  | registering (waker : W) (cached : Bool)
  /-- `poll_cancelled` reads the flag again. -/
  | secondRead (waker : W) (cached : Bool)
deriving Repr, DecidableEq

/-- A task that polls the token. -/
structure Waiter (W : Type) where
  point : PollPoint W
  /-- The waker `poll_cancelled_cached` remembers from one poll to the next. -/
  registered : Option W
  /-- The polls answered so far with the wakers they were given, the last one first. -/
  answers : List (W × Poll Unit)
deriving Repr, DecidableEq

namespace Waiter

def new : Waiter W := { point := .idle, registered := none, answers := [] }

/-- Go on inside the poll. -/
def proceed (task : Waiter W) (point : PollPoint W) : Waiter W :=
  { task with point := point }

/-- Return from the poll. -/
def answer (task : Waiter W) (waker : W) (result : Poll Unit) : Waiter W :=
  { task with point := .idle, answers := (waker, result) :: task.answers }

/-- The caching caller remembers the waker it registered; `poll_cancelled` alone has
nowhere to keep it. -/
def remember (task : Waiter W) (waker : W) (cached : Bool) : Waiter W :=
  if cached then { task with registered := some waker } else task

/-- The waker of the last poll, when the task is between polls and that poll answered
`Pending`. -/
def pendingOn (task : Waiter W) : Option W :=
  match task.point, task.answers with
  | .idle, (waker, .pending) :: _ => some waker
  | _, _ => none

/-- Where a poll starts. -/
def entryPoint (waker : W) : PollEntry → PollPoint W
  | .pollCancelled => .firstRead waker false
  | .pollCancelledCached => .cachedRead waker
  | .cancellableCall => .callRead waker

/-- A flag read in the middle of a poll: `Ready` when the token is cancelled. -/
def readFlag (token : CancellationToken W) (task : Waiter W) (waker : W)
    (otherwise : Waiter W) : Waiter W :=
  if token.cancelled then task.answer waker (.ready ()) else otherwise

/-- The next atomic step of the poll in progress on the token. -/
def step (token : CancellationToken W) (task : Waiter W) :
    Option (CancellationToken W × Waiter W) :=
  match task.point with
  | .idle => none
  | .callRead waker =>
      some (token, task.readFlag token waker (task.proceed (.pollingTask waker)))
  | .pollingTask _ => none
  | .cachedRead waker =>
      some (token, task.readFlag token waker (task.proceed (.cacheTest waker)))
  | .cacheTest waker =>
      if task.registered = some waker then some (token, task.answer waker .pending)
      else some (token, task.proceed (.firstRead waker true))
  | .firstRead waker cached =>
      some (token, task.readFlag token waker (task.proceed (.registering waker cached)))
  | .registering waker cached =>
      some (token.register waker, task.proceed (.secondRead waker cached))
  | .secondRead waker cached =>
      some (token, task.readFlag token waker
        ((task.remember waker cached).answer waker .pending))

/-- `CancellableCall::poll` learns what the task it wraps answered. -/
def taskPolled (task : Waiter W) (ready : Bool) : Option (Waiter W) :=
  match task.point with
  | .pollingTask waker =>
      if ready then some (task.answer waker (.ready ()))
      else some (task.proceed (.cachedRead waker))
  | _ => none

end Waiter

/-! ### A token, its cancellers and its waiters -/

/-- One token with any number of `cancel` calls and of tasks that poll it, and the
wake-ups sent so far. -/
structure TokenSystem (W : Type) where
  token : CancellationToken W
  cancels : Nat → CancelCall W
  tasks : Nat → Waiter W
  woken : List W

/-- Who takes the next step. -/
inductive TokenAction (W : Type) where
  /-- The next atomic step of a `cancel` call. -/
  | cancel (call : Nat)
  /-- A task is polled, with a waker of the poller's choice. -/
  | poll (task : Nat) (entry : PollEntry) (waker : W)
  /-- The next atomic step of the poll of a task. -/
  | proceed (task : Nat)
  /-- The future a `CancellableCall` wraps answers its poll. -/
  | taskPolled (task : Nat) (ready : Bool)
deriving Repr, DecidableEq

namespace TokenSystem

/-- No call has cancelled the token and nobody has polled it. -/
def new : TokenSystem W :=
  { token := .new, cancels := fun _ => .swapping, tasks := fun _ => .new, woken := [] }

def setTask (system : TokenSystem W) (k : Nat) (task : Waiter W) : TokenSystem W :=
  { system with tasks := Function.update system.tasks k task }

/-- One step of the system; `none` when the actor has no such step to take. -/
def step (system : TokenSystem W) : TokenAction W → Option (TokenSystem W)
  | .cancel c =>
      ((system.cancels c).step system.token).map fun (token, call, woke) =>
        { system with
          token := token
          cancels := Function.update system.cancels c call
          woken := system.woken ++ woke.toList }
  | .poll k entry waker =>
      -- A future is polled by one thread at a time.
      if (system.tasks k).point = .idle then
        some (system.setTask k ((system.tasks k).proceed (Waiter.entryPoint waker entry)))
      else none
  | .proceed k =>
      ((system.tasks k).step system.token).map fun (token, task) =>
        { system.setTask k task with token := token }
  | .taskPolled k ready =>
      ((system.tasks k).taskPolled ready).map fun task => system.setTask k task

end TokenSystem

end IceRpc
