/-
Module: IceRpc.Rx.Stream
Purpose: What the operators of `ice-rpc-rx/src/transform` are written against: streams
  and futures polled with a waker, closures, the timers and the clock of the runtime
  (`rt/mod.rs`), the token an operator may hold (`rt/cancel.rs`), and the boxed
  `Observable` they return (`stream.rs`).
Trusted boundary: human-reviewed spec; a boxed stream is what its polls answer, and what
  the outside world decides (when a timer fires, what the clock shows, when a token is
  cancelled) is a script of the holder
Main exports: Context, PollStream, PollFuture, FnMut, Sleep, Runtime, TokenHandle,
  Observable, Observable.fromStream, passOn
-/
import IceRpc.Lib.Polling
import IceRpc.Types.Event

namespace IceRpc.Rx

open Lib

/-! ### Polling -/

/-- The waker of a task.  Equality is `will_wake`. -/
abbrev Waker := Nat

/-- The context of a poll: the waker to register, and the number of turns for which
the loops of the poll are followed. -/
structure Context where
  waker : Waker
  turns : Nat
deriving Repr, DecidableEq

/-- `futures_lite::Stream`.  The answer is `none` for a poll that does not return. -/
class PollStream (S : Type) (Item : outParam Type) where
  pollNext : Context → S → Option (Poll (Option Item) × S)

/-- What a stream of events answers to a poll. -/
abbrev Answer (T E : Type) := Poll (Option (Event T E))

/-- `std::future::Future`. -/
class PollFuture (F : Type) (Output : outParam Type) where
  poll : Context → F → Poll Output × F

/-- A closure that may be called again: what a call returns, and the closure after
it. -/
class FnMut (F : Type) (A B : outParam Type) where
  call : F → A → B × F

/-- A plain function keeps nothing from one call to the next. -/
instance {A B : Type} : FnMut (A → B) A B where
  call f a := (f a, f)

/-! ### The runtime and its timers -/

/-- The future of `rt::sleep`.  `fires` says, poll after poll, whether the timer has
fired. -/
structure Sleep where
  duration : Nat
  fires : Stream' Bool
  waker : Option Waker

instance : PollFuture Sleep Unit where
  poll cx sleep :=
    if sleep.fires.head then (.ready (), { sleep with fires := sleep.fires.tail })
    else (.pending, { sleep with fires := sleep.fires.tail, waker := some cx.waker })

/-- What the runtime is going to answer: the timers it hands out, and the readings of
its clock in nanoseconds. -/
structure Runtime where
  timers : Stream' (Stream' Bool)
  clock : Stream' Nat

namespace Runtime

/-- `rt::sleep`. -/
def sleep (runtime : Runtime) (duration : Nat) : Sleep × Runtime :=
  ({ duration := duration, fires := runtime.timers.head, waker := none },
    { runtime with timers := runtime.timers.tail })

/-- `Instant::now`. -/
def now (runtime : Runtime) : Nat × Runtime :=
  (runtime.clock.head, { runtime with clock := runtime.clock.tail })

end Runtime

/-! ### Tokens -/

/-- A clone of a token in the hands of one holder: what its reads of the flag find,
whoever cancels the token in between, and the wakers registered on it. -/
structure TokenHandle where
  reads : Stream' Bool
  wakers : List Waker

/-- `CancellationToken::is_cancelled`. -/
def TokenHandle.isCancelled (token : TokenHandle) : Bool × TokenHandle :=
  (token.reads.head, { token with reads := token.reads.tail })

/-! ### Sources -/

/-- What a channel or a queue of events answers: its items, when the schedule lets it. -/
instance {Item : Type} : PollStream (Source Item) Item where
  pollNext _ source := some source.poll

/-! ### Boxed streams -/

variable {T U E : Type}

/-- The answer is a terminal event. -/
def endsStream : Answer T E → Bool
  | .ready (some event) => event.isTerminal
  | _ => false

/-- `Observable`, whatever it wraps: what its polls are going to answer, and whether a
terminal event was delivered. -/
structure Observable (T E : Type) where
  answers : Script (Event T E)
  terminated : Bool

/-- `Observable::poll_next`. -/
instance : PollStream (Observable T E) (Event T E) where
  pollNext _ this := this.answers.head.map fun polled =>
    (polled,
      { answers := this.answers.tail, terminated := this.terminated || endsStream polled })

namespace Observable

/-- `Observable::from_stream`, for a stream that is going to be polled in the given
contexts. -/
def fromStream {S : Type} [PollStream S (Event T E)] (contexts : Stream' Context)
    (stream : S) : Observable T E :=
  { answers := unfold PollStream.pollNext contexts stream, terminated := false }

end Observable

/-! ### Operators that answer once for each answer of their source -/

/-- Poll the source once.  A pending poll is passed on as it is; what the operator does
with an answer is `react`. -/
def passOn {S O Item Out : Type} [PollStream S Item] (cx : Context) (source : S)
    (keep : S → O) (react : S → Option Item → Option Out × O) :
    Option (Poll (Option Out) × O) :=
  match PollStream.pollNext cx source with
  | none => none
  | some (.pending, source) => some (.pending, keep source)
  | some (.ready item, source) =>
      let (answer, this) := react source item
      some (.ready answer, this)

end IceRpc.Rx
