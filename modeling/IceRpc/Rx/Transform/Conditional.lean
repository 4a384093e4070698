/-
Module: IceRpc.Rx.Transform.Conditional
Purpose: `take_until` and `take_until_token`
  (`ice-rpc-rx/src/transform/conditional.rs`).
Trusted boundary: human-reviewed spec
Main exports: TakeUntil, TakeUntilToken
-/
import IceRpc.Rx.Stream

namespace IceRpc.Rx

open Lib

variable {S N T U E : Type}

/-! ### take_until -/

structure TakeUntil (S N : Type) where
  source : S
  /-- Polled first, dropped once over. -/
  notifier : Option N
  /-- The notifier fired: the source is over. -/
  stopped : Bool
  /-- Our terminal has been emitted. -/
  done : Bool

namespace TakeUntil

def new (source : S) (notifier : N) : TakeUntil S N :=
  { source := source, notifier := some notifier, stopped := false, done := false }

/-- The rest of a poll, once the notifier had its own. -/
def pollSource [PollStream S (Event T E)] (cx : Context) (this : TakeUntil S N) :
    Option (Answer T E × TakeUntil S N) :=
  if this.stopped then
    some (.ready (some .complete), { this with done := true })
  else
    match PollStream.pollNext cx this.source with
    | none => none
    | some (polled, source) => some (polled, { this with source := source })

variable [PollStream S (Event T E)] [PollStream N (Event U E)]

/-- `TakeUntil::poll_next`. -/
def pollNext (cx : Context) (this : TakeUntil S N) :
    Option (Answer T E × TakeUntil S N) :=
  if this.done then
    some (.ready none, this)
  else
    match this.notifier with
    | none => this.pollSource cx
    | some notifier =>
        match PollStream.pollNext cx notifier with
        | none => none
        | some (.ready (some (.next _)), _) =>
            pollSource cx { this with notifier := none, stopped := true }
        -- a notifier that ends without a value never stops the source
        | some (.ready (some .complete), _) | some (.ready none, _) =>
            pollSource cx { this with notifier := none }
        | some (.ready (some (.error err)), _) =>
            some (.ready (some (.error err)), { this with notifier := none, done := true })
        | some (.pending, notifier) =>
            pollSource cx { this with notifier := some notifier }

instance : PollStream (TakeUntil S N) (Event T E) where
  pollNext := pollNext

end TakeUntil

/-! ### take_until_token -/

structure TakeUntilToken (S : Type) where
  source : S
  token : TokenHandle
  done : Bool

namespace TakeUntilToken

def new (source : S) (token : TokenHandle) : TakeUntilToken S :=
  { source := source, token := token, done := false }

/-- `TakeUntilToken::poll_next`. -/
def pollNext [PollStream S (Event T E)] (cx : Context) (this : TakeUntilToken S) :
    Option (Answer T E × TakeUntilToken S) :=
  if this.done then
    some (.ready none, this)
  else
    let (cancelled, token) := this.token.isCancelled
    if cancelled then
      some (.ready (some (.error (.technical .cancelled))),
        { this with token := token, done := true })
    else
      match PollStream.pollNext cx this.source with
      | none => none
      | some (polled, source) => some (polled, { this with source := source, token := token })

instance [PollStream S (Event T E)] : PollStream (TakeUntilToken S) (Event T E) where
  pollNext := pollNext

end TakeUntilToken

/-! ### The methods -/

namespace Observable

/-- `Observable::take_until`. -/
def takeUntil (contexts : Stream' Context) (source : Observable T E)
    (notifier : Observable U E) : Observable T E :=
  fromStream contexts (TakeUntil.new source notifier)

/-- `Observable::take_until_token`. -/
def takeUntilToken (contexts : Stream' Context) (source : Observable T E)
    (token : TokenHandle) : Observable T E :=
  fromStream contexts (TakeUntilToken.new source token)

end Observable

end IceRpc.Rx
