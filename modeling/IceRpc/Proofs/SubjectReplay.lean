/-
Module: IceRpc.Proofs.SubjectReplay
Purpose: What the subscribers of a subject receive, as a function of what was pushed:
  the last values kept at the moment of joining, the terminal event when there is one,
  else what is pushed from then on up to the first terminal event.
Trusted boundary: none
Main exports: pushed, emitted, Subject.after, Subject.Shows, received_eq,
  subject_multicast
-/
import Mathlib.Data.List.Induction
import Mathlib.Data.List.Nodup
import Mathlib.Data.List.TakeWhile
import IceRpc.Lib.Ending
import IceRpc.Rx.Subject

namespace IceRpc

open Lib

variable {T E : Type}
variable {subject next : Subject T E} {calls : List (SubjectCall T E)} {id : ChannelId}

/-! ### What is pushed and what is emitted -/

/-- The event an operation pushes, if it pushes one. -/
def SubjectCall.pushed : SubjectCall T E → Option (Event T E)
  | .next value => some (.next value)
  | .complete => some .complete
  | .error err => some (.error (.business err))
  | .subscribe | .drop _ => none

/-- The events pushed by a sequence of operations. -/
def pushes (calls : List (SubjectCall T E)) : List (Event T E) :=
  calls.filterMap SubjectCall.pushed

/-- The events a subject emits: those pushed, up to the first terminal one. -/
def emitted (calls : List (SubjectCall T E)) : List (Event T E) :=
  upToFirst Event.isTerminal (pushes calls)

/-- The value of a `Next`. -/
def Event.value : Event T E → Option T
  | .next value => some value
  | .complete | .error _ => none

/-- The last `count` items of a list. -/
def lastOf {α : Type} (count : Nat) (items : List α) : List α :=
  items.drop (items.length - count)

theorem lastOf_length {α : Type} (count : Nat) (items : List α) :
    (lastOf count items).length = min count items.length := by
  rw [lastOf, List.length_drop]
  omega

/-- How many subscribers have joined. -/
def joins (calls : List (SubjectCall T E)) : Nat :=
  calls.countP fun call => match call with
    | .subscribe => true
    | _ => false

/-- The operation drops the given subscriber. -/
def SubjectCall.drops (id : ChannelId) : SubjectCall T E → Bool
  | .drop subscriber => subscriber = id
  | _ => false

/-- The operations a subscriber lives to see. -/
def heard (id : ChannelId) (calls : List (SubjectCall T E)) : List (SubjectCall T E) :=
  calls.takeWhile fun call => !call.drops id

theorem pushes_append (first second : List (SubjectCall T E)) :
    pushes (first ++ second) = pushes first ++ pushes second :=
  List.filterMap_append

namespace Subject

/-- The subject after a sequence of operations. -/
def after (capacity : Nat) (calls : List (SubjectCall T E)) : Subject T E :=
  calls.foldl perform (replay capacity)

theorem after_snoc (capacity : Nat) (calls : List (SubjectCall T E))
    (call : SubjectCall T E) :
    after capacity (calls ++ [call]) = (after capacity calls).perform call := by
  rw [after, List.foldl_append]
  rfl

/-! ### One way to push -/

/-- What an emission records in the state. -/
def record (state : SubjectState T E) : Event T E → SubjectState T E
  | .next value => pushReplay state value
  | .complete => { state with completed := true }
  | .error err => { state with error := some err }

/-- The emission `next`, `complete` and `error` share. -/
def emit (subject : Subject T E) (event : Event T E) : Subject T E :=
  if subject.state.isTerminated then subject
  else ({ subject with state := record subject.state event }.retainLive).broadcast event

theorem perform_of_pushed {call : SubjectCall T E} {event : Event T E}
    (isPush : call.pushed = some event) (subject : Subject T E) :
    subject.perform call = subject.emit event := by
  cases call with
  | next value =>
      cases isPush
      rfl
  | complete =>
      cases isPush
      rfl
  | error err =>
      cases isPush
      rfl
  | subscribe => cases isPush
  | drop subscriber => cases isPush

/-- A broadcast to distinct subscribers sends each of them the event once. -/
theorem foldl_sendTo (event : Event T E) {ids : List ChannelId} (distinct : ids.Nodup)
    (channels : ChannelId → SubscriberChannel T E) (id : ChannelId) :
    ids.foldl (sendTo event) channels id =
      if id ∈ ids then (channels id).sendEvent event else channels id := by
  induction ids generalizing channels with
  | nil => rfl
  | cons first ids ih =>
      rw [List.nodup_cons] at distinct
      rw [List.foldl_cons, ih distinct.2]
      rcases eq_or_ne id first with rfl | different
      · simp [distinct.1, sendTo]
      · simp [sendTo, different]

theorem record_subscribers (state : SubjectState T E) (event : Event T E) :
    (record state event).subscribers = state.subscribers := by
  cases event with
  | next value =>
      simp only [record, pushReplay]
      split <;> rfl
  | complete => rfl
  | error err => rfl

theorem record_capacity (state : SubjectState T E) (event : Event T E) :
    (record state event).capacity = state.capacity := by
  cases event with
  | next value =>
      simp only [record, pushReplay]
      split <;> rfl
  | complete => rfl
  | error err => rfl

/-- A terminated subject ignores every emission. -/
theorem emit_of_terminated (terminated : subject.state.isTerminated = true) (event : Event T E) :
    subject.emit event = subject := by
  rw [emit, if_pos terminated]

/-! ### The state of a subject, from what was pushed -/

/-- The replay buffer keeps the last values, the terminal state is that of the
emitted events, the subscribers are distinct, and while the subject is not terminated
every subscriber that was not dropped is among them. -/
structure Shows (capacity : Nat) (calls : List (SubjectCall T E))
    (subject : Subject T E) : Prop where
  bound : subject.state.capacity = capacity
  kept : subject.state.replay = lastOf capacity ((emitted calls).filterMap Event.value)
  ending : subject.state.terminalEvent.toList = (emitted calls).filter Event.isTerminal
  terminated : subject.state.isTerminated = false ↔
    Unended Event.isTerminal (pushes calls)
  joined : subject.nextChannel = joins calls
  distinct : subject.state.subscribers.Nodup
  known : ∀ id ∈ subject.state.subscribers, id < subject.nextChannel
  listed : subject.state.isTerminated = false → ∀ id, id < subject.nextChannel →
    (subject.channels id).closed = false → id ∈ subject.state.subscribers

theorem shows_new (capacity : Nat) :
    Shows capacity [] (replay capacity : Subject T E) where
  bound := rfl
  kept := by simp [emitted, pushes, upToFirst, lastOf, replay]
  ending := rfl
  terminated := by simp [replay, SubjectState.isTerminated, pushes]
  joined := rfl
  distinct := List.nodup_nil
  known := by simp [replay]
  listed := by simp [replay]

/-- The window slides: the oldest value leaves when the buffer is full. -/
theorem lastOf_snoc {α : Type} {count : Nat} (positive : 0 < count) (items : List α)
    (item : α) :
    lastOf count (items ++ [item]) =
      (if (lastOf count items).length = count then (lastOf count items).tail
        else lastOf count items) ++ [item] := by
  rw [lastOf_length]
  simp only [lastOf, List.length_append, List.length_singleton]
  split
  · rename_i full
    rw [List.tail_drop, List.drop_append_of_le_length (by omega)]
    congr 2
    omega
  · rename_i room
    rw [List.drop_append_of_le_length (by omega)]
    congr 2
    omega

theorem pushReplay_replay (state : SubjectState T E) (value : T) (values : List T)
    (kept : state.replay = lastOf state.capacity values) :
    (pushReplay state value).replay = lastOf state.capacity (values ++ [value]) := by
  simp only [pushReplay]
  split
  · rename_i positive
    rw [lastOf_snoc positive, ← kept]
  · rename_i none_
    have zero : state.capacity = 0 := by omega
    simp [kept, zero, lastOf]

/-- The fields that tell whether a subject is terminated, while it is not. -/
theorem unterminated_fields {state : SubjectState T E}
    (open_ : state.isTerminated = false) : state.completed = false ∧ state.error = none := by
  simpa [SubjectState.isTerminated] using open_

theorem pushReplay_ending (state : SubjectState T E) (value : T) :
    (pushReplay state value).completed = state.completed ∧
      (pushReplay state value).error = state.error := by
  simp only [pushReplay]
  split <;> exact ⟨rfl, rfl⟩

/-- An emission terminates the subject when its event is terminal. -/
theorem record_isTerminated {state : SubjectState T E}
    (open_ : state.isTerminated = false) (event : Event T E) :
    (record state event).isTerminated = event.isTerminal := by
  obtain ⟨completed, err⟩ := unterminated_fields open_
  cases event with
  | next value =>
      obtain ⟨sameCompleted, sameError⟩ := pushReplay_ending state value
      simp [record, SubjectState.isTerminated, sameCompleted, sameError, completed, err]
  | complete => simp [record, SubjectState.isTerminated]
  | error failure => simp [record, SubjectState.isTerminated]

/-- The terminal event an emission leaves behind. -/
theorem record_terminalEvent {state : SubjectState T E}
    (open_ : state.isTerminated = false) (event : Event T E) :
    (record state event).terminalEvent.toList = [event].filter Event.isTerminal := by
  obtain ⟨completed, err⟩ := unterminated_fields open_
  cases event with
  | next value =>
      obtain ⟨sameCompleted, sameError⟩ := pushReplay_ending state value
      simp [record, SubjectState.terminalEvent, sameCompleted, sameError, completed, err]
  | complete =>
      simp only [record, SubjectState.terminalEvent, err, if_true]
      rfl
  | error failure => rfl

/-- The values an emission leaves in the replay buffer. -/
theorem record_replay {state : SubjectState T E} (event : Event T E) {values : List T}
    (kept : state.replay = lastOf state.capacity values) :
    (record state event).replay =
      lastOf state.capacity (values ++ [event].filterMap Event.value) := by
  cases event with
  | next value => exact pushReplay_replay state value values kept
  | complete => exact kept.trans (congrArg _ (List.append_nil values).symm)
  | error failure => exact kept.trans (congrArg _ (List.append_nil values).symm)

/-- The channels after an emission: every subscriber that has not been dropped gets
the event, whether it was joined before or is still unknown. -/
theorem Shows.emit_channels {capacity : Nat} (inv : Shows capacity calls subject)
    (open_ : subject.state.isTerminated = false) (event : Event T E)
    (joined : id < subject.nextChannel) :
    (subject.emit event).channels id = (subject.channels id).sendEvent event := by
  rw [emit, if_neg (by simp [open_])]
  simp only [broadcast, retainLive, record_subscribers]
  rw [foldl_sendTo event (inv.distinct.filter _)]
  split
  · rfl
  · rename_i absent
    -- a subscriber that is not sent the event has been dropped
    have gone : (subject.channels id).closed = true := by
      by_contra alive
      have isOpen : (subject.channels id).closed = false := by simpa using alive
      apply absent
      rw [List.mem_filter]
      exact ⟨inv.listed open_ id joined isOpen, by simp [isOpen]⟩
    rw [SubscriberChannel.sendEvent, if_pos gone]

theorem sendEvent_closed (channel : SubscriberChannel T E) (event : Event T E) :
    (channel.sendEvent event).closed = channel.closed := by
  unfold SubscriberChannel.sendEvent
  split <;> rfl

/-- The state after an emission, from the state before. -/
theorem Shows.emit {capacity : Nat} (inv : Shows capacity calls subject) {call : SubjectCall T E}
    {event : Event T E} (isPush : call.pushed = some event) :
    Shows capacity (calls ++ [call]) (subject.emit event) := by
  have pushedNow : pushes (calls ++ [call]) = pushes calls ++ [event] := by
    simp [pushes, isPush]
  have joinsSame : joins (calls ++ [call]) = joins calls := by
    cases call with
    | subscribe => cases isPush
    | next value => simp [joins]
    | complete => simp [joins]
    | error err => simp [joins]
    | drop subscriber => cases isPush
  cases flag : subject.state.isTerminated with
  | true =>
      have ended : ¬ Unended Event.isTerminal (pushes calls) := by
        rw [← inv.terminated, flag]
        simp
      have same : emitted (calls ++ [call]) = emitted calls := by
        rw [emitted, pushedNow, upToFirst_snoc_of_ended event ended, emitted]
      rw [emit_of_terminated flag]
      refine ⟨inv.bound, ?_, ?_, ?_, ?_, inv.distinct, inv.known, inv.listed⟩
      · rw [same]
        exact inv.kept
      · rw [same]
        exact inv.ending
      · rw [inv.terminated, pushedNow]
        refine ⟨fun unended => absurd unended ended, fun unended => ?_⟩
        exact (unended_append.mp unended).1
      · rw [joinsSame]
        exact inv.joined
  | false =>
      have unended := inv.terminated.mp flag
      have before : emitted calls = pushes calls := upToFirst_of_unended unended
      have now : emitted (calls ++ [call]) = pushes calls ++ [event] := by
        rw [emitted, pushedNow, upToFirst_snoc_of_unended event unended]
      have noEnd : (pushes calls).filter Event.isTerminal = [] := by
        rw [List.filter_eq_nil_iff]
        intro item member
        simp [unended item member]
      have channels : ∀ id, id < subject.nextChannel → (subject.emit event).channels id =
          (subject.channels id).sendEvent event :=
        fun id joined => inv.emit_channels flag event joined
      have state_eq : (subject.emit event).state =
          { record subject.state event with
            subscribers := subject.state.subscribers.filter fun id =>
              !(subject.channels id).closed } := by
        rw [Subject.emit, if_neg (by simp [flag])]
        simp [broadcast, retainLive, record_subscribers]
      have next_eq : (subject.emit event).nextChannel = subject.nextChannel := by
        rw [Subject.emit, if_neg (by simp [flag])]
        rfl
      refine ⟨?_, ?_, ?_, ?_, ?_, ?_, ?_, ?_⟩
      · rw [state_eq]
        exact (record_capacity _ _).trans inv.bound
      · have kept := inv.kept
        rw [before, ← inv.bound] at kept
        rw [state_eq, now, List.filterMap_append, ← inv.bound]
        exact record_replay event kept
      · rw [state_eq, now, List.filter_append, noEnd, List.nil_append]
        exact record_terminalEvent flag event
      · rw [state_eq, pushedNow, unended_append, unended_singleton]
        have stands := record_isTerminated flag event
        exact ⟨fun open_ => ⟨unended, stands.symm.trans open_⟩,
          fun both => stands.trans both.2⟩
      · rw [next_eq, joinsSame]
        exact inv.joined
      · rw [state_eq]
        exact inv.distinct.filter _
      · rw [state_eq, next_eq]
        intro id member
        exact inv.known id (List.mem_filter.mp member).1
      · rw [state_eq, next_eq]
        intro _ id joined isOpen
        rw [channels id joined, sendEvent_closed] at isOpen
        rw [List.mem_filter]
        exact ⟨inv.listed flag id joined isOpen, by simp [isOpen]⟩

/-- The state after a subscription. -/
theorem Shows.subscribe {capacity : Nat} (inv : Shows capacity calls subject) :
    Shows capacity (calls ++ [.subscribe]) subject.subscribe := by
  have pushesSame : pushes (calls ++ [.subscribe]) = pushes calls := by
    simp [pushes, SubjectCall.pushed]
  have emittedSame : emitted (calls ++ [.subscribe]) = emitted calls := by
    rw [emitted, pushesSame, emitted]
  refine ⟨inv.bound, ?_, ?_, ?_, ?_, ?_, ?_, ?_⟩
  · rw [emittedSame]
    exact inv.kept
  · rw [emittedSame]
    exact inv.ending
  · rw [pushesSame]
    exact inv.terminated
  · simp [Subject.subscribe, joins, inv.joined]
  · simp only [Subject.subscribe]
    split
    · exact inv.distinct
    · rw [← List.concat_eq_append, List.nodup_concat]
      refine ⟨fun member => ?_, inv.distinct⟩
      exact Nat.lt_irrefl _ (inv.known _ member)
  · intro id member
    simp only [Subject.subscribe] at member ⊢
    split at member
    · exact Nat.lt_succ_of_lt (inv.known id member)
    · rcases List.mem_append.mp member with before | added
      · exact Nat.lt_succ_of_lt (inv.known id before)
      · rw [List.mem_singleton.mp added]
        exact Nat.lt_succ_self _
  · intro open_ id joined isOpen
    have flag : subject.state.isTerminated = false := open_
    simp only [Subject.subscribe, flag] at joined isOpen ⊢
    rcases Nat.lt_succ_iff_lt_or_eq.mp joined with before | rfl
    · rw [Function.update_of_ne (Nat.ne_of_lt before)] at isOpen
      exact List.mem_append_left _ (inv.listed flag id before isOpen)
    · exact List.mem_append_right _ (List.mem_singleton.mpr rfl)

/-- The state after the drop of a subscriber. -/
theorem Shows.drop {capacity : Nat} (inv : Shows capacity calls subject) (dropped : ChannelId) :
    Shows capacity (calls ++ [.drop dropped]) (subject.drop dropped) := by
  have pushesSame : pushes (calls ++ [.drop dropped]) = pushes calls := by
    simp [pushes, SubjectCall.pushed]
  have emittedSame : emitted (calls ++ [.drop dropped]) = emitted calls := by
    rw [emitted, pushesSame, emitted]
  refine ⟨inv.bound, ?_, ?_, ?_, ?_, inv.distinct, inv.known, ?_⟩
  · rw [emittedSame]
    exact inv.kept
  · rw [emittedSame]
    exact inv.ending
  · rw [pushesSame]
    exact inv.terminated
  · simpa [Subject.drop, joins] using inv.joined
  · intro open_ id joined isOpen
    simp only [Subject.drop] at isOpen
    rcases eq_or_ne id dropped with rfl | different
    · simp at isOpen
    · rw [Function.update_of_ne different] at isOpen
      exact inv.listed open_ id joined isOpen

/-- Every operation. -/
theorem Shows.perform {capacity : Nat} (inv : Shows capacity calls subject)
    (call : SubjectCall T E) :
    Shows capacity (calls ++ [call]) (subject.perform call) := by
  cases push : call.pushed with
  | some event =>
      rw [perform_of_pushed push]
      exact inv.emit push
  | none =>
      cases call with
      | subscribe => exact inv.subscribe
      | drop subscriber => exact inv.drop subscriber
      | next value => cases push
      | complete => cases push
      | error err => cases push

/-- Every sequence of operations. -/
theorem shows_after (capacity : Nat) (calls : List (SubjectCall T E)) :
    Shows capacity calls (after capacity calls) := by
  induction calls using List.reverseRecOn with
  | nil => exact shows_new capacity
  | append_singleton calls call ih =>
      rw [after_snoc]
      exact ih.perform call

/-! ### What one subscriber receives -/

/-- What a subscriber that joined after the operations `before` receives while the
operations `later` are performed: the values the subject kept, its terminal event if
it was terminated, and else what is pushed as long as the subscriber lives, up to the
first terminal event. -/
def receives (capacity : Nat) (before later : List (SubjectCall T E)) (id : ChannelId) :
    List (Event T E) :=
  (lastOf capacity ((emitted before).filterMap Event.value)).map Event.next ++
    (emitted before).filter Event.isTerminal ++
    if Unended Event.isTerminal (pushes before) then
      upToFirst Event.isTerminal (pushes (heard id later))
    else []

/-- While a subscriber is not dropped it hears everything. -/
theorem heard_of_alive (alive : calls.any (SubjectCall.drops id) = false) :
    heard id calls = calls := by
  rw [heard, List.takeWhile_eq_self_iff]
  intro call member
  rw [List.any_eq_false] at alive
  simpa using alive call member

/-- The drop is the last thing a subscriber would hear. -/
theorem heard_snoc (calls : List (SubjectCall T E)) (call : SubjectCall T E) :
    heard id (calls ++ [call]) =
      if calls.any (SubjectCall.drops id) || call.drops id then heard id calls
      else calls ++ [call] := by
  induction calls with
  | nil =>
      cases drops : call.drops id <;> simp [heard, drops]
  | cons first calls ih =>
      simp only [heard, List.cons_append, List.takeWhile_cons, List.any_cons] at ih ⊢
      cases drops : first.drops id with
      | true => simp
      | false =>
          simp only [Bool.not_false, if_true, ih, Bool.false_or]
          split <;> rfl

/-- The channel of a subscriber that has joined, after one more operation. -/
theorem Shows.perform_channels {capacity : Nat} (inv : Shows capacity calls subject)
    (call : SubjectCall T E) (joined : id < subject.nextChannel) :
    (subject.perform call).channels id =
      match call.pushed with
      | some event =>
          if subject.state.isTerminated then subject.channels id
          else (subject.channels id).sendEvent event
      | none =>
          if call.drops id then { subject.channels id with closed := true }
          else subject.channels id := by
  cases push : call.pushed with
  | some event =>
      rw [perform_of_pushed push]
      cases flag : subject.state.isTerminated with
      | true => simp [emit_of_terminated flag]
      | false => simp [inv.emit_channels flag event joined]
  | none =>
      cases call with
      | subscribe =>
          simp [Subject.perform, Subject.subscribe, SubjectCall.drops,
            Function.update_of_ne (Nat.ne_of_lt joined)]
      | drop dropped =>
          simp only [Subject.perform, Subject.drop, SubjectCall.drops,
            decide_eq_true_eq]
          rcases eq_or_ne id dropped with rfl | different
          · simp
          · rw [Function.update_of_ne different, if_neg different.symm]
      | next value => cases push
      | complete => cases push
      | error err => cases push

/-- A subscriber that was dropped receives nothing more. -/
theorem receives_of_gone (capacity : Nat) (before later : List (SubjectCall T E))
    (call : SubjectCall T E) (gone : (later.any (SubjectCall.drops id) || call.drops id) = true) :
    receives capacity before (later ++ [call]) id = receives capacity before later id := by
  rw [receives, heard_snoc, if_pos gone, receives]

/-- A subscriber receives nothing from an operation that pushes nothing. -/
theorem receives_of_silent (capacity : Nat) (before later : List (SubjectCall T E))
    {call : SubjectCall T E} (id : ChannelId) (silent : call.pushed = none) :
    receives capacity before (later ++ [call]) id = receives capacity before later id := by
  cases gone : later.any (SubjectCall.drops id) || call.drops id with
  | true => exact receives_of_gone capacity before later call gone
  | false =>
      have alive := (Bool.or_eq_false_iff.mp gone).1
      have same : pushes (later ++ [call]) = pushes later := by simp [pushes, silent]
      have hears : heard id (later ++ [call]) = later ++ [call] := by
        rw [heard_snoc, if_neg (by simp [gone])]
      rw [receives, hears, same, receives, heard_of_alive alive]

/-- A subscriber that was not dropped receives what is pushed while nothing has
terminated the subject. -/
theorem receives_of_push (capacity : Nat) (before later : List (SubjectCall T E))
    {call : SubjectCall T E} {event : Event T E} (push : call.pushed = some event)
    (alive : later.any (SubjectCall.drops id) = false) (notDrop : call.drops id = false) :
    receives capacity before (later ++ [call]) id =
      if Unended Event.isTerminal (pushes before) ∧
          Unended Event.isTerminal (pushes later) then
        receives capacity before later id ++ [event]
      else receives capacity before later id := by
  have grown : pushes (later ++ [call]) = pushes later ++ [event] := by
    simp [pushes, push]
  have hears : heard id (later ++ [call]) = later ++ [call] := by
    rw [heard_snoc, if_neg (by simp [alive, notDrop])]
  rw [receives, hears, grown, receives, heard_of_alive alive]
  by_cases started : Unended Event.isTerminal (pushes before)
  · simp only [started, if_true, true_and]
    by_cases going : Unended Event.isTerminal (pushes later)
    · rw [if_pos going, upToFirst_snoc_of_unended event going,
        upToFirst_of_unended going, ← List.append_assoc]
    · rw [if_neg going, upToFirst_snoc_of_ended event going]
  · simp [started]

/-- The channel of a subscriber at any time after it joined. -/
theorem received_eq (capacity : Nat) (before later : List (SubjectCall T E)) :
    (after capacity (before ++ .subscribe :: later)).channels (joins before) =
      { received := receives capacity before later (joins before)
        closed := later.any (SubjectCall.drops (joins before)) } := by
  induction later using List.reverseRecOn with
  | nil =>
      have inv := shows_after capacity before
      rw [after_snoc]
      simp only [perform, Subject.subscribe, inv.joined, Function.update_self,
        inv.kept, inv.ending]
      simp [receives, heard, pushes, upToFirst]
  | append_singleton later call ih =>
      have inv := shows_after capacity (before ++ .subscribe :: later)
      have joined : joins before <
          (after capacity (before ++ .subscribe :: later)).nextChannel := by
        rw [inv.joined]
        simp [joins]
      have stands := inv.terminated
      have pushesAll : pushes (before ++ .subscribe :: later) =
          pushes before ++ pushes later := by
        rw [pushes_append]
        rfl
      rw [pushesAll, unended_append] at stands
      rw [← List.cons_append, ← List.append_assoc, after_snoc,
        inv.perform_channels call joined, ih]
      cases push : call.pushed with
      | none =>
          rw [receives_of_silent capacity before later _ push, List.any_append]
          cases drops : call.drops (joins before) <;> simp [drops]
      | some event =>
          have notDrop : call.drops (joins before) = false := by
            cases call <;> first | rfl | cases push
          rw [List.any_append]
          simp only [List.any_cons, List.any_nil, Bool.or_false, notDrop]
          cases gone : later.any (SubjectCall.drops (joins before)) with
          | true =>
              rw [receives_of_gone capacity before later call (by simp [gone])]
              simp [SubscriberChannel.sendEvent]
          | false =>
              rw [receives_of_push capacity before later push gone notDrop]
              cases flag : (after capacity
                  (before ++ .subscribe :: later)).state.isTerminated with
              | true =>
                  have ended : ¬ (Unended Event.isTerminal (pushes before) ∧
                      Unended Event.isTerminal (pushes later)) := by
                    rw [← stands, flag]
                    simp
                  rw [if_neg ended]
                  simp
              | false =>
                  rw [if_pos (stands.mp flag)]
                  simp [SubscriberChannel.sendEvent]

end Subject

/-- For every capacity and every sequence of subscriptions, pushes and drops: a
subscriber receives the last values in order, the terminal event if the subject was
terminated, and else what is pushed from then on up to the first terminal event; a
push after the end changes nothing; the replay buffer holds the last values and never
more than the capacity; and what a subscriber receives depends only on what is pushed
before it joins and while it lives. -/
theorem subject_multicast (capacity : Nat) (before later : List (SubjectCall T E)) :
    ((Subject.after capacity (before ++ .subscribe :: later)).channels
        (joins before)).received =
      Subject.receives capacity before later (joins before) ∧
    (∀ call event, call.pushed = some event →
      ¬ Unended Event.isTerminal (pushes before) →
      Subject.after capacity (before ++ [call]) = Subject.after capacity before) ∧
    ((Subject.after capacity before).state.replay =
        lastOf capacity ((emitted before).filterMap Event.value) ∧
      (Subject.after capacity before).state.replay.length ≤ capacity) ∧
    (∀ before' later', pushes before' = pushes before →
      pushes (heard (joins before') later') = pushes (heard (joins before) later) →
      ((Subject.after capacity (before' ++ .subscribe :: later')).channels
          (joins before')).received =
        ((Subject.after capacity (before ++ .subscribe :: later)).channels
          (joins before)).received) := by
  have inv := Subject.shows_after capacity before
  refine ⟨by rw [Subject.received_eq], ?_, ⟨inv.kept, ?_⟩, ?_⟩
  · intro call event push ended
    have flag : (Subject.after capacity before).state.isTerminated = true := by
      by_contra open_
      exact ended (inv.terminated.mp (by simpa using open_))
    rw [Subject.after_snoc, Subject.perform_of_pushed push,
      Subject.emit_of_terminated flag]
  · rw [inv.kept, lastOf_length]
    exact Nat.min_le_left _ _
  · intro before' later' samePushes sameHeard
    simp only [Subject.received_eq, Subject.receives, emitted, samePushes, sameHeard]

/-- A late subscriber of a subject that keeps one value. -/
theorem subject_multicast_late_subscriber :
    ((Subject.after 1 ([.next 1, .next 2] ++ .subscribe ::
        [.next 3, .complete, .next 4] : List (SubjectCall Nat Unit))).channels
        (joins ([.next 1, .next 2] : List (SubjectCall Nat Unit)))).received =
      [.next 2, .next 3, .complete] :=
  (subject_multicast 1 [.next 1, .next 2] [.next 3, .complete, .next 4]).1.trans
    (by decide)

end IceRpc
