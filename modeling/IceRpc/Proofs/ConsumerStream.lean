/-
Module: IceRpc.Proofs.ConsumerStream
Purpose: What the stream of a call receives.  Whatever the other calls, the
  dispatcher and the consumer do, the events of a call are the normalization of its
  own samples up to the first one that ends it.
Trusted boundary: none
Main exports: StreamInv, streamInv_run, stream_receives_own_samples
-/
import IceRpc.Proofs.CallLife

namespace IceRpc

open Lib (Unended)

variable {T E : Type}

/-! ### Reading one more sample -/

theorem streamReceives_of_unended {rkyv : Rkyv T E} {samples : List Sample}
    (going : Unended (endsCall rkyv) samples) :
    streamReceives rkyv samples =
      samples.flatMap fun sample => (handleSample rkyv sample).events := by
  rw [streamReceives, Lib.upToFirst_of_unended going]

/-- While no sample ended the call, the next one adds its events. -/
theorem streamReceives_snoc_of_unended {rkyv : Rkyv T E} {samples : List Sample}
    (sample : Sample) (going : Unended (endsCall rkyv) samples) :
    streamReceives rkyv (samples ++ [sample]) =
      streamReceives rkyv samples ++ (handleSample rkyv sample).events := by
  rw [streamReceives_of_unended going, streamReceives,
    Lib.upToFirst_snoc_of_unended sample going, List.flatMap_append,
    List.flatMap_singleton]

/-- After that it adds nothing. -/
theorem streamReceives_snoc_of_ended {rkyv : Rkyv T E} {samples : List Sample}
    (sample : Sample) (ended : ¬ Unended (endsCall rkyv) samples) :
    streamReceives rkyv (samples ++ [sample]) = streamReceives rkyv samples := by
  rw [streamReceives, Lib.upToFirst_snoc_of_ended sample ended, streamReceives]

theorem streamReceives_prefix_snoc (rkyv : Rkyv T E) (samples : List Sample)
    (sample : Sample) :
    streamReceives rkyv samples <+: streamReceives rkyv (samples ++ [sample]) := by
  by_cases going : Unended (endsCall rkyv) samples
  · rw [streamReceives_snoc_of_unended sample going]
    exact List.prefix_append _ _
  · have same := streamReceives_snoc_of_ended sample going
    exact ⟨[], by rw [List.append_nil, same]⟩

/-- A sample that reads back delivers the events it reads back as, and ends the
call when one of them is terminal. -/
theorem handleSample_of_read {rkyv : Rkyv T E} {sample : Sample}
    {events : List (Event T E)} (read : rkyv.readSample sample = .ok events) :
    (handleSample rkyv sample).events = events ∧
      endsCall rkyv sample = events.any Event.isTerminal := by
  unfold Rkyv.readSample at read
  split at read
  · rename_i isRpc
    cases decoded : rkyv.decodeRpc sample.payload with
    | error message => simp [decoded, Except.map] at read
    | ok err =>
        simp only [decoded, Except.map, Except.ok.injEq] at read
        subst read
        simp [endsCall, handleSample, isRpc, decoded, Delivery.events]
  · rename_i notRpc
    cases decoded : rkyv.decodeWire sample.payload with
    | error message => simp [decoded, Except.map] at read
    | ok wire =>
        simp only [decoded, Except.map, Except.ok.injEq] at read
        subst read
        cases wire <;>
          simp [endsCall, handleSample, notRpc, decoded, Delivery.events, normalized,
            normalizeWireEvent, WireEvent.isTerminal]

/-- A sample that does not read back ends the call with one technical error. -/
theorem handleSample_of_unreadable {rkyv : Rkyv T E} {sample : Sample}
    {message : String} (unread : rkyv.readSample sample = .error message) :
    endsCall rkyv sample = true ∧
      ∃ err, (handleSample rkyv sample).events = [.error (.technical err)] := by
  unfold Rkyv.readSample at unread
  split at unread
  · rename_i isRpc
    simp [endsCall, handleSample, isRpc, Delivery.events]
  · rename_i notRpc
    cases decoded : rkyv.decodeWire sample.payload with
    | error other => simp [endsCall, handleSample, notRpc, decoded, Delivery.events]
    | ok wire => simp [decoded, Except.map] at unread

/-! ### The invariant of one call -/

/-- Events the dispatcher still has to send for the sample at hand. -/
def Work.todo : Work T E → List (Event T E)
  | .sending delivery => delivery.events
  | .sendingFollowUp event _ => [event]
  | .releasing => []

/-- The sample at hand ends the call. -/
def Work.ends : Work T E → Bool
  | .sending delivery => delivery.terminal
  | .sendingFollowUp _ terminal => terminal
  | .releasing => true

def todo (work : Option (Work T E)) : List (Event T E) :=
  (work.map Work.todo).getD []

/-- Neither the error exit of `native_call` nor the cleanup of the stream has
released the handler yet. -/
def Call.attached (call : Call T E) : Bool :=
  match call.phase with
  | .publishing _ | .refused _ | .live | .dropping _ => true
  | _ => false

theorem Call.isOpen_of_attached {call : Call T E} (attached : call.attached = true) :
    call.isOpen = true := by
  unfold Call.attached at attached
  unfold Call.isOpen
  split at attached <;> simp_all

/-- The state of an attached call, given the samples taken up for it. -/
structure AttachedInv (samples : List Sample) (call : Call T E)
    (view : CallView T E) : Prop where
  exactly : call.received ++ todo view.work = streamReceives call.rkyv samples
  registered : Unended (endsCall call.rkyv) samples ∨ view.work ≠ none →
    view.handler = some call.rkyv
  released : ¬ Unended (endsCall call.rkyv) samples → view.work = none →
    view.handler = none
  ending : ∀ work, view.work = some work →
    (work.ends = true ↔ ¬ Unended (endsCall call.rkyv) samples)

/-- What holds of every id, given the samples taken up since its registration. -/
structure StreamInv (samples : List Sample) (view : CallView T E) : Prop where
  unused : view.call = none → view.handler = none ∧ view.work = none
  within : ∀ call, view.call = some call →
    call.received ++ todo view.work <+: streamReceives call.rkyv samples
  attached : ∀ call, view.call = some call → call.attached = true →
    AttachedInv samples call view
  detached : ∀ call, view.call = some call → call.attached = false →
    view.handler = none

namespace StreamInv

variable {samples : List Sample} {view next : CallView T E} {call changed : Call T E}

/-- A change of phase that delivers nothing. -/
theorem rephase (inv : StreamInv samples view) (current : view.call = some call)
    (isNext : next.call = some changed) (sameCodec : changed.rkyv = call.rkyv)
    (sameEvents : changed.received = call.received) (sameWork : next.work = view.work)
    (entry : (changed.attached = call.attached ∧ next.handler = view.handler) ∨
      (changed.attached = false ∧ next.handler = none)) :
    StreamInv samples next := by
  constructor
  · intro noCall
    rw [isNext] at noCall
    cases noCall
  · intro other isOther
    cases isNext.symm.trans isOther
    rw [sameCodec, sameEvents, sameWork]
    exact inv.within call current
  · intro other isOther stillAttached
    cases isNext.symm.trans isOther
    rcases entry with ⟨sameAttached, sameHandler⟩ | ⟨notAttached, -⟩
    · have old := inv.attached call current (sameAttached ▸ stillAttached)
      constructor
      · rw [sameCodec, sameEvents, sameWork]
        exact old.exactly
      · rw [sameCodec, sameWork, sameHandler]
        exact old.registered
      · rw [sameCodec, sameWork, sameHandler]
        exact old.released
      · rw [sameCodec, sameWork]
        exact old.ending
    · rw [notAttached] at stillAttached
      cases stillAttached
  · intro other isOther notAttached
    cases isNext.symm.trans isOther
    rcases entry with ⟨sameAttached, sameHandler⟩ | ⟨-, gone⟩
    · rw [sameHandler]
      exact inv.detached call current (sameAttached ▸ notAttached)
    · exact gone

/-- A new call starts with an empty history. -/
theorem register (inv : StreamInv samples view) (rkyv : Rkyv T E) (header : RpcHeader)
    (payload : Bytes) (fresh : view.call = none) :
    StreamInv []
      { view with
        handler := some rkyv
        call := some (.registered rkyv header payload) } := by
  have noWork := (inv.unused fresh).2
  constructor
  · intro noCall
    cases noCall
  · intro call current
    cases current
    simp [Call.registered, Call.received, todo, noWork]
  · intro call current _
    cases current
    constructor
    · simp [Call.registered, Call.received, todo, noWork, streamReceives, Lib.upToFirst]
    · intro _
      rfl
    · intro ended
      exact absurd Lib.unended_nil ended
    · intro work working
      rw [noWork] at working
      cases working
  · intro call current notAttached
    cases current
    cases notAttached

/-- An accepted event moves from the dispatcher's hands into the channel. -/
theorem accept (inv : StreamInv samples view) (current : view.call = some call)
    {work : Work T E} (working : view.work = some work) {event : Event T E}
    {left : Option (Work T E)} (split : work.todo = event :: todo left)
    (sameEnd : ∀ rest, left = some rest → rest.ends = work.ends)
    (goesOn : left = none → work.ends = false) :
    StreamInv samples
      { view with
        call := some { call with queue := call.queue ++ [event] }
        work := left } := by
  have moved : ({ call with queue := call.queue ++ [event] } : Call T E).received ++
      todo left = call.received ++ todo view.work := by
    simp [Call.received, working, todo, split]
  constructor
  · intro noCall
    cases noCall
  · intro other isOther
    cases isOther
    rw [moved]
    exact inv.within call current
  · intro other isOther isAttached
    cases isOther
    have old := inv.attached call current isAttached
    have ending := old.ending work working
    constructor
    · rw [moved]
      exact old.exactly
    · intro _
      exact old.registered (Or.inr (by simp [working]))
    · intro ended noWork
      rw [goesOn noWork] at ending
      exact absurd (ending.mpr ended) (by simp)
    · intro rest isRest
      rw [sameEnd rest isRest]
      exact ending
  · intro other isOther notAttached
    cases isOther
    exact inv.detached call current notAttached

/-- A refused event is dropped: the stream is gone and so is its handler. -/
theorem refuse (inv : StreamInv samples view)
    (gone : ∀ call, view.call = some call → call.isOpen = false)
    {left : Option (Work T E)} (nothing : todo left = [])
    (used : view.work ≠ none) :
    StreamInv samples { view with work := left } := by
  have notAttached : ∀ call, view.call = some call → call.attached = false := by
    intro call current
    by_contra attached
    have isOpen := Call.isOpen_of_attached (by simpa using attached)
    rw [gone call current] at isOpen
    cases isOpen
  constructor
  · intro noCall
    exact absurd (inv.unused noCall).2 used
  · intro call current
    rw [nothing, List.append_nil]
    exact (List.prefix_append _ _).trans (inv.within call current)
  · intro call current isAttached
    rw [notAttached call current] at isAttached
    cases isAttached
  · intro call current
    exact inv.detached call current

/-- The dispatcher takes up one more sample of the call. -/
theorem take (inv : StreamInv samples view) {rkyv : Rkyv T E} (sample : Sample)
    (found : view.handler = some rkyv) (idle : view.work = none) :
    StreamInv (samples ++ [sample])
      { view with work := some (.sending (handleSample rkyv sample)) } := by
  cases current : view.call with
  | none =>
      rw [(inv.unused current).1] at found
      cases found
  | some call =>
      have isAttached : call.attached = true := by
        by_contra notAttached
        rw [inv.detached call current (by simpa using notAttached)] at found
        cases found
      have old := inv.attached call current isAttached
      -- The handler is registered, so no sample has ended the call yet.
      have going : Unended (endsCall call.rkyv) samples := by
        by_contra ended
        rw [old.released ended idle] at found
        cases found
      have isCodec : rkyv = call.rkyv := by
        rw [old.registered (Or.inl going)] at found
        cases found
        rfl
      subst isCodec
      have whole : call.received ++ (handleSample call.rkyv sample).events =
          streamReceives call.rkyv (samples ++ [sample]) := by
        have soFar := old.exactly
        rw [idle] at soFar
        rw [streamReceives_snoc_of_unended sample going, ← soFar]
        simp [todo]
      constructor
      · intro noCall
        cases noCall
      · intro other isOther
        cases isOther
        simp only [todo, Work.todo, Option.map_some, Option.getD_some]
        exact ⟨[], by rw [List.append_nil, whole]⟩
      · intro other isOther _
        cases isOther
        constructor
        · simpa [todo, Work.todo] using whole
        · intro _
          exact found
        · intro _ noWork
          cases noWork
        · intro work isWork
          cases isWork
          simp [Work.ends, Lib.unended_append, going, endsCall]
      · intro other isOther notAttached
        cases isOther
        rw [isAttached] at notAttached
        cases notAttached

/-- A sample without a handler changes nothing. -/
theorem skip (inv : StreamInv samples view) (sample : Sample)
    (noHandler : view.handler = none) : StreamInv (samples ++ [sample]) view := by
  constructor
  · exact inv.unused
  · intro call current
    exact (inv.within call current).trans
      (streamReceives_prefix_snoc call.rkyv samples sample)
  · intro call current isAttached
    have old := inv.attached call current isAttached
    have ended : ¬ Unended (endsCall call.rkyv) samples := by
      intro going
      rw [old.registered (Or.inl going)] at noHandler
      cases noHandler
    have idle : view.work = none := by
      by_contra busy
      rw [old.registered (Or.inr busy)] at noHandler
      cases noHandler
    have endedAfter : ¬ Unended (endsCall call.rkyv) (samples ++ [sample]) := by
      intro going
      exact ended (Lib.unended_append.mp going).1
    constructor
    · rw [streamReceives_snoc_of_ended sample ended]
      exact old.exactly
    · rintro (going | busy)
      · exact absurd going endedAfter
      · exact absurd idle busy
    · intro _ _
      exact noHandler
    · intro work working
      rw [idle] at working
      cases working
  · exact inv.detached

/-- The handler of a sample that ended the call releases its entry. -/
theorem release (inv : StreamInv samples view) (working : view.work = some .releasing) :
    StreamInv samples { view with handler := none, work := none } := by
  constructor
  · intro _
    exact ⟨rfl, rfl⟩
  · intro call current
    have within := inv.within call current
    rw [working] at within
    simpa [todo, Work.todo] using within
  · intro call current isAttached
    have old := inv.attached call current isAttached
    have ended := (old.ending .releasing working).mp rfl
    constructor
    · have exactly := old.exactly
      rw [working] at exactly
      simpa [todo, Work.todo] using exactly
    · rintro (going | busy)
      · exact absurd going ended
      · exact absurd rfl busy
    · intro _ _
      rfl
    · intro work isWork
      cases isWork
  · intro call current notAttached
    rfl

end StreamInv

@[simp] theorem sinceRegistered_append (marks : List CallMark) (mark : CallMark) :
    sinceRegistered (marks ++ [mark]) = mark.record (sinceRegistered marks) := by
  simp [sinceRegistered]

theorem Delivery.todo_afterFirst (delivery : Delivery T E) :
    (Work.sending delivery).todo = delivery.event :: todo delivery.afterFirst := by
  unfold Delivery.afterFirst
  cases followUp : delivery.followUp with
  | some event => simp [todo, Work.todo, Delivery.events, followUp]
  | none =>
      cases terminal : delivery.terminal <;>
        simp [todo, Work.todo, Delivery.events, Work.finished, followUp]

/-- A sample that does not end the call leaves no work behind its last event. -/
theorem Work.ends_finished (terminal : Bool) :
    (∀ rest : Work T E, Work.finished terminal = some rest → rest.ends = terminal) ∧
      ((Work.finished terminal : Option (Work T E)) = none → terminal = false) := by
  cases terminal <;> simp [Work.finished, Work.ends]

theorem Delivery.ends_afterFirst (delivery : Delivery T E) :
    (∀ rest, delivery.afterFirst = some rest → rest.ends = delivery.terminal) ∧
      (delivery.afterFirst = none → delivery.terminal = false) := by
  unfold Delivery.afterFirst
  cases followUp : delivery.followUp with
  | some event => simp [Work.ends]
  | none => exact Work.ends_finished delivery.terminal

theorem todo_finished (terminal : Bool) :
    todo (Work.finished terminal : Option (Work T E)) = [] := by
  cases terminal <;> rfl

/-- Every move of a call keeps the invariant. -/
theorem streamInv_moves {marks : List CallMark} {here there : CallView T E}
    {act : CallAction T E} (inv : StreamInv (sinceRegistered marks) here)
    (move : here.Moves act there) :
    StreamInv (sinceRegistered (marks ++ act.mark.toList)) there := by
  cases move with
  | call rkyv header payload fresh =>
      simpa [CallAction.mark, CallMark.record] using
        inv.register rkyv header payload fresh
  | skip sample noHandler =>
      simpa [CallAction.mark, CallMark.record] using inv.skip sample noHandler
  | take sample found idle =>
      simpa [CallAction.mark, CallMark.record] using inv.take sample found idle
  | sendFirst working current isOpen =>
      rename_i call delivery
      obtain ⟨sameEnd, goesOn⟩ := delivery.ends_afterFirst
      simpa [CallAction.mark] using
        inv.accept current working delivery.todo_afterFirst sameEnd goesOn
  | refuseFirst working gone =>
      simpa [CallAction.mark] using inv.refuse gone rfl (by simp [working])
  | sendFollowUp working current isOpen =>
      rename_i call event terminal
      obtain ⟨sameEnd, goesOn⟩ := Work.ends_finished (T := T) (E := E) terminal
      simp only [CallAction.mark, Option.toList_none, List.append_nil]
      apply inv.accept current working _ sameEnd goesOn
      simp [Work.todo, todo_finished]
  | refuseFollowUp working gone =>
      simpa [CallAction.mark] using
        inv.refuse gone (todo_finished _) (by simp [working])
  | release working => simpa [CallAction.mark] using inv.release working
  | attempt met current phase =>
      rename_i call attempts
      simp only [CallAction.mark, Option.toList_none, List.append_nil]
      refine inv.rephase current rfl rfl rfl rfl (Or.inl ⟨?_, rfl⟩)
      simp only [Call.attached, phase]
      rcases (publishAttempt call.header call.payload attempts met).1 with
        _ | (_ | _) <;> rfl
  | giveUp current phase =>
      simp only [CallAction.mark, Option.toList_none, List.append_nil]
      exact inv.rephase current rfl rfl rfl rfl (Or.inr ⟨rfl, rfl⟩)
  | recv current phase waiting =>
      simp only [CallAction.mark, Option.toList_none, List.append_nil]
      refine inv.rephase current rfl rfl ?_ rfl (Or.inl ⟨rfl, rfl⟩)
      simp [Call.received, waiting]
  | drop current phase =>
      simp only [CallAction.mark, Option.toList_some, sinceRegistered_append,
        CallMark.record]
      refine inv.rephase current rfl rfl rfl rfl (Or.inl ⟨?_, rfl⟩)
      simp [Call.attached, phase]
  | cleanup current phase =>
      simp only [CallAction.mark, Option.toList_none, List.append_nil]
      refine inv.rephase current rfl rfl rfl rfl (Or.inr ⟨?_, rfl⟩)
      simp only [Call.attached]
      split_ifs <;> rfl
  | publishCancel header current phase =>
      simp only [CallAction.mark, Option.toList_none, List.append_nil]
      refine inv.rephase current rfl rfl rfl rfl (Or.inl ⟨?_, rfl⟩)
      simp [Call.attached, phase]
  | close current phase =>
      simp only [CallAction.mark, Option.toList_none, List.append_nil]
      refine inv.rephase current rfl rfl rfl rfl (Or.inl ⟨?_, rfl⟩)
      simp [Call.attached, phase]

theorem streamInv_unused : StreamInv [] (CallView.unused : CallView T E) := by
  constructor
  · intro _
    exact ⟨rfl, rfl⟩
  all_goals
    intro call current
    cases current

/-- The invariant holds of every call after every run of the channel. -/
theorem streamInv_run {actions : List (ClientAction T E)} {final : ConsumerPorts T E}
    (cid : CorrelationId)
    (performed : Lib.run ConsumerPorts.step .new actions = some final) :
    StreamInv (ownSamples cid actions) (final.view cid) := by
  have start : StreamInv (sinceRegistered []) ((ConsumerPorts.new).view cid) :=
    streamInv_unused (T := T) (E := E)
  exact call_invariant cid (fun marks here => StreamInv (sinceRegistered marks) here)
    (fun marks here act there inv move => streamInv_moves inv move)
    [] ConsumerPorts.keyed_new start performed

/-! ### What every stream receives -/

/-- The events a call has received, with those the dispatcher still has to send for
the sample at hand, are the normalization of its own samples up to and including
the first that ends it, for as long as the call is attached; a call that was
released has received a first part of them.  A sample counts with the events it
reads back as, and one that does not read back ends the call with one technical
error. -/
theorem stream_receives_own_samples (actions : List (ClientAction T E))
    (final : ConsumerPorts T E)
    (performed : Lib.run ConsumerPorts.step .new actions = some final)
    (cid : CorrelationId) (call : Call T E) (current : final.calls cid = some call) :
    (call.attached = true → call.received ++ todo (final.workFor cid) =
      streamReceives call.rkyv (ownSamples cid actions)) ∧
    call.received <+: streamReceives call.rkyv (ownSamples cid actions) ∧
    (∀ sample events, call.rkyv.readSample sample = .ok events →
      (handleSample call.rkyv sample).events = events ∧
        endsCall call.rkyv sample = events.any Event.isTerminal) ∧
    (∀ sample message, call.rkyv.readSample sample = .error message →
      endsCall call.rkyv sample = true ∧
        ∃ err, (handleSample call.rkyv sample).events = [.error (.technical err)]) := by
  have inv := streamInv_run cid performed
  refine ⟨?_, ?_, ?_, ?_⟩
  · intro isAttached
    exact (inv.attached call current isAttached).exactly
  · exact (List.prefix_append _ _).trans (inv.within call current)
  · intro sample events read
    exact handleSample_of_read read
  · intro sample message unread
    exact handleSample_of_unreadable unread

/-- A call whose second sample does not decode: the stream receives the value and
one technical error, and neither a sample of another call nor a late one counts. -/
theorem stream_receives_undecodable :
    ∃ final call, Lib.run ConsumerPorts.step .new
        [plainCall (idOf 1), .attempt (idOf 1) providerListening,
          responseTo (idOf 1) .next [0, 7], .trySend, responseTo (idOf 2) .next [0, 9],
          responseTo (idOf 1) .error [9], .trySend, .release,
          responseTo (idOf 1) .next [0, 8]] = some final ∧
      final.calls (idOf 1) = some call ∧
      call.received = [.next 7, .error (.technical
        (.transportError "decode response: invalid event"))] := by
  obtain ⟨exactly, -⟩ := stream_receives_own_samples
    [plainCall (idOf 1), .attempt (idOf 1) providerListening,
      responseTo (idOf 1) .next [0, 7], .trySend, responseTo (idOf 2) .next [0, 9],
      responseTo (idOf 1) .error [9], .trySend, .release,
      responseTo (idOf 1) .next [0, 8]] _ rfl (idOf 1) _ rfl
  exact ⟨_, _, rfl, rfl, exactly rfl⟩

end IceRpc
