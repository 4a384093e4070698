/-
Module: IceRpc.Proofs.RemoteCancel
Purpose: When the drop of an answered call publishes a Cancel.  The dispatcher
  delivers the terminal sample in several steps and releases the handler last; a
  drop that falls in between still finds the call in flight.
Trusted boundary: none
Main exports: Uncancellable, answered_not_cancelled_iff
-/
import IceRpc.Proofs.HandlerTable

namespace IceRpc

open Lib (Unended)

variable {T E : Type}

/-! ### A drop that will not cancel -/

/-- The drop of the stream has begun, or is over, and will publish no Cancel: it
read a terminal event, or the entry of the call is gone. -/
def Uncancellable (view : CallView T E) : Prop :=
  view.cancels = [] ∧ ∃ call, view.call = some call ∧
    ((∃ terminated, call.phase = .dropping terminated ∧
      (terminated = true ∨ view.handler = none)) ∨
    call.phase = .closing ∨ call.phase = .dropped)

theorem Uncancellable.of_same {here there : CallView T E} {call changed : Call T E}
    (safe : Uncancellable here) (current : here.call = some call)
    (isNext : there.call = some changed) (samePhase : changed.phase = call.phase)
    (sameCancels : there.cancels = here.cancels)
    (entry : here.handler = none → there.handler = none) : Uncancellable there := by
  obtain ⟨noCancel, other, isOther, phase⟩ := safe
  cases current.symm.trans isOther
  refine ⟨sameCancels.trans noCancel, changed, isNext, ?_⟩
  rw [samePhase]
  rcases phase with ⟨terminated, dropping, reason⟩ | past
  · exact Or.inl ⟨terminated, dropping, reason.imp_right entry⟩
  · exact Or.inr past

/-- No move of the call makes such a drop publish a Cancel. -/
theorem uncancellable_moves {here there : CallView T E} {act : CallAction T E}
    (safe : Uncancellable here) (move : here.Moves act there) :
    Uncancellable there := by
  obtain ⟨noCancel, call, current, phase⟩ := id safe
  cases move with
  | call rkyv header payload fresh =>
      rw [current] at fresh
      cases fresh
  | skip sample noHandler => exact safe
  | take sample found idle => exact safe.of_same current current rfl rfl id
  | refuseFirst working gone => exact safe.of_same current current rfl rfl id
  | refuseFollowUp working gone => exact safe.of_same current current rfl rfl id
  | release working =>
      exact safe.of_same current current rfl rfl fun _ => rfl
  | sendFirst working same isOpen => exact safe.of_same same rfl rfl rfl id
  | sendFollowUp working same isOpen => exact safe.of_same same rfl rfl rfl id
  | recv same live waiting => exact safe.of_same same rfl rfl rfl id
  | attempt met same other =>
      cases current.symm.trans same
      simp [other] at phase
  | giveUp same other =>
      cases current.symm.trans same
      simp [other] at phase
  | drop same other =>
      cases current.symm.trans same
      simp [other] at phase
  | publishCancel header same other =>
      cases current.symm.trans same
      simp [other] at phase
  | cleanup same other =>
      rename_i terminated
      cases current.symm.trans same
      refine ⟨noCancel, _, rfl, Or.inr (Or.inl ?_)⟩
      rcases phase with ⟨flag, dropping, reason⟩ | closing | dropped
      · cases other.symm.trans dropping
        rcases reason with isTerminated | released
        · simp [isTerminated]
        · simp [released]
      · cases other.symm.trans closing
      · cases other.symm.trans dropped
  | close same other =>
      exact ⟨noCancel, _, rfl, Or.inr (Or.inr rfl)⟩

/-! ### A drop inside the delivery of the terminal sample -/

/-- Dropping a live stream whose entry is still registered and which has read no
terminal event publishes a Cancel, if the cleanup follows at once. -/
theorem drop_cancels {ports : ConsumerPorts T E} {cid : CorrelationId}
    {call : Call T E} {rkyv : Rkyv T E} (keyed : ports.Keyed)
    (current : ports.calls cid = some call) (live : call.phase = .live)
    (unread : call.terminated = false) (registered : ports.handlers cid = some rkyv) :
    ∃ final, Lib.run ConsumerPorts.step ports
        [.drop cid, .cleanup cid, .publishCancel cid 0] = some final ∧
      ConsumerPorts.ofCall cid final.cancels ≠ [] := by
  have dropped : ports.step (.drop cid) =
      some (ports.setCall cid { call with phase := .dropping false }) := by
    simp [ConsumerPorts.step, ConsumerPorts.drop, current, live, unread]
  let cleaned := ((ports.setCall cid { call with phase := .dropping false }).releaseHandler
    cid).1.setCall cid { call with phase := .cancelling }
  have cleanedUp : (ports.setCall cid { call with phase := .dropping false }).step
      (.cleanup cid) = some cleaned := by
    simp [ConsumerPorts.step, ConsumerPorts.cleanup, ConsumerPorts.setCall,
      ConsumerPorts.releaseHandler, registered, cleaned]
  have cancelled : ∃ final, cleaned.step (.publishCancel cid 0) = some final ∧
      final.cancels = ports.cancels ++ [ports.cancelHeader call 0] := by
    refine ⟨{ cleaned.setCall cid { call with phase := .closing } with
      seq := ports.seq + 1
      cancels := ports.cancels ++ [ports.cancelHeader call 0] }, ?_, rfl⟩
    simp [ConsumerPorts.step, ConsumerPorts.publishCancel, ConsumerPorts.setCall,
      ConsumerPorts.releaseHandler, ConsumerPorts.cancelHeader, cleaned]
  obtain ⟨final, published, log⟩ := cancelled
  refine ⟨final, ?_, ?_⟩
  · simp [dropped, cleanedUp, published]
  · have own : (ports.cancelHeader call 0).correlationId = cid := keyed cid call current
    rw [log, ConsumerPorts.ofCall_append]
    simp [ConsumerPorts.ofCall, own]

/-! ### Answered calls -/

/-- Take a live stream whose terminal sample the dispatcher has taken up.  No run
that now drops it publishes a Cancel for the call exactly when the consumer has
read the terminal event or the dispatcher is done with the sample. -/
theorem answered_not_cancelled_iff (actions : List (ClientAction T E))
    (ports : ConsumerPorts T E)
    (performed : Lib.run ConsumerPorts.step .new actions = some ports)
    (cid : CorrelationId) (call : Call T E) (current : ports.calls cid = some call)
    (live : call.phase = .live)
    (answered : ¬ Unended (endsCall call.rkyv) (ownSamples cid actions)) :
    (∀ later final,
      Lib.run ConsumerPorts.step ports (.drop cid :: later) = some final →
      ConsumerPorts.ofCall cid final.cancels = []) ↔
    (call.terminated = true ∨ ports.workFor cid = none) := by
  have attached : call.attached = true := by simp [Call.attached, live]
  have stream := (streamInv_run cid performed).attached call current attached
  have keyed := keyed_run performed
  constructor
  · intro never
    by_contra race
    rw [not_or] at race
    obtain ⟨unread, busy⟩ := race
    obtain ⟨final, cancelled, log⟩ := drop_cancels keyed current live
      (by simpa using unread) (stream.registered (Or.inr busy))
    exact log (never _ final cancelled)
  · intro safe later final continued
    obtain ⟨next, dropped, rest⟩ := Option.bind_eq_some_iff.mp continued
    have keyedNext := ConsumerPorts.keyed_step keyed dropped
    have noCancel := (publishedInv_run cid performed).no_cancels current
      (by rw [live]; rfl)
    have start : Uncancellable (next.view cid) := by
      have move := ConsumerPorts.step_moves keyed dropped
        (by simp [ConsumerPorts.label] : ports.label cid (.drop cid) = some .drop)
      generalize next.view cid = there at move
      cases move with
      | drop same isLive =>
          cases current.symm.trans same
          refine ⟨noCancel, _, rfl, Or.inl ⟨call.terminated, rfl, ?_⟩⟩
          exact safe.imp_right fun idle => stream.released answered idle
    exact (call_invariant cid (fun _ here => Uncancellable here)
      (fun _ _ _ _ still move => uncancellable_moves still move)
      [] keyedNext start rest).1

/-- A consumer that reads both events of a folded sample before it drops its stream
publishes no Cancel, though the dispatcher has not released the handler yet. -/
theorem answered_not_cancelled_read :
    ∃ ports, Lib.run ConsumerPorts.step .new
        [plainCall (idOf 1), .attempt (idOf 1) providerListening,
          responseTo (idOf 1) .complete [2, 7], .trySend, .trySend,
          .recv (idOf 1), .recv (idOf 1)] = some ports ∧
      ∀ later final,
        Lib.run ConsumerPorts.step ports (.drop (idOf 1) :: later) = some final →
        ConsumerPorts.ofCall (idOf 1) final.cancels = [] := by
  refine ⟨_, rfl, ?_⟩
  apply (answered_not_cancelled_iff
    [plainCall (idOf 1), .attempt (idOf 1) providerListening,
      responseTo (idOf 1) .complete [2, 7], .trySend, .trySend,
      .recv (idOf 1), .recv (idOf 1)] _ rfl (idOf 1) _ rfl rfl (by decide)).mpr
  exact Or.inl rfl

/-- A consumer that reads the value of a folded sample and drops its stream before
the completion behind it was sent cancels a call the provider has answered. -/
theorem answered_cancelled_race :
    ∃ call ports final, Lib.run ConsumerPorts.step .new
        [plainCall (idOf 1), .attempt (idOf 1) providerListening,
          responseTo (idOf 1) .complete [2, 7], .trySend, .recv (idOf 1)] =
          some ports ∧
      ports.calls (idOf 1) = some call ∧
      ¬ Unended (endsCall call.rkyv) (ownSamples (idOf 1)
        [plainCall (idOf 1), .attempt (idOf 1) providerListening,
          responseTo (idOf 1) .complete [2, 7], .trySend, .recv (idOf 1)]) ∧
      Lib.run ConsumerPorts.step ports
        [.drop (idOf 1), .cleanup (idOf 1), .publishCancel (idOf 1) 0] = some final ∧
      (ConsumerPorts.ofCall (idOf 1) final.cancels).length = 1 := by
  exact ⟨_, _, _, rfl, rfl, by decide, rfl, rfl⟩

end IceRpc
