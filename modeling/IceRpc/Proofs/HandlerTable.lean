/-
Module: IceRpc.Proofs.HandlerTable
Purpose: The life cycle of the consumer's handler table.  Which samples a call has
  published and whether its entry is in the table follow from where its life
  stands, whatever order the caller, the dispatcher and the drop run in.
Trusted boundary: none
Main exports: PublishedInv, publishedInv_run, handler_table_life_cycle
-/
import IceRpc.Proofs.ConsumerStream
import IceRpc.Proofs.Delivery

namespace IceRpc

open Lib (Unended)

variable {T E : Type}
variable {actions : List (ClientAction T E)} {final : ConsumerPorts T E}

/-! ### What a call has published -/

namespace Phase

/-- `native_call` returned `Ok`. -/
def returnedOk : Phase → Bool
  | .live | .dropping _ | .cancelling | .closing | .dropped => true
  | .publishing _ | .refused _ | .failed _ => false

/-- The drop of the stream has begun. -/
def dropBegan : Phase → Bool
  | .dropping _ | .cancelling | .closing | .dropped => true
  | _ => false

/-- The cleanup of the stream is done. -/
def cleanedUp : Phase → Bool
  | .closing | .dropped => true
  | _ => false

/-- The stream exists and its cleanup has not released the handler. -/
def streamAlive : Phase → Bool
  | .live | .dropping _ => true
  | _ => false

theorem ofProgress_returnedOk (progress : Progress) :
    (ofProgress progress).returnedOk = true ↔ progress = .returned (.ok ()) := by
  rcases progress with _ | (_ | _)
  · simp [ofProgress, returnedOk]
  · simp [ofProgress, returnedOk]
  · simp [ofProgress, returnedOk]

theorem ofProgress_not_dropping (progress : Progress) :
    (ofProgress progress).dropBegan = false := by
  rcases progress with _ | (_ | _) <;> rfl

end Phase

theorem delivered_attempt (header : RpcHeader) (payload : Bytes) (attempts : Nat)
    (met : Conditions) :
    delivered header (publishAttempt header payload attempts met).2 =
      if (Phase.ofProgress (publishAttempt header payload attempts met).1).returnedOk
      then [header] else [] := by
  have takers := publishAttempt_takers header payload attempts met
  rw [← Phase.ofProgress_returnedOk] at takers
  unfold delivered
  by_cases taken : (publishAttempt header payload attempts met).2 = []
  · have notOk := (not_congr takers).mp (by simpa using taken)
    simp [taken, notOk]
  · simp [taken, takers.mp taken]

/-- What one id has published, given the record of its call: one request once
`native_call` returned `Ok`, and a Cancel only in the course of the drop. -/
structure PublishedInv (marks : List CallMark) (view : CallView T E) : Prop where
  unused : view.call = none → view.requests = [] ∧ view.cancels = []
  requests : ∀ call, view.call = some call →
    view.requests = if call.phase.returnedOk then [call.header] else []
  cancels : ∀ call, view.call = some call →
    (call.phase.cleanedUp = false → view.cancels = []) ∧ view.cancels.length ≤ 1
  dropped : ∀ call, view.call = some call → call.phase.dropBegan = true →
    CallMark.dropped ∈ marks

namespace PublishedInv

variable {marks : List CallMark} {view next : CallView T E} {call changed : Call T E}

theorem no_cancels (inv : PublishedInv marks view) (current : view.call = some call)
    (notYet : call.phase.cleanedUp = false) : view.cancels = [] :=
  (inv.cancels call current).1 notYet

/-- What is to be shown of an id whose record is known. -/
theorem of_call (isNext : next.call = some changed)
    (requests : next.requests = if changed.phase.returnedOk then [changed.header] else [])
    (noCancels : changed.phase.cleanedUp = false → next.cancels = [])
    (atMostOne : next.cancels.length ≤ 1)
    (dropped : changed.phase.dropBegan = true → CallMark.dropped ∈ marks) :
    PublishedInv marks next := by
  constructor
  · intro noCall
    rw [isNext] at noCall
    cases noCall
  all_goals
    intro other isOther
    cases isNext.symm.trans isOther
  · exact requests
  · exact ⟨noCancels, atMostOne⟩
  · exact dropped

/-- A change of the call that publishes nothing. -/
theorem rephase (inv : PublishedInv marks view) {more : List CallMark}
    (current : view.call = some call) (isNext : next.call = some changed)
    (sameHeader : changed.header = call.header)
    (sameRequests : next.requests = view.requests)
    (sameCancels : next.cancels = view.cancels)
    (sameOk : changed.phase.returnedOk = call.phase.returnedOk)
    (cleaned : changed.phase.cleanedUp = false → call.phase.cleanedUp = false)
    (marked : changed.phase.dropBegan = true →
      call.phase.dropBegan = true ∨ CallMark.dropped ∈ more) :
    PublishedInv (marks ++ more) next := by
  apply of_call isNext
  · rw [sameRequests, sameOk, sameHeader]
    exact inv.requests call current
  · intro notYet
    rw [sameCancels]
    exact inv.no_cancels current (cleaned notYet)
  · rw [sameCancels]
    exact (inv.cancels call current).2
  · intro began
    rcases marked began with before | now
    · exact List.mem_append_left more (inv.dropped call current before)
    · exact List.mem_append_right marks now

/-- A move that touches neither the call nor what it published. -/
theorem untouched (inv : PublishedInv marks view) {more : List CallMark}
    (sameCall : next.call = view.call) (sameRequests : next.requests = view.requests)
    (sameCancels : next.cancels = view.cancels) :
    PublishedInv (marks ++ more) next := by
  constructor
  · rw [sameCall, sameRequests, sameCancels]
    exact inv.unused
  · rw [sameCall, sameRequests]
    exact inv.requests
  · rw [sameCall, sameCancels]
    exact inv.cancels
  · intro call current began
    rw [sameCall] at current
    exact List.mem_append_left more (inv.dropped call current began)

end PublishedInv

/-- Every move of a call keeps the invariant. -/
theorem publishedInv_moves {marks : List CallMark} {here there : CallView T E}
    {act : CallAction T E} (inv : PublishedInv marks here)
    (move : here.Moves act there) :
    PublishedInv (marks ++ act.mark.toList) there := by
  cases move with
  | call rkyv header payload fresh =>
      obtain ⟨noRequests, noCancels⟩ := inv.unused fresh
      apply PublishedInv.of_call rfl
      · exact noRequests
      · exact fun _ => noCancels
      · simp [noCancels]
      · intro began
        cases began
  | skip sample noHandler => exact inv.untouched rfl rfl rfl
  | take sample found idle => exact inv.untouched rfl rfl rfl
  | refuseFirst working gone => exact inv.untouched rfl rfl rfl
  | refuseFollowUp working gone => exact inv.untouched rfl rfl rfl
  | release working => exact inv.untouched rfl rfl rfl
  | sendFirst working current isOpen =>
      exact inv.rephase current rfl rfl rfl rfl rfl id Or.inl
  | sendFollowUp working current isOpen =>
      exact inv.rephase current rfl rfl rfl rfl rfl id Or.inl
  | recv current phase waiting =>
      exact inv.rephase current rfl rfl rfl rfl rfl id Or.inl
  | attempt met current phase =>
      rename_i call attempts
      have soFar := inv.requests call current
      rw [phase] at soFar
      have noCancels := inv.no_cancels current (by rw [phase]; rfl)
      apply PublishedInv.of_call rfl
      · rw [soFar, delivered_attempt]
        rfl
      · exact fun _ => noCancels
      · simp [noCancels]
      · intro began
        rw [Phase.ofProgress_not_dropping] at began
        cases began
  | giveUp current phase =>
      refine inv.rephase current rfl rfl rfl rfl ?_ ?_ ?_
      · rw [phase]
        rfl
      · intro _
        rw [phase]
        rfl
      · intro began
        cases began
  | drop current phase =>
      refine inv.rephase current rfl rfl rfl rfl ?_ ?_ ?_
      · rw [phase]
        rfl
      · intro _
        rw [phase]
        rfl
      · intro _
        exact Or.inr (List.mem_singleton.mpr rfl)
  | cleanup current phase =>
      rename_i call terminated
      refine inv.rephase current rfl rfl rfl rfl ?_ ?_ ?_
      · rw [phase]
        dsimp only
        split_ifs <;> rfl
      · intro _
        rw [phase]
        rfl
      · intro _
        refine Or.inl ?_
        rw [phase]
        rfl
  | publishCancel header current phase =>
      rename_i call
      have soFar := inv.requests call current
      rw [phase] at soFar
      have noCancels := inv.no_cancels current (by rw [phase]; rfl)
      apply PublishedInv.of_call rfl
      · exact soFar
      · intro notYet
        cases notYet
      · simp [noCancels]
      · intro _
        apply List.mem_append_left
        exact inv.dropped call current (by rw [phase]; rfl)
  | close current phase =>
      refine inv.rephase current rfl rfl rfl rfl ?_ ?_ ?_
      · rw [phase]
        rfl
      · intro notYet
        cases notYet
      · intro _
        refine Or.inl ?_
        rw [phase]
        rfl

/-- The invariant holds of every call after every run of the channel. -/
theorem publishedInv_run (cid : CorrelationId)
    (performed : Lib.run ConsumerPorts.step .new actions = some final) :
    PublishedInv (actions.filterMap (ClientAction.mark cid)) (final.view cid) := by
  have start : PublishedInv [] ((ConsumerPorts.new : ConsumerPorts T E).view cid) := by
    constructor
    · intro _
      exact ⟨rfl, rfl⟩
    all_goals
      intro call current
      cases current
  exact call_invariant cid PublishedInv
    (fun marks here act there inv move => publishedInv_moves inv move)
    [] ConsumerPorts.keyed_new start performed

theorem keyed_run (performed : Lib.run ConsumerPorts.step .new actions = some final) :
    final.Keyed :=
  Lib.run_invariant ConsumerPorts.Keyed ConsumerPorts.keyed_new
    (fun _ _ _ keyed stepped => ConsumerPorts.keyed_step keyed stepped) performed

/-! ### A failed call -/

/-- `native_call` returned this error for the id. -/
def Failed (err : RpcError) (view : CallView T E) : Prop :=
  ∃ call, view.call = some call ∧ call.phase = .failed err

/-- A failed call stays failed: no move of it is left that touches the call. -/
theorem failed_moves {err : RpcError} {here there : CallView T E}
    {act : CallAction T E} (failed : Failed err here) (move : here.Moves act there) :
    Failed err there := by
  obtain ⟨call, current, phase⟩ := failed
  have notOpen : call.isOpen = false := by simp [Call.isOpen, phase]
  cases move with
  | call rkyv header payload fresh =>
      rw [current] at fresh
      cases fresh
  | skip sample noHandler => exact ⟨call, current, phase⟩
  | take sample found idle => exact ⟨call, current, phase⟩
  | refuseFirst working gone => exact ⟨call, current, phase⟩
  | refuseFollowUp working gone => exact ⟨call, current, phase⟩
  | release working => exact ⟨call, current, phase⟩
  | sendFirst working same isOpen =>
      cases current.symm.trans same
      rw [notOpen] at isOpen
      cases isOpen
  | sendFollowUp working same isOpen =>
      cases current.symm.trans same
      rw [notOpen] at isOpen
      cases isOpen
  | attempt met same other =>
      cases current.symm.trans same
      cases phase.symm.trans other
  | giveUp same other =>
      cases current.symm.trans same
      cases phase.symm.trans other
  | recv same other waiting =>
      cases current.symm.trans same
      cases phase.symm.trans other
  | drop same other =>
      cases current.symm.trans same
      cases phase.symm.trans other
  | cleanup same other =>
      cases current.symm.trans same
      cases phase.symm.trans other
  | publishCancel header same other =>
      cases current.symm.trans same
      cases phase.symm.trans other
  | close same other =>
      cases current.symm.trans same
      cases phase.symm.trans other

/-- Once `native_call` returned `Err`, no run publishes anything for its id. -/
theorem failed_publishes_nothing {later : List (ClientAction T E)} {middle : ConsumerPorts T E}
    {cid : CorrelationId} {err : RpcError}
    (performed : Lib.run ConsumerPorts.step .new actions = some middle)
    (failed : Failed err (middle.view cid))
    (continued : Lib.run ConsumerPorts.step middle later = some final) :
    ConsumerPorts.ofCall cid final.requests = [] ∧
      ConsumerPorts.ofCall cid final.cancels = [] := by
  obtain ⟨call, current, phase⟩ := call_invariant cid (fun _ here => Failed err here)
    (fun _ _ _ _ stillFailed move => failed_moves stillFailed move)
    [] (keyed_run performed) failed continued
  have whole := Lib.run_append_eq_some.mpr ⟨middle, performed, continued⟩
  have inv := publishedInv_run cid whole
  constructor
  · have requests := inv.requests call current
    rw [phase] at requests
    exact requests
  · exact inv.no_cancels current (by rw [phase]; rfl)

/-! ### The table -/

/-- After `Ok`, the entry is held for as long as the stream is alive. -/
theorem attached_eq_streamAlive {call : Call T E}
    (returned : call.phase.returnedOk = true) :
    call.attached = call.phase.streamAlive := by
  unfold Call.attached
  cases phase : call.phase <;> simp_all [Phase.returnedOk, Phase.streamAlive]

/-- The entry of a call whose stream exists is in the table exactly while no sample
that ends the call was handled to its end and the stream is alive. -/
theorem registered_iff {cid : CorrelationId} {call : Call T E}
    (performed : Lib.run ConsumerPorts.step .new actions = some final)
    (current : final.calls cid = some call) (returned : call.phase.returnedOk = true) :
    final.handlers cid ≠ none ↔
      (Unended (endsCall call.rkyv) (ownSamples cid actions) ∨
        final.workFor cid ≠ none) ∧ call.phase.streamAlive = true := by
  have inv := streamInv_run cid performed
  rw [← attached_eq_streamAlive returned]
  by_cases attached : call.attached = true
  · have state := inv.attached call current attached
    simp only [attached, and_true]
    constructor
    · intro registered
      by_contra finished
      rw [not_or, not_not] at finished
      exact registered (state.released finished.1 finished.2)
    · intro working
      have entry : final.handlers cid = some call.rkyv := state.registered working
      rw [entry]
      exact Option.some_ne_none _
  · have released : final.handlers cid = none :=
      inv.detached call current (by simpa using attached)
    simp [released, attached]

theorem drop_mem_of_mark {cid : CorrelationId}
    (marked : CallMark.dropped ∈ actions.filterMap (ClientAction.mark cid)) :
    ClientAction.drop cid ∈ actions := by
  obtain ⟨action, member, isDrop⟩ := List.mem_filterMap.mp marked
  cases action with
  | drop id =>
      simp only [ClientAction.mark, Option.ite_none_right_eq_some] at isDrop
      rw [← isDrop.1]
      exact member
  | call id =>
      simp only [ClientAction.mark, Option.ite_none_right_eq_some] at isDrop
      cases isDrop.2
  | sample header payload =>
      simp only [ClientAction.mark, Option.ite_none_right_eq_some] at isDrop
      cases isDrop.2
  | _ => cases isDrop

/-- The life cycle of an entry of the handler table, in every state of every run. -/
theorem handler_table_life_cycle (actions : List (ClientAction T E))
    (final : ConsumerPorts T E)
    (performed : Lib.run ConsumerPorts.step .new actions = some final)
    (cid : CorrelationId) (call : Call T E) (current : final.calls cid = some call) :
    -- `native_call` returned `Err`.
    (∀ err, call.phase = .failed err →
      final.handlers cid = none ∧
      ∀ later after, Lib.run ConsumerPorts.step final later = some after →
        ConsumerPorts.ofCall cid after.requests = [] ∧
          ConsumerPorts.ofCall cid after.cancels = []) ∧
    -- `native_call` returned `Ok`.
    (call.phase.returnedOk = true →
      ConsumerPorts.ofCall cid final.requests = [call.header] ∧
      (final.handlers cid ≠ none ↔
        (Unended (endsCall call.rkyv) (ownSamples cid actions) ∨
          final.workFor cid ≠ none) ∧ call.phase.streamAlive = true)) ∧
    (ConsumerPorts.ofCall cid final.cancels).length ≤ 1 ∧
    (ConsumerPorts.ofCall cid final.cancels ≠ [] →
      ClientAction.drop cid ∈ actions) := by
  have published := publishedInv_run cid performed
  refine ⟨?_, ?_, (published.cancels call current).2, ?_⟩
  · intro err failed
    constructor
    · apply (streamInv_run cid performed).detached call current
      simp [Call.attached, failed]
    · intro later after continued
      exact failed_publishes_nothing performed ⟨call, current, failed⟩ continued
  · intro returned
    refine ⟨?_, registered_iff performed current returned⟩
    have requests := published.requests call current
    rw [returned] at requests
    exact requests
  · intro cancelled
    apply drop_mem_of_mark
    apply published.dropped call current
    -- Only a call whose cleanup is done can have a Cancel.
    have cleaned : call.phase.cleanedUp = true := by
      by_contra notYet
      exact cancelled (published.no_cancels current (by simpa using notYet))
    cases phase : call.phase <;> simp_all [Phase.cleanedUp, Phase.dropBegan]

/-- A call no provider takes fails without a trace, and a dropped one is cancelled
once. -/
theorem handler_table_two_calls :
    ∃ final, Lib.run ConsumerPorts.step .new
        [plainCall (idOf 1), plainCall (idOf 2), .attempt (idOf 1) nobodyListening,
          .attempt (idOf 2) providerListening, .giveUp (idOf 1), .drop (idOf 2),
          .cleanup (idOf 2), .publishCancel (idOf 2) 0, .close (idOf 2)] =
          some final ∧
      final.handlers (idOf 1) = none ∧
      ConsumerPorts.ofCall (idOf 1) final.requests = [] ∧
      (ConsumerPorts.ofCall (idOf 2) final.requests).length = 1 ∧
      (ConsumerPorts.ofCall (idOf 2) final.cancels).length = 1 := by
  obtain ⟨failed, -⟩ := handler_table_life_cycle
    [plainCall (idOf 1), plainCall (idOf 2), .attempt (idOf 1) nobodyListening,
      .attempt (idOf 2) providerListening, .giveUp (idOf 1), .drop (idOf 2),
      .cleanup (idOf 2), .publishCancel (idOf 2) 0, .close (idOf 2)] _ rfl (idOf 1) _ rfl
  obtain ⟨released, nothing⟩ := failed _ rfl
  exact ⟨_, rfl, released, (nothing [] _ rfl).1, rfl, rfl⟩

end IceRpc
