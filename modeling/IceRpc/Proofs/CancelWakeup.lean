/-
Module: IceRpc.Proofs.CancelWakeup
Purpose: No lost wake-up.  Over every interleaving of `cancel` calls and polls, a waker
  a poll answered Pending with is woken exactly once by the cancellation.
Trusted boundary: none
Main exports: Stage, Stage.cancel_step, Stage.register, Waiter.Covered,
  TokenSystem.Covered, cancellation_wakes_every_waiter
-/
import IceRpc.Lib.Run
import IceRpc.Rt.Cancel
import Mathlib.Data.List.Nodup

namespace IceRpc

open Function (update update_of_ne update_self)

open Lib

variable {W : Type}

/-! ### Registration -/

namespace CancellationToken

variable [DecidableEq W] (token : CancellationToken W) (waker : W)

@[simp] theorem register_cancelled :
    (token.register waker).cancelled = token.cancelled := by
  unfold register
  split <;> rfl

theorem wakers_subset_register : token.wakers ⊆ (token.register waker).wakers := by
  unfold register
  split
  · exact List.Subset.refl _
  · exact List.subset_append_left _ _

theorem mem_register : waker ∈ (token.register waker).wakers := by
  unfold register
  split
  · assumption
  · simp

theorem register_nodup (distinct : token.wakers.Nodup) :
    (token.register waker).wakers.Nodup := by
  unfold register
  split
  · exact distinct
  · rename_i fresh
    exact List.nodup_append.mpr ⟨distinct, List.nodup_singleton waker, by
      intro first here second single
      rw [List.mem_singleton.mp single]
      exact ne_of_mem_of_not_mem here fresh⟩

end CancellationToken

/-! ### How far the cancellation has come -/

namespace CancelCall

/-- The call has not begun, or it has returned. -/
def Settled (call : CancelCall W) : Prop := call = .swapping ∨ call = .returned

/-- The call has yet to wake the waker. -/
def Owes (token : CancellationToken W) (waker : W) : CancelCall W → Prop
  | .taking => waker ∈ token.wakers
  | .waking left => waker ∈ left
  | .swapping => False
  | .returned => False

/-- Once the token is cancelled, a later call returns at its swap. -/
theorem Settled.step_cancelled {call after : CancelCall W}
    {token next : CancellationToken W} {woke : Option W} (settled : call.Settled)
    (set : token.cancelled = true) (performed : call.step token = some (next, after, woke)) :
    next = token ∧ after = .returned ∧ woke = none := by
  rcases settled with rfl | rfl
  · simp only [step, set, if_true] at performed
    cases performed
    exact ⟨rfl, rfl, rfl⟩
  · cases performed

theorem Settled.not_owes {call : CancelCall W} {token : CancellationToken W} {waker : W}
    (settled : call.Settled) : ¬ call.Owes token waker := by
  rcases settled with rfl | rfl <;> exact id

/-- No step of a call clears the flag. -/
theorem unset_of_step {call after : CancelCall W} {token next : CancellationToken W}
    {woke : Option W} (performed : call.step token = some (next, after, woke))
    (unset : next.cancelled = false) : token.cancelled = false := by
  cases call with
  | swapping =>
      simp only [step] at performed
      split at performed
      · cases performed
        exact unset
      · cases performed
        cases unset
  | taking =>
      cases performed
      exact unset
  | waking left =>
      cases left <;> cases performed <;> exact unset
  | returned => cases performed

/-- A step of one call leaves the others as settled as they were. -/
theorem settled_update_of_others {cancels : Nat → CancelCall W} {c : Nat}
    (others : ∀ d, d ≠ c → (cancels d).Settled) (after : CancelCall W) :
    ∀ d, d ≠ c → (update cancels c after d).Settled := by
  intro d other
  rw [update_of_ne other]
  exact others d other

theorem Settled.update {cancels : Nat → CancelCall W} {d : Nat} (c : Nat)
    (settled : (cancels d).Settled) :
    (update cancels c .returned d).Settled := by
  rcases eq_or_ne d c with rfl | other
  · rw [update_self]
    exact Or.inr rfl
  · rwa [update_of_ne other]

end CancelCall

/-- The stages of a cancellation.  The last index is the pool: the wakers the
cancellation has woken or is going to wake.  Only the first call to swap the flag ever
takes the list, so there is one pool and it is woken front to back. -/
inductive Stage (token : CancellationToken W) (cancels : Nat → CancelCall W) :
    List W → List W → Prop
  | fresh (unset : token.cancelled = false) (idle : ∀ c, cancels c = .swapping)
      (distinct : token.wakers.Nodup) : Stage token cancels [] token.wakers
  | fired (first : Nat) (set : token.cancelled = true)
      (current : cancels first = .taking)
      (others : ∀ d, d ≠ first → (cancels d).Settled)
      (distinct : token.wakers.Nodup) : Stage token cancels [] token.wakers
  | waking (first : Nat) (woken left : List W) (set : token.cancelled = true)
      (current : cancels first = .waking left)
      (others : ∀ d, d ≠ first → (cancels d).Settled)
      (distinct : (woken ++ left).Nodup) : Stage token cancels woken (woken ++ left)
  | finished (woken : List W) (set : token.cancelled = true)
      (settled : ∀ c, (cancels c).Settled)
      (distinct : woken.Nodup) : Stage token cancels woken woken

namespace Stage

variable {token next : CancellationToken W} {cancels : Nat → CancelCall W}
  {woken pool : List W}

/-- A step of the first call carries the cancellation on, a step of another call
changes nothing, and neither loses a waker of the pool. -/
theorem cancel_step (stage : Stage token cancels woken pool) {c : Nat}
    {call : CancelCall W} {woke : Option W}
    (performed : (cancels c).step token = some (next, call, woke)) :
    Stage next (update cancels c call) (woken ++ woke.toList) pool := by
  cases stage with
  | fresh unset idle distinct =>
      rw [idle c] at performed
      simp only [CancelCall.step, unset] at performed
      cases performed
      apply Stage.fired c rfl
      · exact update_self ..
      · exact CancelCall.settled_update_of_others (fun d _ => Or.inl (idle d)) _
      · exact distinct
  | fired first set current others distinct =>
      rcases eq_or_ne c first with rfl | later
      · rw [current] at performed
        cases performed
        apply Stage.waking c [] token.wakers
        · exact set
        · exact update_self ..
        · exact CancelCall.settled_update_of_others others _
        · exact distinct
      · obtain ⟨rfl, rfl, rfl⟩ := (others c later).step_cancelled set performed
        apply Stage.fired first set
        · rwa [update_of_ne later.symm]
        · intro d other
          exact (others d other).update c
        · exact distinct
  | waking first woken left set current others distinct =>
      rcases eq_or_ne c first with rfl | later
      · rw [current] at performed
        cases left with
        | nil =>
            cases performed
            simp only [Option.toList_none, List.append_nil] at distinct ⊢
            apply Stage.finished woken set
            · intro d
              rcases eq_or_ne d c with rfl | other
              · rw [update_self]
                exact Or.inr rfl
              · exact (others d other).update c
            · exact distinct
        | cons waker left =>
            cases performed
            have regroup : woken ++ waker :: left = woken ++ [waker] ++ left := by simp
            rw [regroup] at distinct ⊢
            apply Stage.waking c (woken ++ [waker]) left set
            · exact update_self ..
            · exact CancelCall.settled_update_of_others others _
            · exact distinct
      · obtain ⟨rfl, rfl, rfl⟩ := (others c later).step_cancelled set performed
        rw [Option.toList_none, List.append_nil]
        apply Stage.waking first woken left set
        · rwa [update_of_ne later.symm]
        · intro d other
          exact (others d other).update c
        · exact distinct
  | finished woken set settled distinct =>
      obtain ⟨rfl, rfl, rfl⟩ := (settled c).step_cancelled set performed
      rw [Option.toList_none, List.append_nil]
      apply Stage.finished woken set
      · intro d
        exact (settled d).update c
      · exact distinct

/-- A registration before the list is taken adds to the pool; a later one does not
touch it.  While the token is not cancelled the registered waker is in the pool. -/
theorem register [DecidableEq W] (stage : Stage token cancels woken pool) (waker : W) :
    ∃ grown, Stage (token.register waker) cancels woken grown ∧ pool ⊆ grown ∧
      (token.cancelled = false → waker ∈ grown) := by
  cases stage with
  | fresh unset idle distinct =>
      refine ⟨(token.register waker).wakers, ?_, token.wakers_subset_register waker, ?_⟩
      · apply Stage.fresh
        · rw [CancellationToken.register_cancelled, unset]
        · exact idle
        · exact token.register_nodup waker distinct
      · intro _
        exact token.mem_register waker
  | fired first set current others distinct =>
      refine ⟨(token.register waker).wakers, ?_, token.wakers_subset_register waker, ?_⟩
      · apply Stage.fired first
        · rw [CancellationToken.register_cancelled, set]
        · exact current
        · exact others
        · exact token.register_nodup waker distinct
      · intro _
        exact token.mem_register waker
  | waking first woken left set current others distinct =>
      refine ⟨woken ++ left, ?_, List.Subset.refl _, ?_⟩
      · apply Stage.waking first woken left
        · rw [CancellationToken.register_cancelled, set]
        · exact current
        · exact others
        · exact distinct
      · simp [set]
  | finished woken set settled distinct =>
      refine ⟨woken, ?_, List.Subset.refl _, ?_⟩
      · apply Stage.finished woken
        · rw [CancellationToken.register_cancelled, set]
        · exact settled
        · exact distinct
      · simp [set]

/-- Before the cancellation the pool is the waker list. -/
theorem mem_wakers (stage : Stage token cancels woken pool) {waker : W}
    (member : waker ∈ pool) : waker ∈ token.wakers ∨ token.cancelled = true := by
  cases stage with
  | fresh => exact Or.inl member
  | fired first set => exact Or.inr set
  | waking first woken left set => exact Or.inr set
  | finished woken set => exact Or.inr set

/-- Once the token is cancelled, a waker of the pool has been woken, or the first call
is still going to wake it. -/
theorem woken_or_owed (stage : Stage token cancels woken pool)
    (set : token.cancelled = true) {waker : W} (member : waker ∈ pool) :
    waker ∈ woken ∨ ∃ c, (cancels c).Owes token waker := by
  cases stage with
  | fresh unset =>
      rw [unset] at set
      cases set
  | fired first _ current =>
      refine Or.inr ⟨first, ?_⟩
      rw [current]
      exact member
  | waking first woken left _ current =>
      rcases List.mem_append.mp member with already | later
      · exact Or.inl already
      · refine Or.inr ⟨first, ?_⟩
        rw [current]
        exact later
  | finished => exact Or.inl member

/-- No waker is woken twice. -/
theorem woken_nodup (stage : Stage token cancels woken pool) : woken.Nodup := by
  cases stage with
  | fresh => exact List.nodup_nil
  | fired => exact List.nodup_nil
  | waking first woken left _ _ _ distinct => exact distinct.of_append_left
  | finished woken _ _ distinct => exact distinct

/-- When a call has returned, the token is cancelled. -/
theorem cancelled_of_returned (stage : Stage token cancels woken pool) {c : Nat}
    (returned : cancels c = .returned) : token.cancelled = true := by
  cases stage with
  | fresh unset idle =>
      rw [idle c] at returned
      cases returned
  | fired first set => exact set
  | waking first woken left set => exact set
  | finished woken set => exact set

end Stage

/-! ### What a task relies on -/

/-- Every waker the task counts on is in the pool: those it was answered Pending with,
the one it cached, and the one it registered and has not confirmed yet, unless the
second flag read is going to tell it that the token is cancelled. -/
structure Waiter.Covered (token : CancellationToken W) (pool : List W)
    (task : Waiter W) : Prop where
  pended : ∀ waker, (waker, Poll.pending) ∈ task.answers → waker ∈ pool
  cached : ∀ waker, task.registered = some waker → waker ∈ pool
  confirmed : ∀ waker cached, task.point = .secondRead waker cached →
    token.cancelled = false → waker ∈ pool

namespace Waiter.Covered

variable {token next : CancellationToken W} {pool grown : List W} {task : Waiter W}

theorem new : (Waiter.new : Waiter W).Covered token pool where
  pended := by simp [Waiter.new]
  cached := by simp [Waiter.new]
  confirmed := by simp [Waiter.new]

/-- The pool may grow and the token may be cancelled under the task. -/
theorem mono (covered : task.Covered token pool) (subset : pool ⊆ grown)
    (unset : next.cancelled = false → token.cancelled = false) :
    task.Covered next grown where
  pended waker answered := subset (covered.pended waker answered)
  cached waker registered := subset (covered.cached waker registered)
  confirmed waker cached current live :=
    subset (covered.confirmed waker cached current (unset live))

theorem proceed (covered : task.Covered token pool) {point : PollPoint W}
    (confirmed : ∀ waker cached, point = .secondRead waker cached →
      token.cancelled = false → waker ∈ pool) :
    (task.proceed point).Covered token pool where
  pended := covered.pended
  cached := covered.cached
  confirmed := confirmed

theorem answer (covered : task.Covered token pool) {waker : W} {result : Poll Unit}
    (member : result = .pending → waker ∈ pool) :
    (task.answer waker result).Covered token pool where
  pended := by
    intro other answered
    rcases List.mem_cons.mp answered with same | earlier
    · obtain ⟨rfl, rfl⟩ := Prod.mk.inj same
      exact member rfl
    · exact covered.pended other earlier
  cached := covered.cached
  confirmed := by
    intro other cached current
    cases current

theorem remember (covered : task.Covered token pool) {waker : W}
    (member : waker ∈ pool) (cached : Bool) :
    (task.remember waker cached).Covered token pool := by
  cases cached with
  | false => exact covered
  | true =>
      refine ⟨covered.pended, ?_, covered.confirmed⟩
      intro other same
      cases same
      exact member

/-- A flag read keeps what the other branch keeps; that branch may use that the flag
was not set. -/
theorem readFlag (covered : task.Covered token pool) (waker : W) {otherwise : Waiter W}
    (unset : token.cancelled = false → otherwise.Covered token pool) :
    (task.readFlag token waker otherwise).Covered token pool := by
  unfold Waiter.readFlag
  split
  · apply covered.answer
    intro impossible
    cases impossible
  · rename_i live
    exact unset (Bool.eq_false_iff.mpr live)

end Waiter.Covered

/-- A task left Pending was answered so by its last poll. -/
theorem Waiter.answered_of_pendingOn {task : Waiter W} {waker : W}
    (pending : task.pendingOn = some waker) : (waker, Poll.pending) ∈ task.answers := by
  unfold Waiter.pendingOn at pending
  split at pending
  · rename_i answered
    cases pending
    rw [answered]
    exact List.mem_cons_self
  · cases pending

/-- The effect of a step of a poll: it registers a waker, which the token's state says
is covered, or it leaves the token alone. -/
theorem Waiter.step_covered [DecidableEq W] {token next : CancellationToken W}
    {task after : Waiter W} {pool : List W} (performed : task.step token = some (next, after))
    (covered : task.Covered token pool) :
    (next = token ∧ after.Covered token pool) ∨
    ∃ waker, next = token.register waker ∧ ∀ grown, pool ⊆ grown →
      (token.cancelled = false → waker ∈ grown) → after.Covered token grown := by
  unfold Waiter.step at performed
  cases current : task.point with
  | idle => simp only [current, reduceCtorEq] at performed
  | pollingTask waker => simp only [current, reduceCtorEq] at performed
  | callRead waker =>
      simp only [current] at performed
      cases performed
      refine Or.inl ⟨rfl, covered.readFlag waker fun _ => ?_⟩
      exact covered.proceed (by simp)
  | cachedRead waker =>
      simp only [current] at performed
      cases performed
      refine Or.inl ⟨rfl, covered.readFlag waker fun _ => ?_⟩
      exact covered.proceed (by simp)
  | cacheTest waker =>
      simp only [current] at performed
      split at performed
      · rename_i hit
        cases performed
        -- The fast path answers Pending on the strength of an earlier registration.
        refine Or.inl ⟨rfl, covered.answer fun _ => ?_⟩
        exact covered.cached waker hit
      · cases performed
        exact Or.inl ⟨rfl, covered.proceed (by simp)⟩
  | firstRead waker cached =>
      simp only [current] at performed
      cases performed
      refine Or.inl ⟨rfl, covered.readFlag waker fun _ => ?_⟩
      exact covered.proceed (by simp)
  | registering waker cached =>
      simp only [current] at performed
      cases performed
      refine Or.inr ⟨waker, rfl, ?_⟩
      intro grown subset member
      apply (covered.mono subset id).proceed
      intro other _ same live
      cases same
      exact member live
  | secondRead waker cached =>
      simp only [current] at performed
      cases performed
      refine Or.inl ⟨rfl, covered.readFlag waker fun live => ?_⟩
      have member := covered.confirmed waker cached current live
      exact (covered.remember member cached).answer fun _ => member

theorem Waiter.taskPolled_covered {token : CancellationToken W} {task after : Waiter W}
    {pool : List W} {ready : Bool} (performed : task.taskPolled ready = some after)
    (covered : task.Covered token pool) : after.Covered token pool := by
  unfold Waiter.taskPolled at performed
  split at performed
  · split at performed
    · cases performed
      exact covered.answer (by simp)
    · cases performed
      exact covered.proceed (by simp)
  · cases performed

/-! ### Whole runs -/

namespace TokenSystem

/-- The cancellation is at some stage, and its pool covers every task. -/
def Covered (system : TokenSystem W) : Prop :=
  ∃ pool, Stage system.token system.cancels system.woken pool ∧
    ∀ k, (system.tasks k).Covered system.token pool

theorem covered_new : (new : TokenSystem W).Covered :=
  ⟨[], .fresh rfl (fun _ => rfl) List.nodup_nil, fun _ => .new⟩

/-- A step of one task, over a pool that covers the others. -/
theorem covered_setTask {system : TokenSystem W} {token : CancellationToken W}
    {pool : List W} {k : Nat} {task : Waiter W}
    (stage : Stage token system.cancels system.woken pool)
    (others : ∀ j, (system.tasks j).Covered token pool)
    (covered : task.Covered token pool) :
    ({ system.setTask k task with token := token } : TokenSystem W).Covered := by
  refine ⟨pool, stage, ?_⟩
  intro j
  show (update system.tasks k task j).Covered token pool
  rcases eq_or_ne j k with rfl | other
  · rwa [update_self]
  · rw [update_of_ne other]
    exact others j

/-- Every step keeps the tasks covered. -/
theorem step_covered [DecidableEq W] {system next : TokenSystem W} {action : TokenAction W}
    (performed : system.step action = some next) (inv : system.Covered) :
    next.Covered := by
  obtain ⟨pool, stage, tasks⟩ := inv
  cases action with
  | cancel c =>
      obtain ⟨⟨token, call, woke⟩, moved, rfl⟩ := Option.map_eq_some_iff.mp performed
      refine ⟨pool, stage.cancel_step moved, ?_⟩
      intro k
      apply (tasks k).mono (List.Subset.refl pool)
      exact CancelCall.unset_of_step moved
  | poll k entry waker =>
      simp only [step] at performed
      split at performed
      · cases performed
        apply covered_setTask stage tasks
        apply (tasks k).proceed
        cases entry <;> simp [Waiter.entryPoint]
      · cases performed
  | proceed k =>
      obtain ⟨⟨token, task⟩, moved, rfl⟩ := Option.map_eq_some_iff.mp performed
      rcases Waiter.step_covered moved (tasks k) with ⟨rfl, covered⟩ | ⟨waker, rfl, covers⟩
      · exact covered_setTask stage tasks covered
      · obtain ⟨grown, registered, subset, member⟩ := stage.register waker
        have unset : (system.token.register waker).cancelled = false →
            system.token.cancelled = false := by simp
        apply covered_setTask registered
        · intro j
          exact (tasks j).mono subset unset
        · exact (covers grown subset member).mono (List.Subset.refl grown) unset
  | taskPolled k ready =>
      obtain ⟨task, moved, rfl⟩ := Option.map_eq_some_iff.mp performed
      exact covered_setTask stage tasks (Waiter.taskPolled_covered moved (tasks k))

theorem run_covered [DecidableEq W] {actions : List (TokenAction W)} {final : TokenSystem W}
    (performed : run step new actions = some final) : final.Covered :=
  run_invariant Covered covered_new
    (fun _ _ _ inv moved => step_covered moved inv) performed

/-- A call wakes the whole list it took in its own steps: it never waits for anyone. -/
theorem waking_completes [DecidableEq W] {c : Nat} {left : List W}
    {system : TokenSystem W} (current : system.cancels c = .waking left) :
    ∃ final, run step system (List.replicate (left.length + 1) (.cancel c)) = some final ∧
      final.cancels c = .returned ∧ final.woken = system.woken ++ left := by
  induction left generalizing system with
  | nil =>
      let final : TokenSystem W :=
        { system with cancels := update system.cancels c .returned }
      refine ⟨final, ?_, update_self .., ?_⟩
      · simp [final, step, current, CancelCall.step]
      · simp [final]
  | cons waker left ih =>
      let next : TokenSystem W :=
        { system with
          cancels := update system.cancels c (.waking left)
          woken := system.woken ++ [waker] }
      have moved : system.step (.cancel c) = some next := by
        simp [next, step, current, CancelCall.step]
      obtain ⟨final, rest, returned, woken⟩ := @ih next (update_self ..)
      refine ⟨final, ?_, returned, ?_⟩
      · rw [List.length_cons, List.replicate_succ, run_cons, moved]
        exact rest
      · rw [woken]
        simp [next]

/-- What a call owes, it pays: its own steps lead to its return, and by then the waker
has been woken. -/
theorem owed_is_woken [DecidableEq W] {c : Nat} {waker : W} {system : TokenSystem W}
    (owes : (system.cancels c).Owes system.token waker) :
    ∃ n final, run step system (List.replicate n (.cancel c)) = some final ∧
      final.cancels c = .returned ∧ waker ∈ final.woken := by
  cases current : system.cancels c with
  | swapping =>
      rw [current] at owes
      exact owes.elim
  | returned =>
      rw [current] at owes
      exact owes.elim
  | waking left =>
      rw [current] at owes
      obtain ⟨final, performed, returned, woken⟩ := waking_completes current
      refine ⟨_, final, performed, returned, ?_⟩
      rw [woken]
      exact List.mem_append_right _ owes
  | taking =>
      rw [current] at owes
      let next : TokenSystem W :=
        { system with
          token := { system.token with wakers := [] }
          cancels := update system.cancels c (.waking system.token.wakers) }
      have moved : system.step (.cancel c) = some next := by
        simp [next, step, current, CancelCall.step]
      have taken : next.cancels c = .waking system.token.wakers := update_self ..
      obtain ⟨final, performed, returned, woken⟩ := waking_completes taken
      refine ⟨system.token.wakers.length + 2, final, ?_, returned, ?_⟩
      · rw [List.replicate_succ, run_cons, moved]
        exact performed
      · rw [woken]
        exact List.mem_append_right _ owes

end TokenSystem

/-- The cancellation of a token is never lost.  After any interleaving of `cancel` calls
and polls: when some call has been made and all have returned, every waker a poll was
answered Pending with has been woken exactly once; a task left Pending on a cancelled
token has had its last waker woken, or a call in progress is about to wake it; and a
cached waker is in the list of the token unless the token is cancelled. -/
theorem cancellation_wakes_every_waiter [DecidableEq W]
    (actions : List (TokenAction W)) {final : TokenSystem W}
    (performed : run TokenSystem.step .new actions = some final) :
    ((∃ c, final.cancels c = .returned) → (∀ c, (final.cancels c).Settled) →
      ∀ k waker, (waker, Poll.pending) ∈ (final.tasks k).answers →
        final.woken.count waker = 1) ∧
    (final.token.cancelled = true → ∀ k waker, (final.tasks k).pendingOn = some waker →
      waker ∈ final.woken ∨ ∃ c, (final.cancels c).Owes final.token waker) ∧
    ∀ k waker, (final.tasks k).registered = some waker →
      waker ∈ final.token.wakers ∨ final.token.cancelled = true := by
  obtain ⟨pool, stage, tasks⟩ := TokenSystem.run_covered performed
  refine ⟨?_, ?_, ?_⟩
  · rintro ⟨c, returned⟩ settled k waker answered
    have set := stage.cancelled_of_returned returned
    have member := (tasks k).pended waker answered
    rcases stage.woken_or_owed set member with woken | ⟨d, owes⟩
    · simp [stage.woken_nodup.count, woken]
    · exact absurd owes (settled d).not_owes
  · intro set k waker pending
    apply stage.woken_or_owed set
    exact (tasks k).pended waker (Waiter.answered_of_pendingOn pending)
  · intro k waker registered
    exact stage.mem_wakers ((tasks k).cached waker registered)

/-- All of a `CancellableCall` poll whose task and token both answer Pending. -/
def pendingCall (k waker : Nat) : List (TokenAction Nat) :=
  [.poll k .cancellableCall waker, .proceed k, .taskPolled k false, .proceed k, .proceed k,
    .proceed k, .proceed k, .proceed k]

/-- A task is polled inline with the no-op waker 0, then by its executor with the waker
7.  A cancellation falls between the flag read and the cache test of its third poll;
another task registers after the list was taken and a second call finds the flag set. -/
def spawnedThenCancelled : List (TokenAction Nat) :=
  pendingCall 0 0 ++ pendingCall 0 7 ++
  [.poll 0 .cancellableCall 7, .proceed 0, .taskPolled 0 false, .proceed 0,
    .poll 1 .pollCancelled 9, .proceed 1,
    .cancel 0, .proceed 0, .cancel 1, .cancel 0, .proceed 1, .proceed 1,
    .cancel 0, .cancel 0, .cancel 0]

theorem cancellation_wakes_spawned_task :
    ∃ final, run TokenSystem.step .new spawnedThenCancelled = some final ∧
      final.woken.count 0 = 1 ∧ final.woken.count 7 = 1 ∧
      (final.tasks 0).pendingOn = some 7 ∧ (final.tasks 1).pendingOn = none ∧
      (7 ∈ final.woken ∨ ∃ c, (final.cancels c).Owes final.token 7) ∧
      (7 ∈ final.token.wakers ∨ final.token.cancelled = true) := by
  obtain ⟨once, left, cached⟩ := cancellation_wakes_every_waiter spawnedThenCancelled rfl
  have completed := once ⟨0, rfl⟩ fun c =>
    match c with
    | 0 => Or.inr rfl
    | 1 => Or.inr rfl
    | _ + 2 => Or.inl rfl
  have inline := completed 0 0 (by decide)
  have spawned := completed 0 7 (by decide)
  exact ⟨_, rfl, inline, spawned, rfl, rfl, left rfl 0 7 rfl, cached 0 7 rfl⟩

/-- A task is never left Pending on a cancelled token: in every reachable state some
`cancel` call, run on by itself, wakes the waker of its last poll. -/
theorem pending_is_woken [DecidableEq W] {actions : List (TokenAction W)}
    {reached : TokenSystem W} {k : Nat} {waker : W}
    (performed : run TokenSystem.step .new actions = some reached)
    (cancelled : reached.token.cancelled = true)
    (pending : (reached.tasks k).pendingOn = some waker) :
    ∃ c n final, run TokenSystem.step reached (List.replicate n (.cancel c)) = some final ∧
      waker ∈ final.woken := by
  obtain ⟨pool, stage, tasks⟩ := TokenSystem.run_covered performed
  have member := (tasks k).pended waker (Waiter.answered_of_pendingOn pending)
  rcases stage.woken_or_owed cancelled member with woken | ⟨c, owes⟩
  · exact ⟨0, 0, reached, rfl, woken⟩
  · obtain ⟨n, final, ran, -, woken⟩ := TokenSystem.owed_is_woken owes
    exact ⟨c, n, final, ran, woken⟩

/-- The flag is set, and the list not yet taken. -/
theorem pending_is_woken_after_swap :
    ∃ reached, run TokenSystem.step .new (pendingCall 0 7 ++ [.cancel 0]) = some reached ∧
      7 ∉ reached.woken ∧
      ∃ c n final, run TokenSystem.step reached (List.replicate n (.cancel c)) = some final ∧
        7 ∈ final.woken := by
  refine ⟨_, rfl, by decide, ?_⟩
  exact @pending_is_woken _ _ (pendingCall 0 7 ++ [.cancel 0]) _ 0 7 rfl rfl rfl

end IceRpc
