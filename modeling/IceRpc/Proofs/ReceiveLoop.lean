/-
Module: IceRpc.Proofs.ReceiveLoop
Purpose: What the receive loop of a dispatch thread does over a whole run: it hands on
  every sample it takes, in order, but for one it may take when the process
  terminates; it never sleeps on a sample past its deadline; and it notices the
  termination of a busy channel within a fixed number of samples.
Trusted boundary: none
Main exports: Dispatcher.Moves, Dispatcher.step_moves, samples_handled_in_order,
  no_lost_wakeup, termination_noticed
-/
import Mathlib.Data.List.Basic
import IceRpc.Lib.Run
import IceRpc.Transport.Pump

namespace IceRpc

open IceRpc.Lib

variable {α : Type}

/-! ### What a step can do -/

theorem aligned_iff (ticks : UInt32) :
    ticks &&& (signalCheckSamples - 1) = 0 ↔ ticks.toNat % 256 = 0 := by
  rw [← UInt32.toNat_inj, UInt32.toNat_and]
  have mask : (signalCheckSamples - 1).toNat = 2 ^ 8 - 1 := rfl
  rw [mask, Nat.and_two_pow_sub_one_eq_mod]
  rfl

/-- The counter wraps at a multiple of the check interval. -/
theorem ticks_mod (ticks : UInt32) : (ticks + 1).toNat % 256 = (ticks.toNat + 1) % 256 := by
  rw [UInt32.toNat_add]
  have one : (1 : UInt32).toNat = 1 := rfl
  omega

/-- The action is no iteration of the loop, or one that could see the process terminate. -/
def DispatcherAction.terminating : DispatcherAction α → Bool
  | .poll _ terminating => terminating
  | _ => true

namespace Dispatcher

/-- A step, by what it does to the samples. -/
inductive Moves (dispatcher : Dispatcher α) : DispatcherAction α → Dispatcher α → Prop where
  | send (content : α) :
      Moves dispatcher (.send content) { dispatcher with
        buffer := dispatcher.buffer ++ [content], owed := dispatcher.owed + 1 }
  | notify (answer : Bool) :
      Moves dispatcher (.notify answer) { dispatcher with
        notification := dispatcher.notification || answer, owed := dispatcher.owed - 1 }
  | stray : Moves dispatcher .stray { dispatcher with notification := true }
  | cancel : Moves dispatcher .cancel { dispatcher with shutdown := true }
  /-- The loop breaks at a sample that it has taken. -/
  | breaks {content : α} {rest : List α} {failing : Bool}
      (polling : dispatcher.phase = .polling) (buffer : dispatcher.buffer = content :: rest)
      (aligned : (dispatcher.signalTicks.toNat + 1) % 256 = 0) :
      Moves dispatcher (.poll failing true) { dispatcher with
        idleSpins := 0, signalTicks := dispatcher.signalTicks + 1, buffer := rest
        shutdown := true, phase := .stopped }
  | hands {content : α} {rest : List α} {failing terminating : Bool}
      (polling : dispatcher.phase = .polling) (buffer : dispatcher.buffer = content :: rest)
      (goes : terminating = true → (dispatcher.signalTicks.toNat + 1) % 256 ≠ 0) :
      Moves dispatcher (.poll failing terminating) { dispatcher with
        idleSpins := 0, signalTicks := dispatcher.signalTicks + 1, buffer := rest
        handled := dispatcher.handled ++ [content] }
  | sleeps {terminating : Bool} (polling : dispatcher.phase = .polling)
      (empty : dispatcher.buffer = []) :
      Moves dispatcher (.poll false terminating) { dispatcher with phase := .waiting }
  | stops {failing terminating : Bool} (polling : dispatcher.phase = .polling) :
      Moves dispatcher (.poll failing terminating) { dispatcher with phase := .stopped }
  /-- The loop yields. -/
  | yields {failing terminating : Bool} (polling : dispatcher.phase = .polling)
      (spins : UInt32) :
      Moves dispatcher (.poll failing terminating) { dispatcher with idleSpins := spins }
  | wakes (wakeup : Wakeup) (waiting : dispatcher.phase = .waiting) :
      Moves dispatcher (.wake wakeup) { dispatcher with phase := .woken wakeup }
  | resumes {wakeup : Wakeup} (woken : dispatcher.phase = .woken wakeup) :
      Moves dispatcher .resume (dispatcher.resumed wakeup)

variable {dispatcher next final : Dispatcher α} {action : DispatcherAction α}
  {actions : List (DispatcherAction α)}

theorem poll_moves (polling : dispatcher.phase = .polling) (failing terminating : Bool) :
    Moves dispatcher (.poll failing terminating) (dispatcher.poll failing terminating) := by
  unfold poll
  split
  · exact .stops polling
  · cases failing with
    | true => exact .yields polling 0
    | false =>
        simp only [Bool.false_eq_true, if_false]
        split
        · rename_i content rest buffer
          unfold onSample
          simp only [Bool.and_eq_true, decide_eq_true_eq, aligned_iff, ticks_mod]
          split
          · rename_i both
            obtain ⟨aligned, rfl⟩ := both
            exact .breaks polling buffer aligned
          · rename_i notBoth
            exact .hands polling buffer fun flag aligned => notBoth ⟨aligned, flag⟩
        · rename_i empty
          split
          · exact .yields polling _
          · exact .sleeps polling empty

theorem step_moves (performed : dispatcher.step action = some next) :
    Moves dispatcher action next := by
  cases action with
  | send content =>
      cases performed
      exact .send content
  | notify answer =>
      simp only [step] at performed
      split at performed
      · cases performed
        exact .notify answer
      · cases performed
  | stray =>
      cases performed
      exact .stray
  | cancel =>
      cases performed
      exact .cancel
  | poll failing terminating =>
      simp only [step] at performed
      split at performed
      · rename_i polling
        cases performed
        exact poll_moves polling failing terminating
      · cases performed
  | wake wakeup =>
      simp only [step] at performed
      split at performed
      · rename_i enabled
        cases performed
        exact .wakes wakeup enabled.1
      · cases performed
  | resume =>
      simp only [step] at performed
      split at performed
      · rename_i woken
        cases performed
        exact .resumes woken
      · cases performed

/-! ### The samples handed on -/

/-- The samples the senders put into the buffer. -/
def arrived (actions : List (DispatcherAction α)) : List α :=
  actions.filterMap fun
    | .send content => some content
    | _ => none

/-- The samples that arrived are those handed on, those taken and dropped, and those in
the buffer.  At most one is dropped, and only where the loop broke for a termination. -/
structure Accounts (past : List (DispatcherAction α)) (dispatcher : Dispatcher α)
    (dropped : List α) : Prop where
  all : arrived past = dispatcher.handled ++ dropped ++ dispatcher.buffer
  count : dispatcher.signalTicks.toNat % 256 =
    (dispatcher.handled.length + dropped.length) % 256
  dropped : dropped = [] ∨ (dropped.length = 1 ∧ dispatcher.shutdown = true ∧
    dispatcher.phase = .stopped ∧ (dispatcher.handled.length + 1) % 256 = 0)

theorem accounts_step {past : List (DispatcherAction α)}
    (accounts : ∃ dropped, dispatcher.Accounts past dropped)
    (performed : dispatcher.step action = some next) :
    ∃ dropped, next.Accounts (past ++ [action]) dropped := by
  obtain ⟨dropped, all, count, rare⟩ := accounts
  -- A thread that has dropped a sample has left its loop.
  have none (going : dispatcher.phase ≠ .stopped) : dropped = [] :=
    rare.resolve_right fun one => going one.2.2.1
  have later : arrived (past ++ [action]) =
      dispatcher.handled ++ dropped ++ (dispatcher.buffer ++ arrived [action]) := by
    rw [arrived, List.filterMap_append, ← arrived, all, List.append_assoc]
    rfl
  cases step_moves performed with
  | send content => exact ⟨dropped, later, count, rare⟩
  | notify | stray => exact ⟨dropped, later.trans (by simp [arrived]), count, rare⟩
  | cancel =>
      refine ⟨dropped, later.trans (by simp [arrived]), count, rare.imp_right ?_⟩
      exact fun one => ⟨one.1, rfl, one.2.2⟩
  | breaks polling buffer aligned =>
      rename_i content rest failing
      obtain rfl := none (by simp [polling])
      refine ⟨[content], later.trans (by simp [arrived, buffer]), ?_,
        Or.inr ⟨rfl, rfl, rfl, ?_⟩⟩
      · simp only [ticks_mod, List.length_singleton, List.length_nil] at count ⊢
        omega
      · simp only [List.length_nil] at count ⊢
        omega
  | hands polling buffer goes =>
      obtain rfl := none (by simp [polling])
      refine ⟨[], later.trans (by simp [arrived, buffer]), ?_, Or.inl rfl⟩
      simp only [ticks_mod, List.length_append, List.length_singleton, List.length_nil] at count ⊢
      omega
  | sleeps polling | stops polling =>
      exact ⟨dropped, later.trans (by simp [arrived]), count, Or.inl (none (by simp [polling]))⟩
  | yields polling spins => exact ⟨dropped, later.trans (by simp [arrived]), count, rare⟩
  | wakes wakeup waiting =>
      exact ⟨dropped, later.trans (by simp [arrived]), count, Or.inl (none (by simp [waiting]))⟩
  | resumes woken =>
      exact ⟨dropped, later.trans (by simp [arrived, resumed]), count,
        Or.inl (none (by simp [woken]))⟩

/-! ### The samples announced -/

/-- No sample lies in the buffer of a sleeping thread unannounced. -/
def Announced (dispatcher : Dispatcher α) : Prop :=
  dispatcher.phase = .waiting → dispatcher.buffer ≠ [] →
    dispatcher.notification = true ∨ 0 < dispatcher.owed

/-- No notification is coalesced away while the thread sleeps without one. -/
def Spares (dispatcher : Dispatcher α) : DispatcherAction α → Prop
  | .notify false => dispatcher.phase = .waiting → dispatcher.notification = true
  | _ => True

theorem announced_step (announced : dispatcher.Announced) (spares : dispatcher.Spares action)
    (performed : dispatcher.step action = some next) : next.Announced := by
  cases step_moves performed with
  | send content => exact fun _ _ => Or.inr (Nat.succ_pos _)
  | notify answer =>
      intro waiting _
      cases answer with
      | true => exact Or.inl (Bool.or_true _)
      | false => exact Or.inl (by simp [spares waiting])
  | stray => exact fun _ _ => Or.inl rfl
  -- it goes to sleep on an empty buffer
  | sleeps polling empty => exact fun _ some => absurd empty some
  | yields | cancel => exact announced
  | hands polling buffer goes =>
      intro waiting
      cases polling.symm.trans waiting
  | breaks | stops | wakes | resumes => exact fun waiting => DispatcherPhase.noConfusion waiting

/-- What a thread that has slept over these samples does next: it takes the oldest one,
and hands it on unless it breaks there for a termination; or its loop ends, if a shutdown
was requested. -/
def TakesNext (dispatcher : Dispatcher α) (content : α) (rest : List α)
    (terminated terminating : Bool) (next : Dispatcher α) : Prop :=
  if dispatcher.shutdown || terminated then
    next.phase = .stopped ∧ next.handled = dispatcher.handled ∧ next.buffer = content :: rest
  else
    next.buffer = rest ∧ (next.handled = dispatcher.handled ++ [content] ∨
      terminating = true ∧ 256 ∣ dispatcher.signalTicks.toNat + 1 ∧ next.phase = .stopped)

theorem woken_takes {content : α} {rest : List α} (waiting : dispatcher.phase = .waiting)
    (buffer : dispatcher.buffer = content :: rest) {wakeup : Wakeup}
    (fired : wakeup.notified = true → dispatcher.notification = true) (terminating : Bool) :
    ∃ next, run Dispatcher.step dispatcher [.wake wakeup, .resume, .poll false terminating] =
        some next ∧
      dispatcher.TakesNext content rest wakeup.terminated terminating next := by
  have woken : (dispatcher.resumed wakeup).shutdown =
      (dispatcher.shutdown || wakeup.terminated) := by
    cases ended : wakeup.terminated <;> simp [resumed, waitForWakeup, ended]
  refine ⟨(dispatcher.resumed wakeup).poll false terminating, ?_, ?_⟩
  · simp only [run_cons, run_nil, step, waiting, true_and, if_pos fired, Option.bind_some]
    rfl
  · simp only [TakesNext, poll, woken]
    split
    · exact ⟨rfl, rfl, buffer⟩
    · simp only [Bool.false_eq_true, if_false, resumed, buffer, onSample, Bool.and_eq_true,
        decide_eq_true_eq, aligned_iff, ticks_mod]
      split
      · rename_i both
        exact ⟨rfl, Or.inr ⟨both.2, Nat.dvd_of_mod_eq_zero both.1, rfl⟩⟩
      · exact ⟨rfl, Or.inl rfl⟩

/-! ### Termination on a busy channel -/

/-- The loop hands on fewer than `bound` samples: while it runs, the next look at the
termination flag comes before that. -/
structure Bounded (bound : Nat) (dispatcher : Dispatcher α) : Prop where
  handled : dispatcher.handled.length < bound
  check : dispatcher.phase ≠ .stopped →
    dispatcher.handled.length + (256 - dispatcher.signalTicks.toNat % 256) ≤ bound

theorem bounded_step {bound : Nat} (bounded : dispatcher.Bounded bound)
    (terminating : action.terminating = true) (performed : dispatcher.step action = some next) :
    next.Bounded bound := by
  obtain ⟨handled, check⟩ := bounded
  cases step_moves performed with
  | breaks polling buffer aligned => exact ⟨handled, fun going => absurd rfl going⟩
  | stops polling => exact ⟨handled, fun going => absurd rfl going⟩
  | hands polling buffer goes =>
      -- no look at the flag at this sample: the next one is one sample nearer
      have before := check (by simp [polling])
      have apart := goes terminating
      have ticks := ticks_mod dispatcher.signalTicks
      have one : ∀ content, (dispatcher.handled ++ [content]).length =
          dispatcher.handled.length + 1 := fun _ => List.length_append
      constructor
      · simp only [one]
        omega
      · simp only [one, ticks]
        omega
  | sleeps polling empty => exact ⟨handled, fun _ => check (by simp [polling])⟩
  | wakes wakeup waiting => exact ⟨handled, fun _ => check (by simp [waiting])⟩
  | resumes woken => exact ⟨handled, fun _ => check (by simp [woken])⟩
  | send | notify | stray | cancel | yields => exact ⟨handled, check⟩

end Dispatcher

variable {dispatcher final : Dispatcher α} {actions : List (DispatcherAction α)}

/-- The thread hands on what arrives in the order in which it arrives: after every run
of the thread and its senders, the samples that arrived are those handed on, then at
most one that was taken and dropped, then those still in the buffer.  One is dropped
only where the loop broke for a termination, at a multiple of the check interval. -/
theorem samples_handled_in_order
    (performed : run Dispatcher.step .new actions = some dispatcher) :
    ∃ dropped, Dispatcher.arrived actions =
        dispatcher.handled ++ dropped ++ dispatcher.buffer ∧
      (dropped = [] ∨ (dropped.length = 1 ∧ dispatcher.shutdown = true ∧
        dispatcher.phase = .stopped ∧ 256 ∣ dispatcher.handled.length + 1)) := by
  obtain ⟨dropped, all, -, rare⟩ := run_history_invariant
    (fun past (state : Dispatcher α) => ∃ dropped, state.Accounts past dropped)
    ⟨[], rfl, rfl, Or.inl rfl⟩ (fun _ _ _ _ => Dispatcher.accounts_step) performed
  simp only [Nat.dvd_iff_mod_eq_zero]
  exact ⟨dropped, all, rare⟩

theorem samples_handled_in_order_pair :
    ∃ dispatcher : Dispatcher Nat,
      run Dispatcher.step .new [.send 3, .send 5, .poll false false, .notify true] =
        some dispatcher ∧
      ∃ dropped, [3, 5] = dispatcher.handled ++ dropped ++ dispatcher.buffer := by
  obtain ⟨dropped, account, -⟩ := @samples_handled_in_order Nat _
    [.send 3, .send 5, .poll false false, .notify true] rfl
  exact ⟨_, rfl, dropped, account⟩

/-- No sample stays behind with a thread asleep in its `WaitSet`: in every state
reachable from a running loop, the return of the wait for a notification or at the
deadline makes the thread take the oldest sample next; for a signal, or if the token is
cancelled, it ends the loop.  And if no notification was coalesced away while the thread
slept, the notification is there or a sender is about to ask for it. -/
theorem no_lost_wakeup {start : Dispatcher α} {content : α} {rest : List α}
    (running : start.phase = .polling)
    (performed : run Dispatcher.step start actions = some dispatcher)
    (waiting : dispatcher.phase = .waiting) (buffer : dispatcher.buffer = content :: rest) :
    (∀ (wakeup : Wakeup) (terminating : Bool),
      (wakeup.notified = true → dispatcher.notification = true) →
      ∃ next, run Dispatcher.step dispatcher
          [.wake wakeup, .resume, .poll false terminating] = some next ∧
        dispatcher.TakesNext content rest wakeup.terminated terminating next) ∧
    (StepsMeet Dispatcher.step Dispatcher.Spares start actions →
      dispatcher.notification = true ∨ 0 < dispatcher.owed) := by
  refine ⟨fun wakeup terminating fired =>
    Dispatcher.woken_takes waiting buffer fired terminating, fun spares => ?_⟩
  have begins : start.Announced := by
    intro waiting
    cases running.symm.trans waiting
  have announced := run_invariant_of_stepsMeet Dispatcher.Announced Dispatcher.Spares
    (fun _ _ _ inv spared => Dispatcher.announced_step inv spared) begins spares performed
  exact announced waiting (by simp [buffer])

/-- The thread has spun itself to sleep when a sample arrives, and wakes at the deadline. -/
theorem no_lost_wakeup_deadline :
    ∃ dispatcher next : Dispatcher Nat,
      run Dispatcher.step { Dispatcher.new with idleSpins := maxIdleSpins }
        [.poll false false, .send 3, .notify false] = some dispatcher ∧
      run Dispatcher.step dispatcher [.wake ⟨false, false⟩, .resume, .poll false true] =
        some next ∧
      dispatcher.TakesNext 3 [] false true next ∧ next.handled = [3] := by
  obtain ⟨next, ran, takes⟩ :=
    (@no_lost_wakeup Nat _ [.poll false false, .send 3, .notify false]
      { Dispatcher.new with idleSpins := maxIdleSpins } 3 [] rfl rfl rfl rfl).1
      ⟨false, false⟩ true (by simp)
  cases ran
  exact ⟨_, _, rfl, rfl, takes, rfl⟩

/-- While the process terminates, however the loop, its senders and its waits go on from
whatever state, with the tick counter wherever it is, at most 255 more samples are
handed on. -/
theorem termination_noticed (dispatcher : Dispatcher α)
    (terminating : ∀ action ∈ actions, action.terminating = true)
    (performed : run Dispatcher.step dispatcher actions = some final) :
    final.handled.length ≤ dispatcher.handled.length + 255 := by
  have start : dispatcher.Bounded (dispatcher.handled.length + 256) := by
    constructor <;> omega
  rw [← run_guarded terminating] at performed
  have bounded := run_invariant _ start (fun _ _ _ inv stepped => Dispatcher.bounded_step inv
    (guarded_eq_some stepped).1 (guarded_eq_some stepped).2) performed
  have handled := bounded.handled
  omega

/-- The look at the flag falls on the sample that wraps the counter. -/
theorem termination_noticed_wrapping :
    ∃ final : Dispatcher Nat,
      run Dispatcher.step { Dispatcher.new with signalTicks := 0xFFFFFFFF, buffer := [7] }
        [.poll false true] = some final ∧
      final.handled.length ≤ 255 := by
  exact ⟨_, rfl, @termination_noticed Nat _ [.poll false true]
    { Dispatcher.new with signalTicks := 0xFFFFFFFF, buffer := [7] } (by decide) rfl⟩

end IceRpc
