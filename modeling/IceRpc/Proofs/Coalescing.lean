/-
Module: IceRpc.Proofs.Coalescing
Purpose: What the calls of `should_notify` on one coalescer answer, for every interleaving of
  their loads and stores and every reading of their clocks: a suppressed wake-up is covered by
  one that is sent, and calls one after another send theirs a window apart.
Trusted boundary: none
Main exports: Coalescer.Steps, Coalescer.Notified, CoverInv, SpacedInv, Coalescer.startsAlone
-/
import IceRpc.Lib.Run
import IceRpc.Lib.Table
import IceRpc.Transport.Notify

namespace IceRpc

open Lib

/-! ### Numbers -/

section Shift

variable {reading : UInt64}

theorem toNat_shifted (fits : reading.toNat + 1 < UInt64.size) :
    (reading + 1).toNat = reading.toNat + 1 := by
  rw [UInt64.toNat_add]
  exact Nat.mod_eq_of_lt fits

/-- The shift of the greatest reading, unless it is checked, is `NEVER`. -/
theorem fits_of_shifted (recorded : reading + 1 ≠ never) :
    reading.toNat + 1 < UInt64.size := by
  by_contra wraps
  apply recorded
  have greatest : reading.toNat + 1 = UInt64.size :=
    Nat.le_antisymm reading.toNat_lt (Nat.le_of_not_lt wraps)
  apply UInt64.toNat_inj.mp
  rw [UInt64.toNat_add]
  exact (congrArg (· % 2 ^ 64) greatest).trans (Nat.mod_self _)

end Shift

/-- What the call read can be shifted. -/
def NotifyCall.Fits (call : NotifyCall) : Prop := call.reading.toNat + 1 < UInt64.size

theorem NotifyCall.now_of_fits {call : NotifyCall} (fits : call.Fits) :
    call.now.toNat = call.reading.toNat + 1 :=
  toNat_shifted fits

theorem toNat_saturatingSub (first second : UInt64) :
    (saturatingSub first second).toNat = first.toNat - second.toNat := by
  rw [saturatingSub]
  split
  · rename_i le
    exact UInt64.toNat_sub_of_le _ _ le
  · rename_i greater
    rw [UInt64.le_iff_toNat_le] at greater
    exact (Nat.sub_eq_zero_of_le (by omega)).symm

/-- A notification is suppressed within the window after the last, or before it. -/
theorem Coalescer.suppresses_iff {previous now : UInt64} :
    Coalescer.suppresses previous now = true ↔
      previous ≠ never ∧ now.toNat < previous.toNat + 100 := by
  rw [Coalescer.suppresses, Bool.and_eq_true, decide_eq_true_eq, decide_eq_true_eq,
    UInt64.lt_iff_toNat_lt, toNat_saturatingSub]
  have window : notifyCoalesceWindow.toNat = 100 := rfl
  rw [window]
  refine and_congr_right fun _ => ?_
  omega

/-! ### Steps -/

/-- The time is stored, and the answer is true: it is given, or the next step gives it. -/
def NotifyPhase.notifies : NotifyPhase → Bool
  | .answering answer | .returned answer => answer
  | _ => false

/-- The answer is false: it is given, or the next step gives it. -/
def NotifyPhase.silent : NotifyPhase → Bool
  | .answering answer | .returned answer => !answer
  | _ => false

/-- The call has returned, or panicked. -/
def NotifyPhase.isOver : NotifyPhase → Bool
  | .returned _ | .panicked => true
  | _ => false

namespace Coalescer

/-- What a step can do. -/
inductive Steps (checked : Bool) (coalescer : Coalescer) : NotifyAction → Coalescer → Prop where
  | panic {reading : UInt64} :
      checked = true → reading.toNat + 1 = UInt64.size →
      Steps checked coalescer (.call reading)
        { coalescer with
          calls := coalescer.calls ++ [{ reading := reading, phase := .panicked }] }
  | call {reading : UInt64} :
      (checked = true → reading.toNat + 1 < UInt64.size) →
      Steps checked coalescer (.call reading)
        { coalescer with
          calls := coalescer.calls ++ [{ reading := reading, phase := .loading }] }
  | suppress {index : Nat} {call : NotifyCall} :
      coalescer.calls[index]? = some call → call.phase = .loading →
      suppresses coalescer.last call.now = true →
      Steps checked coalescer (.load index) (coalescer.setPhase index call (.answering false))
  | pass {index : Nat} {call : NotifyCall} :
      coalescer.calls[index]? = some call → call.phase = .loading →
      suppresses coalescer.last call.now = false →
      Steps checked coalescer (.load index) (coalescer.setPhase index call .storing)
  | store {index : Nat} {call : NotifyCall} :
      coalescer.calls[index]? = some call → call.phase = .storing →
      Steps checked coalescer (.store index)
        { coalescer.setPhase index call (.answering true) with last := call.now }
  | answer {index : Nat} {call : NotifyCall} {answer : Bool} :
      coalescer.calls[index]? = some call → call.phase = .answering answer →
      Steps checked coalescer (.answer index) (coalescer.setPhase index call (.returned answer))

variable {checked : Bool} {coalescer next : Coalescer} {action : NotifyAction}

theorem steps_of_step (performed : coalescer.step checked action = some next) :
    coalescer.Steps checked action next := by
  cases action with
  | call reading =>
      cases performed
      split
      · rename_i overflows
        rw [Bool.and_eq_true, decide_eq_true_eq] at overflows
        exact .panic overflows.1 overflows.2
      · rename_i inRange
        apply Steps.call
        intro isChecked
        rw [isChecked, Bool.true_and, decide_eq_true_eq] at inRange
        exact Nat.lt_of_le_of_ne reading.toNat_lt inRange
  | load index =>
      obtain ⟨call, found, rest⟩ := Option.bind_eq_some_iff.mp performed
      split at rest
      · rename_i here
        split at rest
        · cases rest
          exact .suppress found here ‹_›
        · rename_i passes
          cases rest
          exact .pass found here (Bool.eq_false_iff.mpr passes)
      · cases rest
  | store index =>
      obtain ⟨call, found, rest⟩ := Option.bind_eq_some_iff.mp performed
      split at rest
      · rename_i here
        cases rest
        exact .store found here
      · cases rest
  | answer index =>
      obtain ⟨call, found, rest⟩ := Option.bind_eq_some_iff.mp performed
      split at rest
      · rename_i here
        cases rest
        exact .answer found here
      · cases rest

/-! ### Calls that answer true -/

/-- The call of this index stored its time, which it read as `reading`. -/
def Notified (coalescer : Coalescer) (index : Nat) (reading : UInt64) : Prop :=
  ∃ call, coalescer.calls[index]? = some call ∧ call.reading = reading ∧
    call.phase.notifies = true

theorem Notified.snoc {other : Nat} {reading : UInt64}
    (notified : coalescer.Notified other reading) (added : NotifyCall) :
    Notified { coalescer with calls := coalescer.calls ++ [added] } other reading := by
  obtain ⟨one, at_, rest⟩ := notified
  exact ⟨one, getElem?_snoc_of_some at_, rest⟩

theorem Notified.setPhase {index other : Nat} {reading : UInt64} {call : NotifyCall}
    (notified : coalescer.Notified other reading) (found : coalescer.calls[index]? = some call)
    {phase : NotifyPhase} (keeps : call.phase.notifies = true → phase.notifies = true) :
    (coalescer.setPhase index call phase).Notified other reading := by
  obtain ⟨one, at_, reads, notifies⟩ := notified
  rcases eq_or_ne other index with rfl | different
  · cases found.symm.trans at_
    exact ⟨_, getElem?_set_of_some _ found, reads, keeps notifies⟩
  · exact ⟨one, (List.getElem?_set_ne different.symm).trans at_, reads, notifies⟩

/-- A call that stored its time has done so for good. -/
theorem Notified.step {other : Nat} {reading : UInt64}
    (notified : coalescer.Notified other reading)
    (performed : coalescer.step checked action = some next) : next.Notified other reading := by
  cases steps_of_step performed with
  | panic _ _ | call _ => exact notified.snoc _
  | suppress found here _ =>
      apply notified.setPhase found
      rw [here]
      nofun
  | pass found here _ =>
      apply notified.setPhase found
      rw [here]
      nofun
  | store found _ =>
      exact notified.setPhase found fun _ => rfl
  | answer found here =>
      apply notified.setPhase found
      rw [here]
      exact id

/-- The call stored its time, and whenever it is over, now or later, it has answered true. -/
def AnswersTrue (checked : Bool) (coalescer : Coalescer) (index : Nat) (reading : UInt64) :
    Prop :=
  coalescer.Notified index reading ∧
    ∀ actions later, run (step checked) coalescer actions = some later →
      ∀ call, later.calls[index]? = some call → call.phase.isOver = true →
        call.phase = .returned true

theorem Notified.answersTrue {index : Nat} {reading : UInt64}
    (notified : coalescer.Notified index reading) :
    coalescer.AnswersTrue checked index reading := by
  refine ⟨notified, ?_⟩
  intro actions later performed call found ended
  have still : later.Notified index reading :=
    run_invariant (fun state => state.Notified index reading) notified
      (fun _ _ _ holds step => Notified.step holds step) performed
  obtain ⟨same, at_, -, notifies⟩ := still
  cases at_.symm.trans found
  cases here : call.phase with
  | returned answer =>
      rw [here] at notifies
      exact congrArg NotifyPhase.returned notifies
  | panicked =>
      rw [here] at notifies
      cases notifies
  | loading | storing | answering answer =>
      rw [here] at ended
      cases ended

end Coalescer

/-! ### Calls that answer false -/

/-- What is loaded was stored by a call, and a call that answers false loaded such a time. -/
structure CoverInv (checked : Bool) (coalescer : Coalescer) : Prop where
  stored : coalescer.last ≠ never →
    ∃ index reading, coalescer.Notified index reading ∧ coalescer.last = reading + 1
  covered : ∀ call ∈ coalescer.calls, call.phase.silent = true →
    ∃ index reading, coalescer.Notified index reading ∧
      Coalescer.suppresses (reading + 1) call.now = true
  fits : checked = true → ∀ call ∈ coalescer.calls, call.phase ≠ .panicked → call.Fits

section Cover

variable {checked : Bool} {coalescer next : Coalescer} {action : NotifyAction}
  {index : Nat} {call : NotifyCall}

theorem CoverInv.start (inv : CoverInv checked coalescer) {added : NotifyCall}
    (speaks : added.phase.silent = false)
    (fits : checked = true → added.phase ≠ .panicked → added.Fits) :
    CoverInv checked { coalescer with calls := coalescer.calls ++ [added] } := by
  constructor
  · intro recorded
    obtain ⟨other, reading, notified, same⟩ := inv.stored recorded
    exact ⟨other, reading, notified.snoc added, same⟩
  · intro one member silent
    rcases List.mem_append.mp member with before | new
    · obtain ⟨other, reading, notified, suppressed⟩ := inv.covered one before silent
      exact ⟨other, reading, notified.snoc added, suppressed⟩
    · rw [List.mem_singleton.mp new, speaks] at silent
      cases silent
  · intro isChecked one member running
    rcases List.mem_append.mp member with before | new
    · exact inv.fits isChecked one before running
    · rw [List.mem_singleton.mp new] at running ⊢
      exact fits isChecked running

/-- A call goes on without a store. -/
theorem CoverInv.setPhase (inv : CoverInv checked coalescer)
    (found : coalescer.calls[index]? = some call) (running : call.phase ≠ .panicked)
    {phase : NotifyPhase} (keeps : call.phase.notifies = true → phase.notifies = true)
    (silent : phase.silent = true → ∃ other reading, coalescer.Notified other reading ∧
      Coalescer.suppresses (reading + 1) call.now = true) :
    CoverInv checked (coalescer.setPhase index call phase) := by
  have kept {other : Nat} {reading : UInt64} (notified : coalescer.Notified other reading) :=
    notified.setPhase found keeps
  constructor
  · intro recorded
    obtain ⟨other, reading, notified, same⟩ := inv.stored recorded
    exact ⟨other, reading, kept notified, same⟩
  · refine forall_mem_set (fun one before isSilent => ?_) fun isSilent => ?_
    · obtain ⟨other, reading, notified, suppressed⟩ := inv.covered one before isSilent
      exact ⟨other, reading, kept notified, suppressed⟩
    · obtain ⟨other, reading, notified, suppressed⟩ := silent isSilent
      exact ⟨other, reading, kept notified, suppressed⟩
  · exact fun isChecked => forall_mem_set (inv.fits isChecked) fun _ =>
      inv.fits isChecked call (List.mem_of_getElem? found) running

theorem CoverInv.step (inv : CoverInv checked coalescer)
    (performed : coalescer.step checked action = some next) : CoverInv checked next := by
  cases Coalescer.steps_of_step performed with
  | panic _ _ => exact inv.start rfl fun _ running => absurd rfl running
  | call inRange => exact inv.start rfl fun isChecked _ => inRange isChecked
  | @suppress index call found here suppressed =>
      apply inv.setPhase found (by rw [here]; nofun)
      · rw [here]
        nofun
      · intro _
        -- The time that was loaded is not `NEVER`, so a call has stored it.
        obtain ⟨other, reading, notified, same⟩ :=
          inv.stored (Coalescer.suppresses_iff.mp suppressed).1
        exact ⟨other, reading, notified, same ▸ suppressed⟩
  | pass found here _ =>
      apply inv.setPhase found (by rw [here]; nofun)
      · rw [here]
        nofun
      · nofun
  | @store index call found here =>
      have going : CoverInv checked (coalescer.setPhase index call (.answering true)) :=
        inv.setPhase found (by rw [here]; nofun) (fun _ => rfl) nofun
      refine ⟨?_, going.covered, going.fits⟩
      intro _
      exact ⟨index, call.reading, ⟨_, getElem?_set_of_some _ found, rfl, rfl⟩, rfl⟩
  | @answer index call answer found here =>
      apply inv.setPhase found (by rw [here]; nofun)
      · rw [here]
        exact id
      · intro silent
        apply inv.covered call (List.mem_of_getElem? found)
        rw [here]
        exact silent

theorem coverInv_new : CoverInv checked .new where
  stored recorded := absurd rfl recorded
  covered _ member := absurd member List.not_mem_nil
  fits _ _ member := absurd member List.not_mem_nil

theorem coverInv_run {actions : List NotifyAction}
    (performed : run (Coalescer.step checked) .new actions = some coalescer) :
    CoverInv checked coalescer :=
  run_invariant (CoverInv checked) coverInv_new (fun _ _ _ inv step => inv.step step) performed

end Cover

/-! ### Calls one after another -/

/-- A call starts only when every call before it is over. -/
def Coalescer.startsAlone (coalescer : Coalescer) : NotifyAction → Prop
  | .call _ => ∀ call ∈ coalescer.calls, call.phase.isOver = true
  | _ => True

/-- What a call reads can be shifted, or the build checks that it can. -/
def NotifyAction.fits (checked : Bool) : NotifyAction → Bool
  | .call reading => checked || reading.toNat + 1 < UInt64.size
  | _ => true

/-- Only the last call can be under way, and what the calls read can be shifted. -/
structure AloneInv (coalescer : Coalescer) : Prop where
  fits : ∀ call ∈ coalescer.calls, call.phase ≠ .panicked → call.Fits
  alone : ∀ (index : Nat) (call : NotifyCall), coalescer.calls[index]? = some call →
    call.phase.isOver = false → coalescer.calls.length = index + 1

/-- What holds of calls one after another: the times that were stored are a window apart, and
the coalescer has the greatest of them. -/
structure SpacedInv (coalescer : Coalescer) : Prop extends AloneInv coalescer where
  spaced : ∀ earlier later first second, earlier < later →
    coalescer.Notified earlier first → coalescer.Notified later second →
    first.toNat + 100 ≤ second.toNat
  latest : ∀ index reading, coalescer.Notified index reading →
    reading.toNat < coalescer.last.toNat
  free : ∀ (index : Nat) (call : NotifyCall), coalescer.calls[index]? = some call →
    call.phase = .storing → Coalescer.suppresses coalescer.last call.now = false

section Spaced

variable {checked : Bool} {coalescer next : Coalescer} {action : NotifyAction}
  {index : Nat} {call : NotifyCall}

theorem Coalescer.Notified.of_snoc {added : NotifyCall} (quiet : added.phase.notifies = false)
    {other : Nat} {reading : UInt64}
    (notified : Notified { coalescer with calls := coalescer.calls ++ [added] } other reading) :
    coalescer.Notified other reading := by
  obtain ⟨one, at_, reads, notifies⟩ := notified
  rcases getElem?_snoc_cases at_ with ⟨-, rfl⟩ | before
  · rw [quiet] at notifies
    cases notifies
  · exact ⟨one, before, reads, notifies⟩

/-- A call that notifies after a step did so before, or it is the one that took the step. -/
theorem Coalescer.Notified.of_setPhase {phase : NotifyPhase} {other : Nat} {reading : UInt64}
    (notified : (coalescer.setPhase index call phase).Notified other reading) :
    (other = index ∧ reading = call.reading ∧ phase.notifies = true) ∨
      (other ≠ index ∧ coalescer.Notified other reading) := by
  obtain ⟨one, at_, reads, notifies⟩ := notified
  rcases getElem?_set_cases at_ with ⟨same, rfl⟩ | ⟨different, before⟩
  · exact Or.inl ⟨same, reads.symm, notifies⟩
  · exact Or.inr ⟨different, one, before, reads, notifies⟩

theorem AloneInv.start (inv : AloneInv coalescer) {added : NotifyCall}
    (idle : ∀ call ∈ coalescer.calls, call.phase.isOver = true)
    (fits : added.phase ≠ .panicked → added.Fits) :
    AloneInv { coalescer with calls := coalescer.calls ++ [added] } := by
  constructor
  · intro one member running
    rcases List.mem_append.mp member with before | new
    · exact inv.fits one before running
    · rw [List.mem_singleton.mp new] at running ⊢
      exact fits running
  · intro index one found underWay
    rcases getElem?_snoc_cases found with ⟨last, -⟩ | before
    · rw [last, List.length_append, List.length_singleton]
    · rw [idle one (List.mem_of_getElem? before)] at underWay
      cases underWay

theorem AloneInv.setPhase (inv : AloneInv coalescer)
    (found : coalescer.calls[index]? = some call) (underWay : call.phase.isOver = false)
    (phase : NotifyPhase) : AloneInv (coalescer.setPhase index call phase) := by
  constructor
  · refine forall_mem_set inv.fits fun _ => inv.fits call (List.mem_of_getElem? found) ?_
    intro panicked
    rw [panicked] at underWay
    cases underWay
  · intro other one at_ isUnderWay
    rw [Coalescer.setPhase, List.length_set]
    rcases getElem?_set_cases at_ with ⟨rfl, -⟩ | ⟨-, before⟩
    · exact inv.alone other call found underWay
    · exact inv.alone other one before isUnderWay

theorem SpacedInv.start (inv : SpacedInv coalescer) {added : NotifyCall}
    (idle : ∀ call ∈ coalescer.calls, call.phase.isOver = true)
    (quiet : added.phase.notifies = false) (loads : added.phase ≠ .storing)
    (fits : added.phase ≠ .panicked → added.Fits) :
    SpacedInv { coalescer with calls := coalescer.calls ++ [added] } := by
  refine ⟨inv.toAloneInv.start idle fits, ?_, ?_, ?_⟩
  · intro earlier later first second less one two
    exact inv.spaced earlier later first second less (one.of_snoc quiet) (two.of_snoc quiet)
  · intro index reading notified
    exact inv.latest index reading (notified.of_snoc quiet)
  · intro index one found storing
    rcases getElem?_snoc_cases found with ⟨-, rfl⟩ | before
    · exact absurd storing loads
    · exact inv.free index one before storing

/-- A call goes on without a store. -/
theorem SpacedInv.setPhase (inv : SpacedInv coalescer)
    (found : coalescer.calls[index]? = some call) (underWay : call.phase.isOver = false)
    {phase : NotifyPhase} (same : phase.notifies = call.phase.notifies)
    (free : phase = .storing → Coalescer.suppresses coalescer.last call.now = false) :
    SpacedInv (coalescer.setPhase index call phase) := by
  have before {other : Nat} {reading : UInt64}
      (notified : (coalescer.setPhase index call phase).Notified other reading) :
      coalescer.Notified other reading := by
    rcases notified.of_setPhase with ⟨rfl, rfl, notifies⟩ | ⟨-, earlier⟩
    · exact ⟨call, found, rfl, same ▸ notifies⟩
    · exact earlier
  refine ⟨inv.toAloneInv.setPhase found underWay phase, ?_, ?_, ?_⟩
  · intro earlier later first second less one two
    exact inv.spaced earlier later first second less (before one) (before two)
  · intro other reading notified
    exact inv.latest other reading (before notified)
  · intro other one at_ storing
    rcases getElem?_set_cases at_ with ⟨-, rfl⟩ | ⟨-, old⟩
    · exact free storing
    · exact inv.free other one old storing

/-- A time that is about to be stored lies a window after all that were. -/
theorem SpacedInv.apart (inv : SpacedInv coalescer)
    (found : coalescer.calls[index]? = some call) (here : call.phase = .storing) {other : Nat}
    {reading : UInt64} (notified : coalescer.Notified other reading) :
    reading.toNat + 100 ≤ call.reading.toNat := by
  have now := NotifyCall.now_of_fits
    (inv.fits call (List.mem_of_getElem? found) (by rw [here]; nofun))
  have latest := inv.latest other reading notified
  have recorded : coalescer.last ≠ never := by
    intro isNever
    rw [isNever] at latest
    exact Nat.not_lt_zero _ latest
  have free := inv.free index call found here
  rw [← Bool.not_eq_true, Coalescer.suppresses_iff, not_and] at free
  have late := free recorded
  omega

theorem SpacedInv.store (inv : SpacedInv coalescer)
    (found : coalescer.calls[index]? = some call) (here : call.phase = .storing) :
    SpacedInv { coalescer.setPhase index call (.answering true) with last := call.now } := by
  have underWay : call.phase.isOver = false := by rw [here]; rfl
  have length := inv.alone index call found underWay
  have now := NotifyCall.now_of_fits
    (inv.fits call (List.mem_of_getElem? found) (by rw [here]; nofun))
  have going := inv.toAloneInv.setPhase found underWay (.answering true)
  refine ⟨⟨going.fits, going.alone⟩, ?_, ?_, ?_⟩
  · intro earlier later first second less one two
    rcases one.of_setPhase with ⟨isCall, -, -⟩ | ⟨-, firstBefore⟩
    · -- No call comes after the one that is under way.
      obtain ⟨last, at_, -, -⟩ := two
      have bound := (List.getElem?_eq_some_iff.mp at_).1
      rw [Coalescer.setPhase, List.length_set] at bound
      omega
    · rcases two.of_setPhase with ⟨-, reading, -⟩ | ⟨-, secondBefore⟩
      · rw [reading]
        exact inv.apart found here firstBefore
      · exact inv.spaced earlier later first second less firstBefore secondBefore
  · intro other reading notified
    change reading.toNat < call.now.toNat
    rcases notified.of_setPhase with ⟨-, isReading, -⟩ | ⟨-, before⟩
    · rw [isReading, now]
      exact Nat.lt_succ_self _
    · have apart := inv.apart found here before
      omega
  · intro other one at_ storing
    rcases getElem?_set_cases at_ with ⟨-, rfl⟩ | ⟨different, before⟩
    · cases storing
    · have isLast := inv.alone other one before (by rw [storing]; rfl)
      exact absurd (Nat.succ.inj (isLast.symm.trans length)) different

theorem SpacedInv.step (inv : SpacedInv coalescer) (alone : coalescer.startsAlone action)
    (fits : action.fits checked = true)
    (performed : coalescer.step checked action = some next) : SpacedInv next := by
  cases Coalescer.steps_of_step performed with
  | panic _ _ => exact inv.start alone rfl nofun fun running => absurd rfl running
  | call inRange =>
      refine inv.start alone rfl nofun fun _ => ?_
      rw [NotifyAction.fits, Bool.or_eq_true, decide_eq_true_eq] at fits
      exact fits.elim inRange id
  | suppress found here _ =>
      apply inv.setPhase found
      · rw [here]
        rfl
      · rw [here]
        rfl
      · nofun
  | pass found here free =>
      apply inv.setPhase found
      · rw [here]
        rfl
      · rw [here]
        rfl
      · exact fun _ => free
  | store found here => exact inv.store found here
  | answer found here =>
      apply inv.setPhase found
      · rw [here]
        rfl
      · rw [here]
        rfl
      · nofun

theorem spacedInv_new : SpacedInv .new where
  fits _ member := absurd member List.not_mem_nil
  alone _ _ found := nomatch found
  spaced _ _ _ _ _ notified := nomatch notified.choose_spec.1
  latest _ _ notified := nomatch notified.choose_spec.1
  free _ _ found := nomatch found

theorem spacedInv_run {actions : List NotifyAction}
    (alone : StepsMeet (Coalescer.step checked) Coalescer.startsAlone .new actions)
    (fits : ∀ action ∈ actions, action.fits checked = true)
    (performed : run (Coalescer.step checked) .new actions = some coalescer) :
    SpacedInv coalescer := by
  rw [← run_guarded fits] at performed
  rw [← stepsMeet_guarded fits] at alone
  refine run_invariant_of_stepsMeet SpacedInv Coalescer.startsAlone ?_ spacedInv_new alone
    performed
  intro state action next inv isAlone step
  obtain ⟨isFit, taken⟩ := guarded_eq_some step
  exact inv.step isAlone isFit taken

end Spaced

/-! ### Answers -/

section Answers

variable {checked : Bool} {coalescer : Coalescer} {actions : List NotifyAction} {index : Nat}
  {call : NotifyCall}

/-- A call that answers false loaded the time of another call, which answers true. -/
theorem suppressed_by_other
    (performed : run (Coalescer.step checked) .new actions = some coalescer)
    (found : coalescer.calls[index]? = some call) (suppressed : call.phase = .returned false) :
    ∃ other reading, other ≠ index ∧ coalescer.AnswersTrue checked other reading ∧
      Coalescer.suppresses (reading + 1) call.now = true := by
  obtain ⟨other, reading, notified, window⟩ :=
    (coverInv_run performed).covered call (List.mem_of_getElem? found) (by rw [suppressed]; rfl)
  refine ⟨other, reading, ?_, notified.answersTrue, window⟩
  rintro rfl
  obtain ⟨one, at_, -, notifies⟩ := notified
  cases at_.symm.trans found
  rw [suppressed] at notifies
  cases notifies

/-- The window is one of the readings, if that of the suppressed call can be shifted. -/
theorem within_window {reading : UInt64} (fits : call.Fits)
    (window : Coalescer.suppresses (reading + 1) call.now = true) :
    (call.reading.toNat : Int) - reading.toNat < 100 := by
  obtain ⟨recorded, late⟩ := Coalescer.suppresses_iff.mp window
  have now := NotifyCall.now_of_fits fits
  have stored := toNat_shifted (fits_of_shifted recorded)
  omega

end Answers

/-- For every interleaving of the calls on a coalescer: a call that answers false is not the
only one, for another answers true; the other stored a time less than a window before, unless
the shift of the call's own reading wraps around; and calls one after another that answer
true are a window apart, unless such a shift wraps around, whether or not the clock is
monotonic. -/
theorem suppressed_calls_are_covered (checked : Bool) {actions : List NotifyAction}
    {coalescer : Coalescer}
    (performed : run (Coalescer.step checked) .new actions = some coalescer) :
    (∀ (index : Nat) (call : NotifyCall), coalescer.calls[index]? = some call →
      call.phase = .returned false →
      ∃ other reading, other ≠ index ∧ coalescer.AnswersTrue checked other reading) ∧
    (∀ (index : Nat) (call : NotifyCall), coalescer.calls[index]? = some call →
      call.phase = .returned false → checked = true ∨ call.reading.toNat + 1 < UInt64.size →
      ∃ other reading, other ≠ index ∧ coalescer.AnswersTrue checked other reading ∧
        (call.reading.toNat : Int) - reading.toNat < 100) ∧
    (StepsMeet (Coalescer.step checked) Coalescer.startsAlone .new actions →
      (∀ action ∈ actions, action.fits checked = true) →
      ∀ (earlier later : Nat) (first second : NotifyCall), earlier < later →
        coalescer.calls[earlier]? = some first → coalescer.calls[later]? = some second →
        first.phase = .returned true → second.phase = .returned true →
        first.reading.toNat + 100 ≤ second.reading.toNat) := by
  refine ⟨?_, ?_, ?_⟩
  · intro index call found suppressed
    obtain ⟨other, reading, different, answers, -⟩ :=
      suppressed_by_other performed found suppressed
    exact ⟨other, reading, different, answers⟩
  · intro index call found suppressed inRange
    obtain ⟨other, reading, different, answers, window⟩ :=
      suppressed_by_other performed found suppressed
    have fits : call.Fits := by
      rcases inRange with isChecked | fits
      · apply (coverInv_run performed).fits isChecked call (List.mem_of_getElem? found)
        rw [suppressed]
        nofun
      · exact fits
    exact ⟨other, reading, different, answers, within_window fits window⟩
  · intro alone fits earlier later first second less one two firstTrue secondTrue
    apply (spacedInv_run alone fits performed).spaced earlier later _ _ less
    · exact ⟨first, one, rfl, by rw [firstTrue]; rfl⟩
    · exact ⟨second, two, rfl, by rw [secondTrue]; rfl⟩

/-- Calls that overlap, of which the one that answers false returns first, and calls one after
another. -/
theorem coverage_of_two_calls :
    (∃ coalescer, run (Coalescer.step false) .new
        [.call 5, .call 6, .load 0, .store 0, .load 1, .answer 1] = some coalescer ∧
      ∃ other reading, other ≠ 1 ∧ coalescer.AnswersTrue false other reading ∧
        ((6 : UInt64).toNat : Int) - reading.toNat < 100) ∧
    ∃ coalescer, run (Coalescer.step false) .new
        [.call 0, .load 0, .store 0, .answer 0, .call 100, .load 1, .store 1, .answer 1] =
          some coalescer ∧
      (0 : UInt64).toNat + 100 ≤ (100 : UInt64).toNat := by
  constructor
  · let overlapping : Coalescer :=
      { last := 6
        calls := [{ reading := 5, phase := .answering true },
          { reading := 6, phase := .returned false }] }
    have performed : run (Coalescer.step false) .new
        [.call 5, .call 6, .load 0, .store 0, .load 1, .answer 1] = some overlapping := by
      decide
    refine ⟨overlapping, performed, ?_⟩
    exact (suppressed_calls_are_covered false performed).2.1 1
      { reading := 6, phase := .returned false } rfl rfl (Or.inr (by decide))
  · let sequential : Coalescer :=
      { last := 101
        calls := [{ reading := 0, phase := .returned true },
          { reading := 100, phase := .returned true }] }
    have performed : run (Coalescer.step false) .new
        [.call 0, .load 0, .store 0, .answer 0, .call 100, .load 1, .store 1, .answer 1] =
          some sequential := by
      decide
    refine ⟨sequential, performed, ?_⟩
    apply (suppressed_calls_are_covered false performed).2.2 ?_ (by decide) 0 1
      { reading := 0, phase := .returned true } { reading := 100, phase := .returned true }
      (by decide) rfl rfl rfl rfl
    simp [StepsMeet, Coalescer.step, Coalescer.startsAlone, Coalescer.new, Coalescer.setPhase,
      Coalescer.suppresses, never, NotifyCall.now, NotifyPhase.isOver]

/-- Without overflow checks the greatest reading is stored as `NEVER`, and compared as zero:
two calls, one after the other at one time, both answer true, and a call long after the last
answers false.  No running clock gives this reading: it counts the microseconds since the first
call, and reaches 2⁶⁴ - 1 after more than 580000 years. -/
theorem greatest_reading_wraps :
    let greatest : UInt64 := 18446744073709551615
    let twice : List NotifyAction :=
      [.call greatest, .load 0, .store 0, .answer 0, .call greatest, .load 1, .store 1, .answer 1]
    (StepsMeet (Coalescer.step false) Coalescer.startsAlone .new twice ∧
      run (Coalescer.step false) .new twice =
        some { last := 0, calls := [{ reading := greatest, phase := .returned true },
          { reading := greatest, phase := .returned true }] } ∧
      ¬ greatest.toNat + 100 ≤ greatest.toNat) ∧
    run (Coalescer.step false) .new
        [.call 0, .load 0, .store 0, .answer 0, .call greatest, .load 1, .answer 1] =
      some { last := 1, calls := [{ reading := 0, phase := .returned true },
        { reading := greatest, phase := .returned false }] } ∧
    ¬ (greatest.toNat : Int) - (0 : UInt64).toNat < 100 := by
  refine ⟨⟨?_, by decide, by decide⟩, by decide, by decide⟩
  simp [StepsMeet, Coalescer.step, Coalescer.startsAlone, Coalescer.new, Coalescer.setPhase,
    Coalescer.suppresses, never, NotifyCall.now, NotifyPhase.isOver]

end IceRpc
