/-
Module: IceRpc.Proofs.SampleLoss
Purpose: The numbers of a publisher port against the losses an observer reports of it:
  a number is drawn before the sample is sent, so a publication that fails leaves a
  hole and two threads can send in the other order, and either is reported as a loss.
  Of publishers whose numbers go up, the losses reported are the numbers skipped.
Trusted boundary: none
Main exports: LossTracker.reported, PublisherPort.InOrder, no_loss_invented_iff,
  losses_of_ordered_publishers
-/
import IceRpc.Lib.Gaps
import IceRpc.Lib.Run
import IceRpc.Monitor.Collector
import IceRpc.Transport.Publish

namespace IceRpc

open Lib

/-! ### What the tracker reports -/

namespace LossTracker

/-- All that the tracker reports missing of one publisher, in a sequence of observations
of any publishers. -/
def reported (publisherId : PublisherId) : LossTracker → List (PublisherId × UInt64) → Nat
  | _, [] => 0
  | tracker, (observed, seq) :: observations =>
      let (missed, tracker) := tracker.observe observed seq
      (if observed = publisherId then missed.toNat else 0) +
        reported publisherId tracker observations

/-- The numbers that were observed of one publisher. -/
def received (publisherId : PublisherId) (observations : List (PublisherId × UInt64)) :
    List UInt64 :=
  (observations.filter fun observed => observed.1 = publisherId).map Prod.snd

theorem saturatingAdd_toNat (first second : UInt64) :
    (saturatingAdd first second).toNat = min (first.toNat + second.toNat) (2 ^ 64 - 1) := by
  unfold saturatingAdd
  split
  · rename_i fits
    rw [UInt64.toNat_add, Nat.mod_eq_of_lt fits]
    omega
  · rename_i exceeds
    have largest : (0xFFFFFFFFFFFFFFFF : UInt64).toNat = 2 ^ 64 - 1 := by decide
    rw [largest]
    omega

/-- What is reported of one observation is what is missing between the numbers. -/
theorem missed_toNat (previous seq : UInt64) :
    (if saturatingAdd previous 1 < seq then seq - previous - 1 else 0).toNat =
      seq.toNat - (previous.toNat + 1) := by
  have small := seq.toNat_lt
  have next := saturatingAdd_toNat previous 1
  rw [UInt64.toNat_one] at next
  split
  · rename_i beyond
    rw [UInt64.lt_iff_toNat_lt] at beyond
    rw [UInt64.toNat_sub, UInt64.toNat_sub, UInt64.toNat_one]
    omega
  · rename_i within
    rw [UInt64.lt_iff_toNat_lt] at within
    rw [UInt64.toNat_zero]
    omega

/-- The numbers missing after what the tracker last saw of a publisher. -/
def missingAfter (last : Option UInt64) (numbers : List Nat) : Nat :=
  match last with
  | none => gaps numbers
  | some previous => gapsFrom previous.toNat numbers

/-- The tracker reports the numbers missing between the observations of a publisher,
whatever it observes of others meanwhile. -/
theorem reported_eq (publisherId : PublisherId) (tracker : LossTracker)
    (observations : List (PublisherId × UInt64)) :
    tracker.reported publisherId observations =
      missingAfter (tracker.last publisherId)
        ((received publisherId observations).map UInt64.toNat) := by
  induction observations generalizing tracker with
  | nil => cases last : tracker.last publisherId <;> rfl
  | cons observation observations ih =>
      obtain ⟨observed, seq⟩ := observation
      simp only [reported, observe, ih]
      by_cases own : observed = publisherId
      · subst own
        simp only [received, Function.update_self, List.filter_cons, decide_true, if_true,
          List.map_cons]
        cases tracker.last observed with
        | none => exact Nat.zero_add _
        | some previous =>
            simp only [missed_toNat]
            rfl
      · simp only [received, Function.update_of_ne (Ne.symm own), List.filter_cons, own,
          decide_false, if_false, Bool.false_eq_true, Nat.zero_add]

theorem received_prefix (publisherId : PublisherId)
    {seen observations : List (PublisherId × UInt64)} (part : seen <+: observations) :
    received publisherId seen <+: received publisherId observations :=
  (part.filter _).map Prod.snd

/-- Of a publisher whose numbers go up, the tracker reports the numbers that were skipped. -/
theorem reported_eq_skipped (publisherId : PublisherId)
    {observations : List (PublisherId × UInt64)}
    (increasing : (received publisherId observations).Pairwise (· < ·)) :
    default.reported publisherId observations =
      (skipped ((received publisherId observations).map UInt64.toNat)).card := by
  rw [reported_eq]
  apply gaps_eq_card_skipped
  rw [List.pairwise_map]
  exact increasing

end LossTracker

/-- **Ordered publishers are counted exactly.**  When the observed numbers of every
publisher go up, what is reported of a publisher after any part of the observations is
how many numbers were skipped between its first and its last, and any other interleaving
of that part of its samples reports the same. -/
theorem losses_of_ordered_publishers (observations : List (PublisherId × UInt64))
    (ordered : ∀ publisherId, (LossTracker.received publisherId observations).Pairwise (· < ·))
    (publisherId : PublisherId) (seen : List (PublisherId × UInt64))
    (part : seen <+: observations) :
    LossTracker.default.reported publisherId seen =
      (skipped ((LossTracker.received publisherId seen).map UInt64.toNat)).card ∧
    ∀ woven : List (PublisherId × UInt64),
      LossTracker.received publisherId woven = LossTracker.received publisherId seen →
      LossTracker.default.reported publisherId woven =
        LossTracker.default.reported publisherId seen := by
  have increasing := (ordered publisherId).sublist
    (LossTracker.received_prefix publisherId part).sublist
  refine ⟨LossTracker.reported_eq_skipped publisherId increasing, ?_⟩
  intro woven same
  rw [LossTracker.reported_eq, LossTracker.reported_eq, same]

/-- Two publishers, one of which starts at 5 and skips 7 and 8, and the other goes from 0
to the largest number at once. -/
theorem losses_of_two_publishers :
    LossTracker.default.reported 1
        [(1, 5), (2, 0), (1, 6), (2, 0xFFFFFFFFFFFFFFFF), (1, 9)] =
      (skipped [5, 6, 9]).card ∧ (skipped [5, 6, 9]).card = 2 := by
  have ordered : ∀ publisherId, (LossTracker.received publisherId
      [(1, 5), (2, 0), (1, 6), (2, 0xFFFFFFFFFFFFFFFF), (1, 9)]).Pairwise (· < ·) := by
    intro publisherId
    by_cases first : publisherId = 1
    · subst first
      decide
    · by_cases second : publisherId = 2
      · subst second
        decide
      · have none_ : LossTracker.received publisherId
            [(1, 5), (2, 0), (1, 6), (2, 0xFFFFFFFFFFFFFFFF), (1, 9)] = [] := by
          have one := Ne.symm first
          have two := Ne.symm second
          simpa [LossTracker.received] using ⟨one, two, one, two, one⟩
        rw [none_]
        exact .nil
  exact ⟨(losses_of_ordered_publishers _ ordered 1 _ (List.prefix_refl _)).1, by decide⟩

/-! ### The order of the samples of a port -/

namespace PublisherPort

/-- The numbers of the samples that were sent, in their order. -/
def numbers (port : PublisherPort) : List UInt64 := port.sent.map RpcHeader.seq

/-- A sample that is sent carries at most the number after that of the one sent before
it. -/
def InOrder (port : PublisherPort) : PortAction → Prop
  | .stamp .. => True
  | .attempt index met =>
      ∀ publication ∈ port.pending[index]?, (publication.attempt met).2 ≠ [] →
        ∀ previous ∈ port.sent.getLast?,
          publication.header.seq.toNat ≤ previous.seq.toNat + 1

/-- What a step sends. -/
theorem step_sent {port next : PublisherPort} {action : PortAction}
    (performed : port.step action = some next) :
    (next.sent = port.sent ∧ port.InOrder action) ∨
      ∃ header, next.sent = port.sent ++ [header] ∧
        (port.InOrder action ↔ ∀ previous ∈ port.sent.getLast?,
          header.seq.toNat ≤ previous.seq.toNat + 1) := by
  cases action with
  | stamp mode header payload =>
      cases performed
      exact .inl ⟨rfl, trivial⟩
  | attempt index met =>
      obtain ⟨publication, found, rfl⟩ := Option.map_eq_some_iff.mp performed
      cases taken : (publication.attempt met).2 with
      | nil =>
          refine .inl ⟨?_, ?_⟩
          · simp only [taken, List.isEmpty_nil, if_true]
          · intro other same some_
            cases found.symm.trans same
            exact absurd taken some_
      | cons taker takers =>
          refine .inr ⟨publication.header, ?_, ?_⟩
          · simp only [taken, List.isEmpty_cons, Bool.false_eq_true, if_false]
          · simp only [InOrder, found, Option.mem_some_iff, forall_eq', taken, ne_eq,
              List.cons_ne_nil, not_false_eq_true, forall_const]

/-- The samples sent so far carry numbers without a hole. -/
def Contiguous (port : PublisherPort) : Prop := Unbroken (port.numbers.map UInt64.toNat)

theorem contiguous_snoc {port next : PublisherPort} {header : RpcHeader}
    (sent : next.sent = port.sent ++ [header]) :
    next.Contiguous ↔ port.Contiguous ∧ ∀ previous ∈ port.sent.getLast?,
      header.seq.toNat ≤ previous.seq.toNat + 1 := by
  simp only [Contiguous, numbers, sent, List.map_append, List.map_cons, List.map_nil,
    unbroken_snoc, List.getLast?_map]
  cases port.sent.getLast? <;> simp

theorem contiguous_iff_stepsMeet {actions : List PortAction} {final : PublisherPort}
    (performed : run step new actions = some final) :
    final.Contiguous ↔ StepsMeet step InOrder new actions := by
  refine final_iff_stepsMeet (fun _ => True) Contiguous InOrder (fun _ _ _ _ _ => trivial)
    ?_ ?_ trivial .nil performed
  · intro port action next _ contiguous moved
    rcases step_sent moved with ⟨same, inOrder⟩ | ⟨header, sent, inOrder⟩
    · refine iff_of_true ?_ inOrder
      rw [Contiguous, numbers, same]
      exact contiguous
    · rw [contiguous_snoc sent, inOrder]
      exact and_iff_right contiguous
  · intro port action next _ broken moved contiguous
    rcases step_sent moved with ⟨same, -⟩ | ⟨header, sent, -⟩
    · rw [Contiguous, numbers, same] at contiguous
      exact broken contiguous
    · exact broken ((contiguous_snoc sent).mp contiguous).1

end PublisherPort

/-- **No loss is invented** of a port that any number of threads share: whatever part of
the samples that were sent an observer receives, in their order and among those of any
other ports, it reports no more losses than it had, exactly if each sample that was sent
carried at most the number after that of the one before it. -/
theorem no_loss_invented_iff (actions : List PortAction) (final : PublisherPort)
    (publisherId : PublisherId)
    (performed : run PublisherPort.step PublisherPort.new actions = some final) :
    (∀ observations : List (PublisherId × UInt64),
      (LossTracker.received publisherId observations).Sublist final.numbers →
      LossTracker.default.reported publisherId observations ≤
        final.sent.length - (LossTracker.received publisherId observations).length) ↔
    StepsMeet PublisherPort.step PublisherPort.InOrder PublisherPort.new actions := by
  rw [← PublisherPort.contiguous_iff_stepsMeet performed, PublisherPort.Contiguous,
    ← gaps_le_left_out_iff]
  have length : (final.numbers.map UInt64.toNat).length = final.sent.length := by
    rw [PublisherPort.numbers, List.length_map, List.length_map]
  constructor
  · -- an observer of this port alone may receive any part of what was sent
    intro bounded received among
    obtain ⟨seqs, part, rfl⟩ := List.sublist_map_iff.mp among
    have own : LossTracker.received publisherId (seqs.map fun seq => (publisherId, seq)) =
        seqs := by
      simp [LossTracker.received, List.filter_map, Function.comp_def]
    have reports := bounded (seqs.map fun seq => (publisherId, seq)) (by rwa [own])
    rw [LossTracker.reported_eq, own] at reports
    rw [length, List.length_map]
    exact reports
  · intro bounded observations among
    have missing := bounded _ (among.map UInt64.toNat)
    rw [length, List.length_map] at missing
    rw [LossTracker.reported_eq]
    exact missing

/-- A request before its number is drawn. -/
def unstamped : RpcHeader := .request (Vector.replicate 16 7) 1 2 1 10

/-- An attempt that the provider and an observer take. -/
def bothConnected : Conditions :=
  { shutdown := false
    counted := [⟨.provider, 8, []⟩, ⟨.observer 0, 8, []⟩]
    loanError := none
    sendError := none
    topic := [⟨.provider, 8, []⟩, ⟨.observer 0, 8, []⟩]
    takes := Subscriber.hasRoom
    expired := false
    terminating := false }

/-- Two requests one after the other. -/
def twoRequests : List PortAction :=
  [.stamp .untilDelivered unstamped [], .attempt 0 bothConnected,
    .stamp .untilDelivered unstamped [], .attempt 0 bothConnected]

/-- A request, a Cancel that finds no sample to loan, and a request. -/
def loanFailsBetween : List PortAction :=
  [.stamp .untilDelivered unstamped [], .attempt 0 bothConnected,
    .stamp .bestEffort unstamped [],
    .attempt 0 { bothConnected with loanError := some "OutOfMemory" },
    .stamp .untilDelivered unstamped [], .attempt 0 bothConnected]

/-- Four requests of which the third is sent before the second. -/
def overtakingThreads : List PortAction :=
  [.stamp .untilDelivered unstamped [], .attempt 0 bothConnected,
    .stamp .untilDelivered unstamped [], .stamp .untilDelivered unstamped [],
    .attempt 1 bothConnected, .attempt 0 bothConnected,
    .stamp .untilDelivered unstamped [], .attempt 0 bothConnected]

theorem no_loss_invented_two_requests :
    ∃ final, run PublisherPort.step .new twoRequests = some final ∧
      final.numbers = [0, 1] ∧
      ∀ observations, (LossTracker.received 7 observations).Sublist final.numbers →
        LossTracker.default.reported 7 observations ≤
          final.sent.length - (LossTracker.received 7 observations).length := by
  obtain ⟨final, performed, numbers⟩ : ∃ final, run PublisherPort.step .new twoRequests =
      some final ∧ final.numbers = [0, 1] := ⟨_, rfl, by decide⟩
  refine ⟨final, performed, numbers, (no_loss_invented_iff twoRequests final 7 performed).mpr ?_⟩
  refine ⟨trivial, ?_⟩
  rintro _ ⟨⟩
  refine ⟨?_, ?_⟩
  · intro publication _ _ previous last
    cases last
  rintro _ ⟨⟩
  refine ⟨trivial, ?_⟩
  rintro _ ⟨⟩
  refine ⟨?_, fun _ _ => trivial⟩
  intro publication found _ previous last
  cases found
  cases last
  decide

/-- Both samples that were sent are received and one is reported as lost, its number
having been drawn by a publication that failed; and of four samples that are all
received, two are reported, the third having been sent before the second. -/
theorem losses_invented :
    (∃ final, run PublisherPort.step .new loanFailsBetween = some final ∧
      final.numbers = [0, 2] ∧
      LossTracker.received 7 [(7, 0), (7, 2)] = final.numbers ∧
      LossTracker.default.reported 7 [(7, 0), (7, 2)] = 1) ∧
    ∃ final, run PublisherPort.step .new overtakingThreads = some final ∧
      final.numbers = [0, 2, 1, 3] ∧
      LossTracker.received 7 [(7, 0), (7, 2), (7, 1), (7, 3)] = final.numbers ∧
      LossTracker.default.reported 7 [(7, 0), (7, 2), (7, 1), (7, 3)] = 2 := by
  exact ⟨⟨_, rfl, by decide, by decide, by decide⟩, _, rfl, by decide, by decide, by decide⟩

end IceRpc
