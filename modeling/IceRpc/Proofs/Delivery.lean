/-
Module: IceRpc.Proofs.Delivery
Purpose: What a successful publication means.  `publish_until_delivered` stops at the
  first send with a taker, so it reaches the process a sample is addressed to
  exactly where no other subscriber can take the sample alone.
Trusted boundary: none
Main exports: addressee, publishAttempt_cases, publishAttempt_takers,
  delivered_to_addressee_iff
-/
import Mathlib.Data.List.Basic
import IceRpc.Transport.Publish

namespace IceRpc

/-! ### One attempt -/

/-- A successful `try_publish` sent the sample and counted its takers. -/
theorem tryPublish_ok {header : RpcHeader} {payload : Bytes} {met : Conditions}
    {taken : Bool} {sent : Sent}
    (published : tryPublish header payload met = (.ok taken, sent)) :
    met.loanError = none ∧ met.sendError = none ∧
      sent.takers = (met.topic.filter met.takes).map Subscriber.port ∧
      (taken = true ↔ sent.takers ≠ []) := by
  cases noLoanError : met.loanError with
  | some err => simp [tryPublish, noLoanError] at published
  | none =>
      cases noSendError : met.sendError with
      | some err => simp [tryPublish, noLoanError, noSendError] at published
      | none =>
          simp only [tryPublish, noLoanError, noSendError, Prod.mk.injEq,
            Except.ok.injEq] at published
          obtain ⟨rfl, rfl⟩ := published
          refine ⟨rfl, rfl, rfl, ?_⟩
          rw [decide_eq_true_iff, gt_iff_lt, List.length_pos_iff]

/-- A failed `try_publish` reached nobody. -/
theorem tryPublish_error {header : RpcHeader} {payload : Bytes} {met : Conditions}
    {err : RpcError} {sent : Sent}
    (published : tryPublish header payload met = (.error err, sent)) :
    sent.takers = [] := by
  cases noLoanError : met.loanError with
  | some message =>
      simp only [tryPublish, noLoanError, Prod.mk.injEq] at published
      rw [← published.2]
      rfl
  | none =>
      cases noSendError : met.sendError with
      | some message =>
          simp only [tryPublish, noLoanError, noSendError, Prod.mk.injEq] at published
          rw [← published.2]
          rfl
      | none => simp [tryPublish, noLoanError, noSendError] at published

theorem ofBackoff_ne_ok (attempts : Nat) (met : Conditions) :
    Progress.ofBackoff attempts met ≠ .returned (.ok ()) := by
  unfold Progress.ofBackoff
  split <;> simp

/-- What one iteration of the loop can do: deliver the sample and return, or reach
nobody and not return success. -/
theorem publishAttempt_cases (header : RpcHeader) (payload : Bytes) (attempts : Nat)
    (met : Conditions) :
    (∃ takers, publishAttempt header payload attempts met =
        (.returned (.ok ()), takers) ∧
      takers = (met.topic.filter met.takes).map Subscriber.port ∧
      takers ≠ []) ∨
    (∃ progress, publishAttempt header payload attempts met = (progress, []) ∧
      progress ≠ .returned (.ok ())) := by
  by_cases shutdown : met.shutdown = true
  · exact Or.inr ⟨.returned (.error .cancelled), by simp [publishAttempt, shutdown],
      by simp⟩
  by_cases nobody : met.counted.numberOfSubscribers = 0
  · by_cases expired : met.expired = true
    · exact Or.inr ⟨_, by simp only [publishAttempt, shutdown, nobody, expired]; rfl,
        by simp⟩
    · exact Or.inr ⟨.ofBackoff attempts met,
        by simp [publishAttempt, shutdown, nobody, expired],
        ofBackoff_ne_ok attempts met⟩
  match published : tryPublish header payload met with
  | (.error err, sent) =>
      refine Or.inr ⟨.returned (.error err), ?_, by simp⟩
      simp [publishAttempt, shutdown, nobody, published, tryPublish_error published]
  | (.ok true, sent) =>
      obtain ⟨-, -, takers, taken⟩ := tryPublish_ok published
      refine Or.inl ⟨sent.takers, ?_, takers, taken.mp rfl⟩
      simp [publishAttempt, shutdown, nobody, published]
  | (.ok false, sent) =>
      obtain ⟨-, -, -, taken⟩ := tryPublish_ok published
      have untaken : sent.takers = [] := by
        by_contra some
        cases taken.mpr some
      by_cases expired : met.expired = true
      · exact Or.inr ⟨.returned (.error
          (.transportError "delivery refused: the subscriber buffer stayed full")),
          by simp [publishAttempt, shutdown, nobody, published, untaken, expired],
          by simp⟩
      · exact Or.inr ⟨.ofBackoff attempts met,
          by simp [publishAttempt, shutdown, nobody, published, untaken, expired],
          ofBackoff_ne_ok attempts met⟩

/-- An attempt has takers exactly when it makes the publication return success. -/
theorem publishAttempt_takers (header : RpcHeader) (payload : Bytes) (attempts : Nat)
    (met : Conditions) :
    (publishAttempt header payload attempts met).2 ≠ [] ↔
      (publishAttempt header payload attempts met).1 = .returned (.ok ()) := by
  rcases publishAttempt_cases header payload attempts met with
    ⟨takers, attempted, -, taken⟩ | ⟨progress, attempted, notOk⟩
  · simp [attempted, taken]
  · simp [attempted, notOk]

/-! ### Who took a delivered sample -/

/-- The process a sample is addressed to: the provider for a request or a Cancel,
the consumer that issued the call for a response. -/
def addressee (issuer : CorrelationId → Nat) (header : RpcHeader) : Port :=
  match header.eventKind with
  | .request | .cancel => .provider
  | _ => .consumer (issuer header.correlationId)

namespace Topic

/-- Some connected subscriber has room. -/
def AnyRoom (topic : Topic) : Prop :=
  ∃ subscriber ∈ topic, subscriber.hasRoom = true

/-- The process is connected and has room. -/
def RoomFor (topic : Topic) (port : Port) : Prop :=
  ∃ subscriber ∈ topic, subscriber.port = port ∧ subscriber.hasRoom = true

theorem mem_takers {topic : Topic} {port : Port} :
    port ∈ (topic.filter Subscriber.hasRoom).map Subscriber.port ↔
      topic.RoomFor port := by
  constructor
  · intro member
    obtain ⟨subscriber, found, rfl⟩ := List.mem_map.mp member
    obtain ⟨connected, room⟩ := List.mem_filter.mp found
    exact ⟨subscriber, connected, rfl, room⟩
  · rintro ⟨subscriber, connected, rfl, room⟩
    exact List.mem_map.mpr ⟨subscriber, List.mem_filter.mpr ⟨connected, room⟩, rfl⟩

theorem anyRoom_of_takers {topic : Topic}
    (taken : (topic.filter Subscriber.hasRoom).map Subscriber.port ≠ []) :
    topic.AnyRoom := by
  obtain ⟨port, member⟩ := List.exists_mem_of_ne_nil _ taken
  obtain ⟨subscriber, connected, -, room⟩ := mem_takers.mp member
  exact ⟨subscriber, connected, room⟩

end Topic

/-- A run that returned success ended with an attempt whose takers are part of the
run's. -/
theorem publishUntilDelivered_ok {header : RpcHeader} {payload : Bytes}
    {attempts : Nat} {run : List Conditions} {takers : List Port}
    (returned : publishUntilDelivered header payload attempts run =
      some (.ok (), takers)) :
    ∃ met ∈ run, takers = (met.topic.filter met.takes).map Subscriber.port ∧
      takers ≠ [] := by
  induction run generalizing attempts takers with
  | nil => cases returned
  | cons met later ih =>
      rcases publishAttempt_cases header payload attempts met with
        ⟨found, attempted, isTakers, taken⟩ | ⟨progress, attempted, notOk⟩
      · simp only [publishUntilDelivered, attempted, Option.some.injEq,
          Prod.mk.injEq, true_and] at returned
        subst returned
        exact ⟨met, List.mem_cons_self, isTakers, taken⟩
      · cases progress with
        | returned result =>
            simp only [publishUntilDelivered, attempted, Option.some.injEq,
              Prod.mk.injEq] at returned
            rw [returned.1] at notOk
            exact absurd rfl notOk
        | retry attempts =>
            simp only [publishUntilDelivered, attempted, Option.map_eq_some_iff,
              List.nil_append, Prod.exists, Prod.mk.injEq] at returned
            obtain ⟨result, others, rest, rfl, rfl⟩ := returned
            obtain ⟨last, member, facts⟩ := ih rest
            exact ⟨last, List.mem_cons_of_mem met member, facts⟩

/-- Let `possible` be the states the topic may be in when a sample is sent, and let a
subscriber take it exactly if it has room.  Every run of `publish_until_delivered` over
such states that returns `Ok` delivered the sample to its addressee exactly when, in
every such state in which some subscriber has room, the addressee is connected and has
room. -/
theorem delivered_to_addressee_iff (issuer : CorrelationId → Nat)
    (header : RpcHeader) (payload : Bytes) (possible : Topic → Prop) :
    (∀ attempts run takers, (∀ met ∈ run, possible met.topic ∧ met.TakenByRoom) →
      publishUntilDelivered header payload attempts run = some (.ok (), takers) →
      addressee issuer header ∈ takers) ↔
    ∀ topic, possible topic → topic.AnyRoom →
      topic.RoomFor (addressee issuer header) := by
  constructor
  · intro reaches topic isPossible room
    obtain ⟨subscriber, connected, hasRoom⟩ := room
    -- One iteration that finds the topic in this state.
    let met : Conditions :=
      { shutdown := false, counted := topic, loanError := none, sendError := none,
        topic := topic, takes := Subscriber.hasRoom, expired := false, terminating := false }
    have someone : topic ≠ [] := List.ne_nil_of_mem connected
    have takes : (topic.filter Subscriber.hasRoom).map Subscriber.port ≠ [] := by
      apply List.ne_nil_of_mem
      exact Topic.mem_takers.mpr ⟨subscriber, connected, rfl, hasRoom⟩
    have returned : publishUntilDelivered header payload 0 [met] =
        some (.ok (), (topic.filter Subscriber.hasRoom).map Subscriber.port) := by
      have counted : (List.filter Subscriber.hasRoom topic).length > 0 := by
        rw [← List.length_map Subscriber.port]
        exact List.length_pos_iff.mpr takes
      simp [publishUntilDelivered, publishAttempt, met, tryPublish, Topic.send,
        Topic.numberOfSubscribers, someone, counted]
    have byRoom : met.TakenByRoom := fun _ _ => rfl
    have took := reaches 0 [met] _ (by simpa [byRoom] using isPossible) returned
    exact Topic.mem_takers.mp took
  · intro exclusive attempts run takers allPossible returned
    obtain ⟨met, member, isTakers, taken⟩ := publishUntilDelivered_ok returned
    obtain ⟨isPossible, byRoom⟩ := allPossible met member
    rw [isTakers, List.filter_congr byRoom] at taken ⊢
    apply Topic.mem_takers.mpr
    exact exclusive met.topic isPossible (Topic.anyRoom_of_takers taken)

/-- A request is reported as delivered although no provider is connected: the only
subscriber of the topic is an observer, which has room for the sample and takes it. -/
theorem undelivered_to_provider :
    ∃ (header : RpcHeader) (met : Conditions),
      met.topic.map Subscriber.port = [.observer 0] ∧ met.counted = met.topic ∧
      met.TakenByRoom ∧ addressee (fun _ => 0) header = .provider ∧
      publishUntilDelivered header [1] 0 [met] = some (.ok (), [.observer 0]) := by
  let header := RpcHeader.request (Vector.replicate 16 0) 1 2 3 4
  let topic : Topic := [{ port := .observer 0, capacity := 1, buffer := [] }]
  let met : Conditions :=
    { shutdown := false, counted := topic, loanError := none, sendError := none,
      topic := topic, takes := Subscriber.hasRoom, expired := false, terminating := false }
  exact ⟨header, met, rfl, rfl, fun _ _ => rfl, rfl, rfl⟩

end IceRpc
