/-
Module: IceRpc.Lib.Poll
Purpose: Poll answers and scripted pull sources: a finite sequence of items
  together with the infinite schedule that decides, poll by poll, whether the
  source answers at all.
Trusted boundary: none
Main exports: Poll, Source, Source.poll, Source.Fair, Source.poll_cases
-/
import Mathlib.Data.Stream.Init

namespace IceRpc.Lib

/-- Answer of one poll. -/
inductive Poll (α : Type*) where
  | ready (value : α)
  | pending
deriving Repr, DecidableEq

/-- A pull source: the items it has not handed out yet, and for every poll to
come whether it answers or stays silent.  Once its items are gone it answers the
end of the stream, again and again. -/
structure Source (α : Type*) where
  items : List α
  schedule : Stream' Bool

namespace Source

variable {α : Type*}

/-- One poll consumes one entry of the schedule. -/
def poll (source : Source α) : Poll (Option α) × Source α :=
  if source.schedule.head then
    match source.items with
    | [] => (.ready none, { source with schedule := source.schedule.tail })
    | item :: items =>
        (.ready (some item), { items := items, schedule := source.schedule.tail })
  else
    (.pending, { source with schedule := source.schedule.tail })

/-- A source that always answers eventually. -/
def Fair (schedule : Stream' Bool) : Prop :=
  ∀ k, ∃ m, schedule.get (k + m) = true

theorem Fair.tail {schedule : Stream' Bool} (fair : Fair schedule) :
    Fair schedule.tail := by
  intro k
  obtain ⟨m, answered⟩ := fair (k + 1)
  refine ⟨m, ?_⟩
  rw [Stream'.get_tail]
  simpa [Nat.add_right_comm] using answered

theorem fair_const_true : Fair (Stream'.const true) := fun _ => ⟨0, rfl⟩

@[simp] theorem poll_schedule (source : Source α) :
    source.poll.2.schedule = source.schedule.tail := by
  unfold poll
  split
  · split <;> rfl
  · rfl

/-- What a poll can do, read off its answer. -/
theorem poll_cases (source : Source α) :
    (source.poll.1 = .pending ∧ source.schedule.head = false ∧
      source.poll.2.items = source.items) ∨
    (source.poll.1 = .ready none ∧ source.items = [] ∧
      source.poll.2.items = []) ∨
    (∃ item items, source.poll.1 = .ready (some item) ∧
      source.items = item :: items ∧ source.poll.2.items = items) := by
  unfold poll
  split
  · split
    · rename_i empty
      exact Or.inr (Or.inl ⟨rfl, empty, empty⟩)
    · rename_i item items queued
      exact Or.inr (Or.inr ⟨item, items, rfl, queued, rfl⟩)
  · rename_i silent
    exact Or.inl ⟨rfl, by simpa using silent, rfl⟩

end Source

end IceRpc.Lib
