/-
Module: IceRpc.Proofs.Registration
Purpose: What becomes of the registrations of a process.  Every accepted one is, at
  any time, in exactly one place: the registry, the channels a start has drained, or
  a started thread.  It reaches a thread exactly when no registration that found the
  flag unset joins the registry behind the drain.
Trusted boundary: none
Main exports: entries, joinRegistry_ok, joinRegistry_ok_perm, Registering.step_moves,
  Registering.Accounted, Registering.final_registry_iff, no_registration_lost
-/
import IceRpc.Lib.Run
import IceRpc.Lib.Table
import IceRpc.Transport.Registration

namespace IceRpc

open Lib

variable {F : Type}

/-! ### The services of a list of channels -/

/-- The services of a list of channels, each with its channel. -/
def entries (channels : List (ProvidedChannel F)) :
    List (String × RegisteredChannelService F) :=
  channels.flatMap fun provided =>
    provided.services.map fun service => (provided.channel, service)

@[simp] theorem entries_nil : entries ([] : List (ProvidedChannel F)) = [] := rfl

@[simp] theorem entries_cons (provided : ProvidedChannel F)
    (channels : List (ProvidedChannel F)) :
    entries (provided :: channels) =
      provided.services.map (fun service => (provided.channel, service)) ++
        entries channels := rfl

@[simp] theorem entries_append (first second : List (ProvidedChannel F)) :
    entries (first ++ second) = entries first ++ entries second := by
  simp [entries]

theorem entries_perm {first second : List (ProvidedChannel F)}
    (same : first.Perm second) : (entries first).Perm (entries second) :=
  same.flatMap_right _

/-- A registration that joins the registry extends the entry of its channel, which
has no service of its id, or makes the first entry of the channel. -/
theorem joinRegistry_ok {channel : String} {service : RegisteredChannelService F}
    {registry joined : List (ProvidedChannel F)}
    (accepted : joinRegistry channel service registry = .ok joined) :
    (∃ before services after, registry = before ++ ⟨channel, services⟩ :: after ∧
      conflictingName services service.dispatcher.service.id = none ∧
      joined = before ++ ⟨channel, services ++ [service]⟩ :: after) ∨
    (channel ∉ registry.map (·.channel) ∧
      joined = registry ++ [⟨channel, [service]⟩]) := by
  induction registry generalizing joined with
  | nil =>
      cases accepted
      exact Or.inr ⟨by simp, rfl⟩
  | cons pending registry ih =>
      simp only [joinRegistry] at accepted
      split at accepted
      · rename_i same
        split at accepted
        · cases accepted
        · rename_i free
          cases accepted
          subst same
          exact Or.inl ⟨[], pending.services, registry, rfl, free, rfl⟩
      · rename_i different
        cases rest : joinRegistry channel service registry with
        | error refusal =>
            rw [rest] at accepted
            cases accepted
        | ok others =>
            rw [rest] at accepted
            cases accepted
            rcases ih rest with ⟨before, services, after, split, free, rfl⟩ | ⟨fresh, rfl⟩
            · exact Or.inl ⟨pending :: before, services, after, by rw [split]; rfl, free,
                rfl⟩
            · refine Or.inr ⟨?_, rfl⟩
              rw [List.map_cons, List.mem_cons, not_or]
              exact ⟨fun same => different same.symm, fresh⟩

/-- A registration that joins the registry adds its service to the channel, and
changes nothing else. -/
theorem joinRegistry_ok_perm {channel : String} {service : RegisteredChannelService F}
    {registry joined : List (ProvidedChannel F)}
    (accepted : joinRegistry channel service registry = .ok joined) :
    (entries joined).Perm (entries registry ++ [(channel, service)]) := by
  rcases joinRegistry_ok accepted with ⟨before, services, after, rfl, -, rfl⟩ | ⟨-, rfl⟩
  · simp only [entries_append, entries_cons, List.map_append, List.map_cons,
      List.map_nil, List.append_assoc]
    exact (List.perm_append_comm.append_left _).append_left _
  · simp

/-- Joining leaves no channel of the registry without services, and the registry not
empty. -/
theorem joinRegistry_ok_inhabited {channel : String}
    {service : RegisteredChannelService F} {registry joined : List (ProvidedChannel F)}
    (accepted : joinRegistry channel service registry = .ok joined)
    (inhabited : ∀ provided ∈ registry, provided.services ≠ []) :
    joined ≠ [] ∧ ∀ provided ∈ joined, provided.services ≠ [] := by
  rcases joinRegistry_ok accepted with ⟨before, services, after, rfl, -, rfl⟩ | ⟨-, rfl⟩
  · rw [List.forall_mem_append, List.forall_mem_cons] at inhabited ⊢
    exact ⟨by simp, inhabited.1, by simp, inhabited.2.2⟩
  · rw [List.forall_mem_append]
    exact ⟨by simp, inhabited, by simp⟩

namespace StartPhase

/-- The drained channels a start still has to start. -/
def left : StartPhase F → List (ProvidedChannel F)
  | .starting left => left
  | _ => []

/-- The start is the one that found the flag unset. -/
def engaged : StartPhase F → Bool
  | .draining | .starting _ | .started => true
  | .swapping | .skipped => false

/-- The start has drained the registry. -/
def drained : StartPhase F → Bool
  | .starting _ | .started => true
  | .swapping | .draining | .skipped => false

/-- The start has returned. -/
def hasReturned : StartPhase F → Bool
  | .started | .skipped => true
  | .swapping | .draining | .starting _ => false

end StartPhase

namespace Registering

/-! ### What one step can do -/

/-- Every step with its guard and the state it leads to, for any result of the
locked access. -/
inductive Moves : Registering F → RegisteringAction F → Registering F → Prop
  | register {state id channel name dispatcher} (fresh : state.calls id = none) :
      Moves state (.register id channel name dispatcher)
        (state.setCall id ⟨channel, ⟨id, name, dispatcher⟩, .loading⟩)
  | load {state id channel service}
      (current : state.calls id = some ⟨channel, service, .loading⟩) :
      Moves state (.load id) (state.setCall id ⟨channel, service,
        if state.shared.channelsSealed then .spawning else .joining⟩)
  | spawn {state id channel service}
      (current : state.calls id = some ⟨channel, service, .spawning⟩) :
      Moves state (.spawn id)
        { state.setCall id ⟨channel, service, .returned (.ok ())⟩ with
          shared := state.shared.spawnNativeService ⟨channel, [service]⟩ }
  | join {state id channel service registry}
      (current : state.calls id = some ⟨channel, service, .joining⟩)
      (accepted : joinRegistry channel service state.shared.registry = .ok registry) :
      Moves state (.join id)
        { state.setCall id ⟨channel, service, .returned (.ok ())⟩ with
          shared := { state.shared with registry := registry } }
  | refuse {state id channel service refusal}
      (current : state.calls id = some ⟨channel, service, .joining⟩)
      (refused : joinRegistry channel service state.shared.registry = .error refusal) :
      Moves state (.join id)
        (state.setCall id ⟨channel, service, .returned (.error refusal)⟩)
  | start {state} :
      Moves state .start { state with starts := state.starts ++ [.swapping] }
  | swap {state id} (current : state.starts[id]? = some .swapping) :
      Moves state (.swap id)
        { state.setStart id
            (if state.shared.channelsSealed then .skipped else .draining) with
          shared := { state.shared with channelsSealed := true } }
  | drain {state id} (current : state.starts[id]? = some .draining) :
      Moves state (.drain id)
        { state.setStart id (.starting state.shared.registry) with
          shared := { state.shared with registry := [] } }
  | startChannel {state id index left provided}
      (current : state.starts[id]? = some (.starting left))
      (picked : left[index]? = some provided) :
      Moves state (.startChannel id index)
        { state.setStart id (.starting (left.eraseIdx index)) with
          shared := state.shared.spawnNativeService provided }
  | finish {state id} (current : state.starts[id]? = some (.starting [])) :
      Moves state (.finish id) (state.setStart id .started)

variable {state next : Registering F}

/-- A performed step is one of the moves. -/
theorem step_moves {action : RegisteringAction F} (performed : state.step action = some next) :
    Moves state action next := by
  cases action with
  | register id channel name dispatcher =>
      simp only [step] at performed
      split at performed
      · rename_i fresh
        cases performed
        exact .register fresh
      · cases performed
  | load id =>
      simp only [step, load] at performed
      split at performed
      · rename_i channel service current
        cases performed
        exact .load current
      · cases performed
  | spawn id =>
      simp only [step, spawn] at performed
      split at performed
      · rename_i channel service current
        cases performed
        exact .spawn current
      · cases performed
  | join id =>
      simp only [step, join] at performed
      split at performed
      · rename_i channel service current
        split at performed
        · rename_i registry accepted
          cases performed
          exact .join current accepted
        · rename_i refusal refused
          cases performed
          exact .refuse current refused
      · cases performed
  | start =>
      cases performed
      exact .start
  | swap id =>
      simp only [step, swap] at performed
      split at performed
      · rename_i current
        cases performed
        exact .swap current
      · cases performed
  | drain id =>
      simp only [step, drain] at performed
      split at performed
      · rename_i current
        cases performed
        exact .drain current
      · cases performed
  | startChannel id index =>
      simp only [step, startChannel] at performed
      split at performed
      · rename_i left current
        split at performed
        · rename_i provided picked
          cases performed
          exact .startChannel current picked
        · cases performed
      · cases performed
  | finish id =>
      simp only [step, finish] at performed
      split at performed
      · rename_i current
        cases performed
        exact .finish current
      · cases performed

/-! ### Every accepted registration is in one place -/

/-- The services that were accepted: handed to a thread, drained by a start, or still
in the registry. -/
def given (state : Registering F) : List (String × RegisteredChannelService F) :=
  entries state.shared.threads ++ entries (state.starts.flatMap StartPhase.left) ++
    entries state.shared.registry

/-- What a registration has to show for itself: its service once it returned `Ok`,
nothing before and nothing on `Err`. -/
def owed : Option (RegisterCall F) → List (String × RegisteredChannelService F)
  | some ⟨channel, service, .returned (.ok _)⟩ => [(channel, service)]
  | _ => []

/-- The registrations number their services, every channel of the registry has
services, exactly one start is engaged once the flag is set, no start returns at once
before, and the service of every accepted registration is in exactly one place. -/
structure Accounted (state : Registering F) : Prop where
  numbered : ∀ id call, state.calls id = some call → call.service.call = id
  inhabited : ∀ provided ∈ state.shared.registry, provided.services ≠ []
  engaged : state.starts.countP StartPhase.engaged =
    if state.shared.channelsSealed then 1 else 0
  skips : .skipped ∈ state.starts → state.shared.channelsSealed = true
  placed : ∀ id, (state.given.filter fun entry => entry.2.call = id) =
    owed (state.calls id)

theorem owed_length_le (call : Option (RegisterCall F)) : (owed call).length ≤ 1 := by
  unfold owed
  split <;> simp

/-- The services change hands without loss: what a step adds to them is what the
registrations have to show in addition. -/
theorem placed_of_added {added : List (String × RegisteredChannelService F)}
    (moved : next.given.Perm (state.given ++ added))
    (shown : ∀ id, owed (next.calls id) =
      owed (state.calls id) ++ added.filter fun entry => entry.2.call = id)
    (placed : ∀ id, (state.given.filter fun entry => entry.2.call = id) = owed (state.calls id)) :
    ∀ id, (next.given.filter fun entry => entry.2.call = id) = owed (next.calls id) := by
  intro id
  have filtered := moved.filter fun entry => entry.2.call = id
  rw [List.filter_append, placed id, ← shown id] at filtered
  have short := owed_length_le (next.calls id)
  cases found : owed (next.calls id) with
  | nil =>
      rw [found] at filtered
      exact filtered.eq_nil
  | cons entry rest =>
      rw [found] at filtered short
      have single : rest = [] := List.eq_nil_of_length_eq_zero (by simpa using short)
      rw [single] at filtered ⊢
      exact List.perm_singleton.mp filtered

/-- A step that moves no service and shows none. -/
theorem placed_of_same (moved : next.given.Perm state.given)
    (shown : ∀ id, owed (next.calls id) = owed (state.calls id))
    (placed : ∀ id, (state.given.filter fun entry => entry.2.call = id) = owed (state.calls id)) :
    ∀ id, (next.given.filter fun entry => entry.2.call = id) = owed (next.calls id) := by
  have nothingAdded : next.given.Perm (state.given ++ []) := by simpa using moved
  apply placed_of_added nothingAdded _ placed
  simpa using shown

/-- The registrations once one of them has a new stand. -/
theorem owed_setCall {id : Nat} {call : RegisterCall F}
    {added : List (String × RegisteredChannelService F)} (before : owed (state.calls id) = [])
    (after : owed (some call) = added) (own : ∀ entry ∈ added, entry.2.call = id) (other : Nat) :
    owed ((state.setCall id call).calls other) =
      owed (state.calls other) ++ added.filter fun entry => entry.2.call = other := by
  simp only [setCall]
  rcases eq_or_ne other id with rfl | different
  · rw [Function.update_self, after, before, List.nil_append]
    symm
    rw [List.filter_eq_self]
    simpa using own
  · rw [Function.update_of_ne different]
    have none_ : (added.filter fun entry => entry.2.call = other) = [] := by
      rw [List.filter_eq_nil_iff]
      intro entry member
      simpa [own entry member] using different.symm
    rw [none_, List.append_nil]

theorem numbered_setCall {id : Nat} {call : RegisterCall F}
    (numbered : ∀ id call, state.calls id = some call → call.service.call = id)
    (own : call.service.call = id) :
    ∀ other found, (state.setCall id call).calls other = some found →
      found.service.call = other := by
  intro other found isFound
  rcases update_some_cases isFound with ⟨rfl, rfl⟩ | ⟨different, before⟩
  · exact own
  · exact numbered other found before

theorem accounted_new : Accounted (new : Registering F) where
  numbered := by simp [new]
  inhabited := by simp [new, Providing.new]
  engaged := by simp [new, Providing.new]
  skips := by simp [new]
  placed := by simp [given, new, Providing.new, owed]

/-- A registration that shows nothing before and after its step. -/
theorem Accounted.setCall (inv : Accounted state) {id : Nat} {call : RegisterCall F}
    (own : call.service.call = id) (before : owed (state.calls id) = [])
    (after : owed (some call) = []) :
    Accounted (state.setCall id call) where
  numbered := numbered_setCall inv.numbered own
  inhabited := inv.inhabited
  engaged := inv.engaged
  skips := inv.skips
  placed := by
    have moved : (state.setCall id call).given.Perm state.given := .refl _
    apply placed_of_same moved _ inv.placed
    intro other
    simpa using owed_setCall before after (by simp) other

/-- The drained channels, once a start has a new stand. -/
theorem left_setStart {id : Nat} {old : StartPhase F} (new : StartPhase F)
    (current : state.starts[id]? = some old) :
    (entries ((state.starts.set id new).flatMap StartPhase.left) ++
        entries old.left).Perm
      (entries (state.starts.flatMap StartPhase.left) ++ entries new.left) := by
  rw [← entries_append, ← entries_append]
  exact entries_perm (flatMap_set_perm StartPhase.left new current)

/-- A start that drains or starts nothing in its step. -/
theorem left_setStart_of_none {id : Nat} {old new : StartPhase F}
    (current : state.starts[id]? = some old) (before : old.left = []) (after : new.left = []) :
    (entries ((state.starts.set id new).flatMap StartPhase.left)).Perm
      (entries (state.starts.flatMap StartPhase.left)) := by
  simpa [before, after] using left_setStart new current

/-- A registration that returns `Ok`: its service is in one place more. -/
theorem placed_of_accepted (inv : Accounted state) {id : Nat} {channel : String}
    {service : RegisteredChannelService F} (own : service.call = id)
    (before : owed (state.calls id) = [])
    (returned : next.calls = (state.setCall id ⟨channel, service, .returned (.ok ())⟩).calls)
    (moved : next.given.Perm (state.given ++ [(channel, service)])) :
    ∀ id, (next.given.filter fun entry => entry.2.call = id) = owed (next.calls id) := by
  apply placed_of_added moved _ inv.placed
  rw [returned]
  exact owed_setCall before rfl (by simpa using own)

/-- A start that hands services on: no registration returns. -/
theorem placed_of_moved (inv : Accounted state) (untouched : next.calls = state.calls)
    (moved : next.given.Perm state.given) :
    ∀ id, (next.given.filter fun entry => entry.2.call = id) = owed (next.calls id) := by
  apply placed_of_same moved _ inv.placed
  intro id
  rw [untouched]

/-- A start that does not return at once. -/
theorem Accounted.skips_setStart (inv : Accounted state) {id : Nat} {new : StartPhase F}
    (other : new ≠ .skipped) (skips : .skipped ∈ state.starts.set id new) :
    state.shared.channelsSealed = true := by
  rcases List.mem_or_eq_of_mem_set skips with before | added
  · exact inv.skips before
  · exact absurd added.symm other

/-- A channel picked from a list, and the others. -/
theorem perm_of_picked {channels : List (ProvidedChannel F)} {index : Nat}
    {provided : ProvidedChannel F} (picked : channels[index]? = some provided) :
    channels.Perm ([provided] ++ channels.eraseIdx index) := by
  obtain ⟨inside, rfl⟩ := List.getElem?_eq_some_iff.mp picked
  exact (List.getElem_cons_eraseIdx_perm inside).symm

/-- Every step keeps the account. -/
theorem accounted_step {action : RegisteringAction F} (inv : Accounted state)
    (performed : state.step action = some next) : Accounted next := by
  cases step_moves performed with
  | register fresh =>
      apply Accounted.setCall inv
      · rfl
      · rw [fresh]
        rfl
      · rfl
  | load current =>
      have own := inv.numbered _ _ current
      apply Accounted.setCall inv
      · exact own
      · rw [current]
        rfl
      · cases state.shared.channelsSealed <;> rfl
  | refuse current refused =>
      have own := inv.numbered _ _ current
      apply Accounted.setCall inv
      · exact own
      · rw [current]
        rfl
      · rfl
  | @spawn id channel service current =>
      have own : service.call = id := inv.numbered _ _ current
      refine ⟨numbered_setCall inv.numbered own, inv.inhabited, inv.engaged, inv.skips,
        ?_⟩
      refine placed_of_accepted inv own ?_ rfl ?_
      · rw [current]
        rfl
      · simp only [given, setCall, Providing.spawnNativeService, entries_append,
          entries_cons, entries_nil, List.map_cons, List.map_nil, List.append_assoc]
        exact (List.perm_append_comm.trans (by simp)).append_left _
  | @join id channel service registry current accepted =>
      have own : service.call = id := inv.numbered _ _ current
      have filled := joinRegistry_ok_inhabited accepted inv.inhabited
      refine ⟨numbered_setCall inv.numbered own, filled.2, inv.engaged, inv.skips, ?_⟩
      refine placed_of_accepted inv own ?_ rfl ?_
      · rw [current]
        rfl
      · have joined := joinRegistry_ok_perm accepted
        simp only [given, setCall, List.append_assoc]
        exact (joined.append_left _).append_left _
  | start =>
      refine ⟨inv.numbered, inv.inhabited, ?_, ?_, ?_⟩
      · simpa [StartPhase.engaged] using inv.engaged
      · simpa using inv.skips
      · refine placed_of_moved inv rfl ?_
        simp [given, StartPhase.left]
  | @swap id current =>
      have counted := countP_set_add StartPhase.engaged
        (if state.shared.channelsSealed then .skipped else .draining) current
      refine ⟨inv.numbered, inv.inhabited, ?_, fun _ => rfl, ?_⟩
      · have before := inv.engaged
        cases sealed : state.shared.channelsSealed <;>
          simp_all [setStart, StartPhase.engaged]
      · refine placed_of_moved inv rfl ?_
        have left := left_setStart_of_none current rfl
          (show StartPhase.left (if state.shared.channelsSealed then .skipped
            else .draining) = [] by split <;> rfl)
        exact (left.append_left _).append_right _
  | @drain id current =>
      have counted := countP_set_add StartPhase.engaged
        (.starting state.shared.registry) current
      refine ⟨inv.numbered, by simp, ?_, inv.skips_setStart (by simp), ?_⟩
      · exact (Nat.add_right_cancel counted).trans inv.engaged
      · refine placed_of_moved inv rfl ?_
        have left := left_setStart (.starting state.shared.registry) current
        simp only [StartPhase.left, entries_nil, List.append_nil] at left
        simp only [given, setStart, entries_nil, List.append_nil, List.append_assoc]
        exact left.append_left _
  | @startChannel id index left provided current picked =>
      have counted := countP_set_add StartPhase.engaged
        (.starting (left.eraseIdx index)) current
      refine ⟨inv.numbered, inv.inhabited, ?_, inv.skips_setStart (by simp), ?_⟩
      · exact (Nat.add_right_cancel counted).trans inv.engaged
      · refine placed_of_moved inv rfl ?_
        have share := left_setStart (.starting (left.eraseIdx index)) current
        simp only [StartPhase.left] at share
        -- what the start gives away is what the new thread gets
        have parted : (entries left).Perm
            (entries [provided] ++ entries (left.eraseIdx index)) := by
          rw [← entries_append]
          exact entries_perm (perm_of_picked picked)
        have handed := (parted.append_left _).symm.trans share
        rw [← List.append_assoc, List.perm_append_right_iff] at handed
        simp only [given, setStart, Providing.spawnNativeService, entries_append]
        refine List.Perm.append_right _ ?_
        rw [List.append_assoc]
        exact (List.perm_append_comm.trans handed).append_left _
  | @finish id current =>
      have counted := countP_set_add StartPhase.engaged .started current
      refine ⟨inv.numbered, inv.inhabited, ?_, inv.skips_setStart (by simp), ?_⟩
      · exact (Nat.add_right_cancel counted).trans inv.engaged
      · refine placed_of_moved inv rfl ?_
        have left := left_setStart_of_none current rfl
          (rfl : StartPhase.left (.started : StartPhase F) = [])
        exact (left.append_left _).append_right _

/-! ### Joining behind the drain -/

/-- The registry was drained. -/
def Drained (state : Registering F) : Prop :=
  ∃ phase ∈ state.starts, phase.drained = true

/-- A registration that loaded the flag unset makes its locked access while the
registry is not drained yet. -/
def JoinsInTime (state : Registering F) : RegisteringAction F → Prop
  | .join _ => ¬ Drained state
  | _ => True

theorem drained_iff_countP : Drained state ↔ 0 < state.starts.countP StartPhase.drained :=
  List.countP_pos_iff.symm

/-- A start with a new stand, on the same side of the drain. -/
theorem drained_setStart {id : Nat} {old : StartPhase F} (new : StartPhase F)
    (current : state.starts[id]? = some old) (same : new.drained = old.drained) :
    Drained (state.setStart id new) ↔ Drained state := by
  have counted := countP_set_add StartPhase.drained new current
  rw [same] at counted
  rw [drained_iff_countP, drained_iff_countP, setStart, Nat.add_right_cancel counted]

/-- There is one drain: while a start is about to drain, nothing is drained. -/
theorem Accounted.not_drained_of_draining (inv : Accounted state) {id : Nat}
    (current : state.starts[id]? = some .draining) : ¬ Drained state := by
  intro drained
  -- the start at `id` is engaged and not drained, so it would be the second one
  have counted := countP_set_add StartPhase.engaged .skipped current
  have single : state.starts.countP StartPhase.engaged ≤ 1 := by
    rw [inv.engaged]
    split <;> simp
  have none_ : (state.setStart id .skipped).starts.countP StartPhase.engaged = 0 := by
    simp only [StartPhase.engaged, Bool.toNat_true, Bool.toNat_false] at counted
    simp only [setStart]
    omega
  have still : Drained (state.setStart id .skipped) :=
    (drained_setStart .skipped current rfl).mpr drained
  obtain ⟨phase, member, isDrained⟩ := still
  have notEngaged := List.countP_eq_zero.mp none_ phase member
  cases phase <;> simp_all [StartPhase.drained, StartPhase.engaged]

/-- The registry is empty behind the drain. -/
def Emptied (state : Registering F) : Prop :=
  Drained state → state.shared.registry = []

/-- A step leaves the registry empty behind the drain exactly when it does not join
there. -/
theorem emptied_step {action : RegisteringAction F} (inv : Accounted state) (now : Emptied state)
    (performed : state.step action = some next) : Emptied next ↔ JoinsInTime state action := by
  cases step_moves performed with
  | register fresh => exact iff_of_true now trivial
  | load current => exact iff_of_true now trivial
  | spawn current => exact iff_of_true now trivial
  | @join id channel service registry current accepted =>
      have filled := (joinRegistry_ok_inhabited accepted inv.inhabited).1
      constructor
      · intro emptied drained
        exact filled (emptied drained)
      · intro inTime drained
        exact absurd drained inTime
  | @refuse id channel service refusal current refused =>
      constructor
      · intro emptied drained
        -- an empty registry refuses nobody
        rw [now drained] at refused
        cases refused
      · intro inTime drained
        exact absurd drained inTime
  | start =>
      refine iff_of_true ?_ trivial
      rintro ⟨phase, member, isDrained⟩
      rcases List.mem_append.mp member with before | added
      · exact now ⟨phase, before, isDrained⟩
      · rw [List.mem_singleton.mp added] at isDrained
        cases isDrained
  | @swap id current =>
      refine iff_of_true ?_ trivial
      intro drained
      apply now
      apply (drained_setStart _ current _).mp drained
      split <;> rfl
  | drain current => exact iff_of_true (fun _ => rfl) trivial
  | @startChannel id index left provided current picked =>
      refine iff_of_true ?_ trivial
      intro drained
      exact now ((drained_setStart (.starting (left.eraseIdx index)) current rfl).mp drained)
  | @finish id current =>
      refine iff_of_true ?_ trivial
      intro drained
      exact now ((drained_setStart .started current rfl).mp drained)

/-- A service behind the drain stays in the registry. -/
theorem not_emptied_step {action : RegisteringAction F} (inv : Accounted state)
    (late : ¬ Emptied state) (performed : state.step action = some next) : ¬ Emptied next := by
  have drained : Drained state := by
    by_contra not_
    exact late fun isDrained => absurd isDrained not_
  have kept : state.shared.registry ≠ [] := fun empty => late fun _ => empty
  intro emptied
  cases step_moves performed with
  | register fresh => exact late emptied
  | load current => exact late emptied
  | spawn current => exact late emptied
  | @join id channel service registry current accepted =>
      exact (joinRegistry_ok_inhabited accepted inv.inhabited).1 (emptied drained)
  | refuse current refused => exact late emptied
  | start =>
      obtain ⟨phase, member, isDrained⟩ := drained
      exact kept (emptied ⟨phase, List.mem_append_left _ member, isDrained⟩)
  | @swap id current =>
      refine kept (emptied ((drained_setStart _ current ?_).mpr drained))
      split <;> rfl
  | drain current => exact inv.not_drained_of_draining current drained
  | @startChannel id index left provided current picked =>
      have before := (drained_setStart (.starting (left.eraseIdx index)) current rfl).mpr drained
      exact kept (emptied before)
  | @finish id current =>
      exact kept (emptied ((drained_setStart .started current rfl).mpr drained))

theorem accounted_run {actions : List (RegisteringAction F)} {final : Registering F}
    (performed : run step new actions = some final) : Accounted final :=
  run_invariant Accounted accounted_new
    (fun _ _ _ inv moved => accounted_step inv moved) performed

/-- The registry ends empty behind the drain exactly when every registration joined in
time. -/
theorem final_registry_iff {actions : List (RegisteringAction F)}
    {final : Registering F} (performed : run step new actions = some final) :
    Emptied final ↔ StepsMeet step JoinsInTime new actions :=
  final_iff_stepsMeet Accounted Emptied JoinsInTime
    (fun _ _ _ inv moved => accounted_step inv moved)
    (fun _ _ _ inv now moved => emptied_step inv now moved)
    (fun _ _ _ inv late moved => not_emptied_step inv late moved)
    accounted_new (fun _ => rfl) performed

/-! ### Registrations that returned -/

/-- Every call has returned, and a start was made. -/
structure Quiescent (state : Registering F) : Prop where
  registered : ∀ id call, state.calls id = some call →
    ∃ result, call.phase = .returned result
  started : ∀ phase ∈ state.starts, phase.hasReturned = true
  ran : state.starts ≠ []

/-- The dispatcher of every registration that returned `Ok` was handed to exactly one
started channel thread. -/
def NoneLost (state : Registering F) : Prop :=
  ∀ id call, state.calls id = some call → call.phase = .returned (.ok ()) →
    ((entries state.shared.threads).filter fun entry => entry.2.call = id) =
      [(call.channel, call.service)]

/-- Starts that have all returned hold no channels back. -/
theorem Quiescent.left_nil (quiet : Quiescent state) :
    state.starts.flatMap StartPhase.left = [] := by
  rw [List.flatMap_eq_nil_iff]
  intro phase member
  have returned := quiet.started phase member
  cases phase <;> first | rfl | cases returned

/-- Once every call returned, the registry was drained. -/
theorem Quiescent.drained (quiet : Quiescent state) (inv : Accounted state) : Drained state := by
  obtain ⟨first, member⟩ := List.exists_mem_of_ne_nil _ quiet.ran
  have returned := quiet.started first member
  -- a start that returned at once found the flag set by another one
  have sealed : state.shared.channelsSealed = true := by
    cases first with
    | started =>
        have counted := inv.engaged
        by_contra unsealed
        rw [if_neg unsealed, List.countP_eq_zero] at counted
        exact counted _ member rfl
    | skipped => exact inv.skips member
    | swapping => cases returned
    | draining => cases returned
    | starting left => cases returned
  have counted := inv.engaged
  rw [if_pos sealed] at counted
  obtain ⟨phase, among, engaged⟩ := List.countP_pos_iff.mp (counted ▸ Nat.one_pos)
  refine ⟨phase, among, ?_⟩
  have finished := quiet.started phase among
  cases phase with
  | started => rfl
  | skipped => cases engaged
  | swapping => cases engaged
  | draining => cases finished
  | starting left => cases finished

/-- Once every call returned, what was accepted and not handed to a thread is in the
registry. -/
theorem Quiescent.given_eq (quiet : Quiescent state) :
    state.given = entries state.shared.threads ++ entries state.shared.registry := by
  rw [given, quiet.left_nil, entries_nil, List.append_nil]

/-- Once every call returned, no registration is lost exactly when the registry is
empty. -/
theorem Quiescent.noneLost_iff (quiet : Quiescent state) (inv : Accounted state) :
    NoneLost state ↔ state.shared.registry = [] := by
  constructor
  · intro noneLost
    by_contra kept
    obtain ⟨provided, member⟩ := List.exists_mem_of_ne_nil _ kept
    obtain ⟨service, among⟩ :=
      List.exists_mem_of_ne_nil _ (inv.inhabited provided member)
    -- the registration of this service returned `Ok`, and its service is here
    have here : (provided.channel, service) ∈ entries state.shared.registry :=
      List.mem_flatMap.mpr ⟨provided, member, List.mem_map.mpr ⟨service, among, rfl⟩⟩
    have placed := inv.placed service.call
    rw [quiet.given_eq, List.filter_append] at placed
    have shown : (provided.channel, service) ∈ owed (state.calls service.call) := by
      rw [← placed]
      apply List.mem_append_right
      rw [List.mem_filter]
      exact ⟨here, by simp⟩
    obtain ⟨call, current, ok⟩ : ∃ call, state.calls service.call = some call ∧
        call.phase = .returned (.ok ()) := by
      unfold owed at shown
      split at shown
      · rename_i found
        exact ⟨_, found, rfl⟩
      · cases shown
    have handed := noneLost _ call current ok
    have lengths := congrArg List.length placed
    have short := owed_length_le (state.calls service.call)
    rw [List.length_append, handed] at lengths
    have counted : 0 < ((entries state.shared.registry).filter fun entry =>
        entry.2.call = service.call).length := by
      rw [List.length_pos_iff_exists_mem]
      exact ⟨_, List.mem_filter.mpr ⟨here, by simp⟩⟩
    simp only [List.length_singleton] at lengths
    omega
  · intro empty id call current ok
    have placed := inv.placed id
    rw [quiet.given_eq, empty, entries_nil, List.append_nil, current] at placed
    rw [placed]
    obtain ⟨channel, service, phase⟩ := call
    cases ok
    rfl

end Registering

/-- In every interleaving of registrations and starts, once all of them have returned
and a start ran: the dispatcher of every registration that returned `Ok` was handed to
exactly one started thread, exactly when every registration that had loaded the flag
unset made its registry access before the drain. -/
theorem no_registration_lost {actions : List (RegisteringAction F)}
    {final : Registering F}
    (performed : run Registering.step .new actions = some final)
    (quiet : final.Quiescent) :
    final.NoneLost ↔
      StepsMeet Registering.step Registering.JoinsInTime .new actions := by
  have inv := Registering.accounted_run performed
  have drained := quiet.drained inv
  rw [quiet.noneLost_iff inv, ← Registering.final_registry_iff performed]
  exact ⟨fun empty _ => empty, fun emptied => emptied drained⟩

/-! ### Two registrations and a start -/

/-- A dispatcher without methods. -/
def bareDispatcher (id : UInt32) : ServiceDispatcher Unit := .new ⟨id, 1⟩

/-- The registration of service `7` joins before the drain, that of service `8` finds
the flag set. -/
def registeredInTime : List (RegisteringAction Unit) :=
  [.register 0 "orders" "Orders" (bareDispatcher 7), .load 0, .start, .swap 0, .join 0,
    .drain 0, .register 1 "orders" "Billing" (bareDispatcher 8), .startChannel 0 0,
    .load 1, .spawn 1, .finish 0]

/-- The registration loads the flag unset, then the start swaps and drains, and only
then the registration joins the registry. -/
def registeredLate : List (RegisteringAction Unit) :=
  [.register 0 "orders" "Orders" (bareDispatcher 7), .load 0, .start, .swap 0, .drain 0,
    .finish 0, .join 0]

/-- The state a run ends in. -/
def Registering.after (actions : List (RegisteringAction Unit)) : Registering Unit :=
  (run Registering.step .new actions).getD .new

theorem no_registration_lost_in_time :
    (Registering.after registeredInTime).Quiescent ∧
      (Registering.after registeredInTime).NoneLost ∧
      StepsMeet Registering.step Registering.JoinsInTime .new registeredInTime := by
  have performed : run Registering.step .new registeredInTime =
      some (Registering.after registeredInTime) := rfl
  have quiet : (Registering.after registeredInTime).Quiescent := by
    refine ⟨?_, by decide, by decide⟩
    rintro (_ | _ | id) call current
    · cases current
      exact ⟨_, rfl⟩
    · cases current
      exact ⟨_, rfl⟩
    · cases current
  have noneLost : (Registering.after registeredInTime).NoneLost := by
    rintro (_ | _ | id) call current ok
    · cases current
      rfl
    · cases current
      rfl
    · cases current
  exact ⟨quiet, noneLost, (no_registration_lost performed quiet).mp noneLost⟩

/-- The late registration returned `Ok` and no thread has its dispatcher. -/
theorem registration_lost_late :
    run Registering.step .new registeredLate =
        some (Registering.after registeredLate) ∧
      (Registering.after registeredLate).Quiescent ∧
      ¬ (Registering.after registeredLate).NoneLost := by
  refine ⟨rfl, ⟨?_, by decide, by decide⟩, ?_⟩
  · rintro (_ | id) call current
    · cases current
      exact ⟨_, rfl⟩
    · cases current
  · intro noneLost
    have handed := noneLost 0 _ rfl rfl
    cases handed

end IceRpc
