/-
Module: IceRpc.Lib.Draining
Purpose: Streams that deliver a given list whatever the schedule: what their polls
  answer besides `Pending`, when they have come to their end, and the rule by which a
  stream built on another delivers what it is to make of the other's items.
Trusted boundary: none
Main exports: pollAll, readies, Serves, EndsWithin, Drains, Polled, pollAll_history,
  serves_of_keeps, ServesLeft.polled, WithinLeft, Reached, Follows, Steps,
  Steps.servesLeft, Steps.withinLeft, Steps.follows, Serves.delivered, Drains.delivered,
  Source.serves, Source.drains
-/
import Mathlib.Data.List.ReduceOption
import IceRpc.Lib.Polling

namespace IceRpc.Lib

/-! ### Polls one after the other -/

section Streams

variable {C S Item : Type*} (poll : C → S → Option (Poll (Option Item) × S))
  (enough : C → Prop)

/-- The answers of polls in these contexts, one after the other, if they all return. -/
def pollAll : List C → S → Option (List (Poll (Option Item)) × S)
  | [], state => some ([], state)
  | context :: contexts, state =>
      match poll context state with
      | none => none
      | some (answer, next) =>
          (pollAll contexts next).map fun (answers, final) => (answer :: answers, final)

/-- The answers without the `Pending`s. -/
def readies {α : Type*} : List (Poll α) → List α
  | [] => []
  | .pending :: answers => readies answers
  | .ready value :: answers => value :: readies answers

/-- Whatever the contexts, as long as they are good enough, all polls return, and their
answers without the `Pending`s are these items, one after the other, and then the end,
again and again. -/
def Serves (items : List Item) (state : S) : Prop :=
  ∀ contexts, (∀ context ∈ contexts, enough context) →
    ∃ answers final, pollAll poll contexts state = some (answers, final) ∧
      ∃ ends, readies answers <+: items.map some ++ List.replicate ends none

/-- Whatever the contexts, as long as they are good enough, so many polls come to the
end of the stream. -/
def EndsWithin (polls : Nat) (state : S) : Prop :=
  ∀ contexts, (∀ context ∈ contexts, enough context) → contexts.length = polls →
    ∃ answers final, pollAll poll contexts state = some (answers, final) ∧
      none ∈ readies answers

/-- The stream delivers these items and comes to its end. -/
def Drains (items : List Item) (state : S) : Prop :=
  Serves poll enough items state ∧ ∃ polls, EndsWithin poll enough polls state

/-! ### What is left of a stream -/

/-- What an answer says of what is left: some items before the end, or nothing once the
end was answered. -/
def Heard (left : Option (List Item) → S → Prop) :
    Option (List Item) → Poll (Option Item) → S → Prop
  | items, .pending, next => left items next
  | some (item :: items), .ready (some answer), next => answer = item ∧ left (some items) next
  | some [], .ready none, next => left none next
  | none, .ready none, next => left none next
  | _, _, _ => False

/-- Every poll in a good enough context returns, and its answer leaves what it is to
leave. -/
def Polled (left : Option (List Item) → S → Prop) (items : Option (List Item))
    (state : S) : Prop :=
  ∀ context, enough context →
    ∃ answer next, poll context state = some (answer, next) ∧ Heard left items answer next

/-- The stream serves what is left of it. -/
def ServesLeft (items : Option (List Item)) (state : S) : Prop :=
  Serves poll enough (items.getD []) state

/-- It does, and it comes to its end within so many polls, unless it has. -/
def WithinLeft (polls : Nat) (items : Option (List Item)) (state : S) : Prop :=
  ServesLeft poll enough items state ∧
    (items.isSome = true → EndsWithin poll enough polls state)

variable {poll enough}
variable {items : Option (List Item)} {state next : S} {answers : List (Poll (Option Item))}
  {answer : Poll (Option Item)} {contexts : List C} {context : C} {polls : Nat}

theorem Heard.mono {left other : Option (List Item) → S → Prop}
    (implies : ∀ items state, left items state → other items state)
    (heard : Heard left items answer next) : Heard other items answer next := by
  match items, answer with
  | _, .pending => exact implies _ _ heard
  | some (_ :: _), .ready (some _) => exact ⟨heard.1, implies _ _ heard.2⟩
  | some [], .ready none => exact implies _ _ heard
  | none, .ready none => exact implies _ _ heard

theorem Polled.mono {left other : Option (List Item) → S → Prop}
    (implies : ∀ items state, left items state → other items state)
    (polled : Polled poll enough left items state) : Polled poll enough other items state := by
  intro context good
  obtain ⟨answer, next, returned, heard⟩ := polled context good
  exact ⟨answer, next, returned, heard.mono implies⟩

/-! ### Serving, step by step -/

theorem pollAll_cons {final : S} (returned : poll context state = some (answer, next))
    (later : pollAll poll contexts next = some (answers, final)) :
    pollAll poll (context :: contexts) state = some (answer :: answers, final) := by
  rw [pollAll, returned]
  simp only [later, Option.map_some]

theorem pollAll_cons_eq_some {final : S} {all : List (Poll (Option Item))}
    (returned : pollAll poll (context :: contexts) state = some (all, final)) :
    ∃ answer next answers, poll context state = some (answer, next) ∧
      pollAll poll contexts next = some (answers, final) ∧ all = answer :: answers := by
  rw [pollAll] at returned
  split at returned
  · cases returned
  · rename_i answer next polled
    obtain ⟨⟨answers, last⟩, later, same⟩ := Option.map_eq_some_iff.mp returned
    cases same
    exact ⟨answer, next, answers, polled, later, rfl⟩

/-- Rule for what polls that returned have done. -/
theorem pollAll_rule (done : S → List (Poll (Option Item)) → S → Prop)
    (nil : ∀ state, done state [] state)
    (cons : ∀ context state answer next answers final,
      poll context state = some (answer, next) → done next answers final →
      done state (answer :: answers) final) {final : S}
    (returned : pollAll poll contexts state = some (answers, final)) :
    done state answers final := by
  induction contexts generalizing state answers with
  | nil =>
      cases returned
      exact nil _
  | cons context contexts ih =>
      obtain ⟨answer, next, rest, polled, later, rfl⟩ := pollAll_cons_eq_some returned
      exact cons _ _ _ _ _ _ polled (ih later)

/-- Polls that all return and keep a condition. -/
theorem pollAll_of_keeps (inv : S → Prop)
    (keeps : ∀ context state, inv state →
      ∃ answer next, poll context state = some (answer, next) ∧ inv next) (contexts : List C)
    (start : inv state) :
    ∃ answers final, pollAll poll contexts state = some (answers, final) ∧ inv final := by
  induction contexts generalizing state with
  | nil => exact ⟨[], state, rfl, start⟩
  | cons context contexts ih =>
      obtain ⟨answer, next, polled, kept⟩ := keeps context state start
      obtain ⟨answers, final, later, last⟩ := ih kept
      exact ⟨answer :: answers, final, pollAll_cons polled later, last⟩

theorem pollAll_snoc {final : S} (returned : pollAll poll contexts state = some (answers, next))
    (polled : poll context next = some (answer, final)) :
    pollAll poll (contexts ++ [context]) state = some (answers ++ [answer], final) := by
  induction contexts generalizing state answers with
  | nil =>
      cases returned
      exact pollAll_cons polled rfl
  | cons first contexts ih =>
      obtain ⟨now, after, rest, firstPolled, later, rfl⟩ := pollAll_cons_eq_some returned
      exact pollAll_cons firstPolled (ih later)

theorem pollAll_snoc_eq_some {final : S} {all : List (Poll (Option Item))}
    (returned : pollAll poll (contexts ++ [context]) state = some (all, final)) :
    ∃ answers next answer, pollAll poll contexts state = some (answers, next) ∧
      poll context next = some (answer, final) ∧ all = answers ++ [answer] := by
  induction contexts generalizing state all with
  | nil =>
      obtain ⟨answer, next, rest, polled, nothing, rfl⟩ := pollAll_cons_eq_some returned
      cases nothing
      exact ⟨[], state, answer, rfl, polled, rfl⟩
  | cons first contexts ih =>
      obtain ⟨now, after, rest, firstPolled, later, rfl⟩ := pollAll_cons_eq_some returned
      obtain ⟨answers, next, answer, middle, polled, rfl⟩ := ih later
      exact ⟨now :: answers, next, answer, pollAll_cons firstPolled middle, polled, rfl⟩

theorem pollAll_length {final : S}
    (returned : pollAll poll contexts state = some (answers, final)) :
    answers.length = contexts.length := by
  induction contexts generalizing state answers with
  | nil =>
      cases returned
      rfl
  | cons context contexts ih =>
      obtain ⟨answer, next, rest, polled, later, rfl⟩ := pollAll_cons_eq_some returned
      exact congrArg (· + 1) (ih later)

/-- History rule: what the contexts and the answers so far and the state have in common,
kept by every poll, which returns. -/
theorem pollAll_history_of (inv : List C → List (Poll (Option Item)) → S → Prop)
    (start : inv [] [] state)
    (keeps : ∀ contexts answers now context, pollAll poll contexts state = some (answers, now) →
      inv contexts answers now → enough context → ∃ answer next,
        poll context now = some (answer, next) ∧
          inv (contexts ++ [context]) (answers ++ [answer]) next) (contexts : List C)
    (good : ∀ context ∈ contexts, enough context) :
    ∃ answers final, pollAll poll contexts state = some (answers, final) ∧
      inv contexts answers final := by
  induction contexts using List.reverseRecOn with
  | nil => exact ⟨[], state, rfl, start⟩
  | append_singleton contexts context ih =>
      obtain ⟨goodBefore, goodNow⟩ := List.forall_mem_append.mp good
      obtain ⟨answers, now, returned, here⟩ := ih goodBefore
      obtain ⟨answer, next, polled, kept⟩ := keeps contexts answers now context returned here
        (goodNow context (List.mem_singleton_self _))
      exact ⟨answers ++ [answer], next, pollAll_snoc returned polled, kept⟩

/-- The same without the contexts. -/
theorem pollAll_history (inv : List (Poll (Option Item)) → S → Prop) (start : inv [] state)
    (keeps : ∀ answers now context, inv answers now → enough context →
      ∃ answer next, poll context now = some (answer, next) ∧ inv (answers ++ [answer]) next)
    (contexts : List C) (good : ∀ context ∈ contexts, enough context) :
    ∃ answers final, pollAll poll contexts state = some (answers, final) ∧
      inv answers final := by
  apply pollAll_history_of (fun _ => inv) start _ contexts good
  intro _ answers now context _ here goodNow
  exact keeps answers now context here goodNow

/-- Coinduction rule: what every poll keeps is served. -/
theorem serves_of_keeps (left : Option (List Item) → S → Prop)
    (keeps : ∀ items state, left items state → Polled poll enough left items state)
    (start : left items state) : ServesLeft poll enough items state := by
  intro contexts
  induction contexts generalizing items state with
  | nil => exact fun _ => ⟨[], state, rfl, 0, List.nil_prefix⟩
  | cons context contexts ih =>
      intro good
      obtain ⟨goodNow, goodLater⟩ := List.forall_mem_cons.mp good
      obtain ⟨answer, next, returned, heard⟩ := keeps items state start context goodNow
      match items, answer with
      | _, .pending =>
          obtain ⟨answers, final, later, ends, served⟩ := ih heard goodLater
          exact ⟨_, final, pollAll_cons returned later, ends, served⟩
      | some (item :: items), .ready (some _) =>
          obtain ⟨rfl, rest⟩ := heard
          obtain ⟨answers, final, later, ends, served⟩ := ih rest goodLater
          exact ⟨_, final, pollAll_cons returned later, ends,
            List.cons_prefix_cons.mpr ⟨rfl, served⟩⟩
      | some [], .ready none | none, .ready none =>
          obtain ⟨answers, final, later, ends, served⟩ := ih heard goodLater
          exact ⟨_, final, pollAll_cons returned later, ends + 1,
            List.cons_prefix_cons.mpr ⟨rfl, served⟩⟩

theorem Serves.after {items : List Item} (served : Serves poll enough items state)
    (good : enough context) (returned : poll context state = some (answer, next))
    (contexts : List C) (goodLater : ∀ context ∈ contexts, enough context) :
    ∃ answers final, pollAll poll contexts next = some (answers, final) ∧
      ∃ ends, readies (answer :: answers) <+: items.map some ++ List.replicate ends none := by
  obtain ⟨all, final, returnedAll, ends, now⟩ :=
    served (context :: contexts) (List.forall_mem_cons.mpr ⟨good, goodLater⟩)
  obtain ⟨first, second, answers, polled, later, rfl⟩ := pollAll_cons_eq_some returnedAll
  cases returned.symm.trans polled
  exact ⟨answers, final, later, ends, now⟩

/-- Polls that return and keep what is left of a stream. -/
theorem pollAll_of_polled (left : Option (List Item) → S → Prop)
    (keeps : ∀ items state, left items state → Polled poll enough left items state)
    (start : left items state) (good : ∀ context ∈ contexts, enough context) :
    ∃ answers final rest, pollAll poll contexts state = some (answers, final) ∧
      left rest final ∧ ((items = none ∨ none ∈ readies answers) → rest = none) := by
  induction contexts generalizing items state with
  | nil =>
      refine ⟨[], state, items, rfl, start, ?_⟩
      rintro (nothing | listed)
      · exact nothing
      · cases listed
  | cons context contexts ih =>
      obtain ⟨goodNow, goodLater⟩ := List.forall_mem_cons.mp good
      obtain ⟨answer, next, returned, heard⟩ := keeps items state start context goodNow
      match items, answer with
      | _, .pending =>
          obtain ⟨answers, final, rest, later, last, ended⟩ := ih heard goodLater
          exact ⟨_, final, rest, pollAll_cons returned later, last, ended⟩
      | some (item :: items), .ready (some _) =>
          obtain ⟨answers, final, rest, later, last, ended⟩ := ih heard.2 goodLater
          refine ⟨_, final, rest, pollAll_cons returned later, last, ?_⟩
          rintro (nothing | listed)
          · cases nothing
          · exact ended (Or.inr ((List.mem_cons.mp listed).resolve_left nofun))
      | some [], .ready none | none, .ready none =>
          obtain ⟨answers, final, rest, later, last, ended⟩ := ih heard goodLater
          exact ⟨_, final, rest, pollAll_cons returned later, last, fun _ => ended (Or.inl rfl)⟩

/-- What is served after a first answer. -/
theorem ServesLeft.polled (served : ServesLeft poll enough items state) :
    Polled poll enough (ServesLeft poll enough) items state := by
  intro context good
  obtain ⟨all, final, returnedAll, _⟩ := served [context] (List.forall_mem_singleton.mpr good)
  obtain ⟨answer, next, answers, returned, -, -⟩ := pollAll_cons_eq_some returnedAll
  have after := Serves.after served good returned
  refine ⟨answer, next, returned, ?_⟩
  match answer with
  | .pending => exact after
  | .ready (some answer) =>
      obtain ⟨answers, final, -, ends, now⟩ := after [] nofun
      match items with
      | none | some [] =>
          cases ends with
          | zero => cases List.prefix_nil.mp now
          | succ ends => cases (List.cons_prefix_cons.mp now).1
      | some (item :: items) =>
          refine ⟨Option.some.inj (List.cons_prefix_cons.mp now).1, ?_⟩
          intro contexts goodLater
          obtain ⟨answers, final, later, ends, now⟩ := after contexts goodLater
          exact ⟨answers, final, later, ends, (List.cons_prefix_cons.mp now).2⟩
  | .ready none =>
      have atEnd : items.getD [] = [] → ServesLeft poll enough none next := by
        intro nothing contexts goodLater
        obtain ⟨answers, final, later, ends, now⟩ := after contexts goodLater
        rw [nothing] at now
        refine ⟨answers, final, later, ends - 1, ?_⟩
        cases ends with
        | zero => cases List.prefix_nil.mp now
        | succ ends => exact (List.cons_prefix_cons.mp now).2
      match items with
      | none => exact atEnd rfl
      | some [] => exact atEnd rfl
      | some (item :: items) =>
          obtain ⟨answers, final, -, ends, now⟩ := after [] nofun
          cases (List.cons_prefix_cons.mp now).1

/-! ### Coming to the end, step by step -/

theorem EndsWithin.polled (ending : EndsWithin poll enough (polls + 1) state)
    (good : enough context) (returned : poll context state = some (answer, next)) :
    answer = .ready none ∨ EndsWithin poll enough polls next := by
  by_cases ends : answer = .ready none
  · exact .inl ends
  · refine .inr fun contexts goodLater length => ?_
    obtain ⟨all, final, returnedAll, listed⟩ := ending (context :: contexts)
      (List.forall_mem_cons.mpr ⟨good, goodLater⟩) (congrArg (· + 1) length)
    obtain ⟨first, second, answers, polled, later, rfl⟩ := pollAll_cons_eq_some returnedAll
    cases returned.symm.trans polled
    refine ⟨answers, final, later, ?_⟩
    match answer with
    | .pending => exact listed
    | .ready none => exact absurd rfl ends
    | .ready (some item) => exact (List.mem_cons.mp listed).resolve_left nofun

theorem not_endsWithin_zero : ¬ EndsWithin poll enough 0 state := by
  intro ending
  obtain ⟨answers, final, nothing, listed⟩ := ending [] nofun rfl
  cases nothing
  cases listed

theorem WithinLeft.polled (within : WithinLeft poll enough (polls + 1) items state) :
    Polled poll enough (WithinLeft poll enough polls) items state := by
  intro context good
  obtain ⟨answer, next, returned, heard⟩ := within.1.polled context good
  refine ⟨answer, next, returned, ?_⟩
  have goesOn : ∀ left : Option (List Item), ServesLeft poll enough left next →
      answer ≠ .ready none → (left.isSome = true → items.isSome = true) →
      WithinLeft poll enough polls left next := by
    intro left served going kept
    refine ⟨served, fun more => ?_⟩
    exact ((within.2 (kept more)).polled good returned).resolve_left going
  match items, answer with
  | _, .pending => exact goesOn _ heard nofun id
  | some (_ :: _), .ready (some _) => exact ⟨heard.1, goesOn _ heard.2 nofun fun _ => rfl⟩
  | some [], .ready none => exact ⟨heard, nofun⟩
  | none, .ready none => exact ⟨heard, nofun⟩

theorem servesLeft_of_polled (polled : Polled poll enough (ServesLeft poll enough) items state) :
    ServesLeft poll enough items state := by
  apply serves_of_keeps fun items state => ServesLeft poll enough items state ∨
    Polled poll enough (ServesLeft poll enough) items state
  · intro items state either
    have polled := either.elim ServesLeft.polled id
    exact polled.mono fun _ _ => Or.inl
  · exact Or.inr polled

theorem withinLeft_of_polled
    (polled : Polled poll enough (WithinLeft poll enough polls) items state) :
    WithinLeft poll enough (polls + 1) items state := by
  refine ⟨servesLeft_of_polled (polled.mono fun _ _ => And.left), fun more => ?_⟩
  intro contexts good length
  match contexts with
  | [] => cases length
  | context :: contexts =>
      obtain ⟨goodNow, goodLater⟩ := List.forall_mem_cons.mp good
      obtain ⟨answer, next, returned, heard⟩ := polled context goodNow
      have rest : contexts.length = polls := Nat.succ.inj length
      match items, answer with
      | some items, .pending =>
          obtain ⟨answers, final, later, listed⟩ := heard.2 rfl contexts goodLater rest
          exact ⟨_, final, pollAll_cons returned later, listed⟩
      | some (_ :: _), .ready (some _) =>
          obtain ⟨answers, final, later, listed⟩ := heard.2.2 rfl contexts goodLater rest
          exact ⟨_, final, pollAll_cons returned later, List.mem_cons_of_mem _ listed⟩
      | some [], .ready none =>
          obtain ⟨answers, final, later, -⟩ := heard.1 contexts goodLater
          exact ⟨_, final, pollAll_cons returned later, List.mem_cons_self⟩

theorem WithinLeft.succ (within : WithinLeft poll enough polls items state) :
    WithinLeft poll enough (polls + 1) items state := by
  induction polls generalizing items state with
  | zero =>
      refine ⟨within.1, fun more => ?_⟩
      exact absurd (within.2 more) not_endsWithin_zero
  | succ polls ih => exact withinLeft_of_polled (within.polled.mono fun _ _ => ih)

theorem WithinLeft.mono {more : Nat} (within : WithinLeft poll enough polls items state)
    (fewer : polls ≤ more) : WithinLeft poll enough more items state := by
  induction fewer with
  | refl => exact within
  | step _ ih => exact ih.succ

/-- A stream that has come to its end has done so within any number of polls. -/
theorem withinLeft_none (polls : Nat) (served : ServesLeft poll enough none state) :
    WithinLeft poll enough polls none state :=
  ⟨served, nofun⟩

theorem WithinLeft.eq_none (within : WithinLeft poll enough 0 items state) : items = none := by
  match items with
  | none => rfl
  | some items => exact absurd (within.2 rfl) not_endsWithin_zero

/-- What is kept within a number of polls. -/
theorem WithinLeft.keeps (within : WithinLeft poll enough polls items state) :
    Polled poll enough (WithinLeft poll enough polls) items state := by
  cases polls with
  | zero =>
      cases within.eq_none
      intro context good
      obtain ⟨answer, next, returned, heard⟩ := within.1.polled context good
      refine ⟨answer, next, returned, ?_⟩
      match answer with
      | .pending => exact withinLeft_none 0 heard
      | .ready none => exact withinLeft_none 0 heard
  | succ polls => exact within.polled.mono fun _ _ => WithinLeft.succ

section Gone

variable (gone : S → Prop)
  (ends : ∀ context state, enough context → gone state →
    ∃ next, poll context state = some (.ready none, next) ∧ gone next)

include ends

/-- A stream that answers nothing but the end has nothing left. -/
theorem polled_of_gone (start : gone state) (nothing : items.getD [] = []) :
    Polled poll enough (fun items state => gone state ∧ items = none) items state := by
  intro context good
  obtain ⟨next, polled, rest⟩ := ends context state good start
  refine ⟨.ready none, next, polled, ?_⟩
  match items with
  | none => exact ⟨rest, rfl⟩
  | some [] => exact ⟨rest, rfl⟩

theorem withinLeft_of_gone (nothing : items.getD [] = []) (start : gone state) :
    WithinLeft poll enough 1 items state := by
  apply withinLeft_of_polled
  refine (polled_of_gone gone ends start nothing).mono ?_
  rintro _ state ⟨start, rfl⟩
  refine withinLeft_none 0 (serves_of_keeps (fun items state => gone state ∧ items = none) ?_
    ⟨start, rfl⟩)
  rintro _ state ⟨start, rfl⟩
  exact polled_of_gone gone ends start rfl

end Gone

/-- A stream whose next answer is its next item. -/
theorem WithinLeft.cons {item : Item} {items : List Item}
    (answers : ∀ context, poll context state = some (.ready (some item), next))
    (within : WithinLeft poll enough polls (some items) next) :
    WithinLeft poll enough (polls + 1) (some (item :: items)) state := by
  apply withinLeft_of_polled
  intro context _
  exact ⟨.ready (some item), next, answers context, rfl, within⟩

/-! ### The history of a stream -/

variable (poll enough) in
/-- Polls in good enough contexts gave these answers and came to this state. -/
def Reached (start : S) (answers : List (Poll (Option Item))) (state : S) : Prop :=
  ∃ contexts, (∀ context ∈ contexts, enough context) ∧
    pollAll poll contexts start = some (answers, state)

theorem Reached.refl (start : S) : Reached poll enough start [] start :=
  ⟨[], nofun, rfl⟩

theorem Reached.snoc {start : S} (reached : Reached poll enough start answers state)
    (good : enough context) (polled : poll context state = some (answer, next)) :
    Reached poll enough start (answers ++ [answer]) next := by
  obtain ⟨contexts, goodBefore, returned⟩ := reached
  refine ⟨contexts ++ [context], ?_, pollAll_snoc returned polled⟩
  exact List.forall_mem_append.mpr ⟨goodBefore, List.forall_mem_singleton.mpr good⟩

theorem Reached.before {start : S}
    (reached : Reached poll enough start (answers ++ [answer]) state) :
    ∃ earlier, Reached poll enough start answers earlier := by
  obtain ⟨contexts, good, returned⟩ := reached
  induction contexts using List.reverseRecOn with
  | nil =>
      have nothing := pollAll_length returned
      simp at nothing
  | append_singleton contexts context _ =>
      obtain ⟨others, earlier, last, before, -, same⟩ := pollAll_snoc_eq_some returned
      rw [(List.append_inj' same rfl).1]
      exact ⟨earlier, contexts, (List.forall_mem_append.mp good).1, before⟩

theorem Reached.served {items : List Item} {start : S} (served : Serves poll enough items start)
    (reached : Reached poll enough start answers state) :
    ∃ ends, readies answers <+: items.map some ++ List.replicate ends none := by
  obtain ⟨contexts, good, returned⟩ := reached
  obtain ⟨others, final, again, ends, now⟩ := served contexts good
  cases returned.symm.trans again
  exact ⟨ends, now⟩

/-- The next poll returns. -/
theorem Reached.polled {items : List Item} {start : S} (served : Serves poll enough items start)
    (reached : Reached poll enough start answers state) (good : enough context) :
    ∃ answer next, poll context state = some (answer, next) := by
  obtain ⟨contexts, goodBefore, returned⟩ := reached
  obtain ⟨all, final, longer, -⟩ := served (contexts ++ [context])
    (List.forall_mem_append.mpr ⟨goodBefore, List.forall_mem_singleton.mpr good⟩)
  obtain ⟨others, next, answer, before, polled, -⟩ := pollAll_snoc_eq_some longer
  cases returned.symm.trans before
  exact ⟨answer, final, polled⟩

/-- After so many polls the end was answered. -/
theorem Reached.ended {items : List Item} {start : S}
    (within : WithinLeft poll enough polls (some items) start)
    (reached : Reached poll enough start answers state) (long : polls ≤ answers.length) :
    none ∈ readies answers := by
  obtain ⟨contexts, good, returned⟩ := reached
  rw [pollAll_length returned] at long
  obtain ⟨others, final, again, ended⟩ := (within.mono long).2 rfl contexts good rfl
  cases returned.symm.trans again
  exact ended

/-! ### What is delivered -/

/-- The items delivered are those of the answers. -/
theorem delivered_eq_readies {final : S}
    (returned : pollAll poll contexts state = some (answers, final)) :
    delivered poll contexts state = (readies answers).reduceOption := by
  induction contexts generalizing state answers with
  | nil =>
      cases returned
      rfl
  | cons context contexts ih =>
      obtain ⟨answer, next, rest, polled, later, rfl⟩ := pollAll_cons_eq_some returned
      match answer with
      | .pending => rw [delivered_cons_pending polled, ih later, readies]
      | .ready none =>
          rw [delivered_cons_end polled, ih later, readies, List.reduceOption_cons_of_none]
      | .ready (some item) =>
          rw [delivered_cons_item polled, ih later, readies, List.reduceOption_cons_of_some]

theorem reduceOption_served (items : List Item) (ends : Nat) :
    (items.map some ++ List.replicate ends none).reduceOption = items := by
  simp [List.reduceOption]

/-- At any time, what was delivered is a first part of the items. -/
theorem Serves.delivered {items : List Item} (served : Serves poll enough items state)
    (good : ∀ context ∈ contexts, enough context) : delivered poll contexts state <+: items := by
  obtain ⟨answers, final, returned, ends, now⟩ := served contexts good
  have part := now.filterMap id
  rw [delivered_eq_readies returned, ← reduceOption_served items ends]
  exact part

/-- Once the end was answered, all items have been delivered. -/
theorem Serves.delivered_of_end {items : List Item} {final : S}
    (served : Serves poll enough items state) (good : ∀ context ∈ contexts, enough context)
    (returned : pollAll poll contexts state = some (answers, final))
    (ended : none ∈ readies answers) : Lib.delivered poll contexts state = items := by
  obtain ⟨others, last, polled, ends, now⟩ := served contexts good
  cases returned.symm.trans polled
  rw [delivered_eq_readies returned]
  -- the end comes after the items, so they are all among the answers
  have whole : items.map some <+: readies answers := by
    rcases List.prefix_or_prefix_of_prefix now (List.prefix_append ..) with part | whole
    · have listed := part.subset ended
      simp at listed
    · exact whole
  have part : (readies answers).reduceOption <+: items := by
    rw [← reduceOption_served items ends]
    exact now.filterMap id
  have all : items <+: (readies answers).reduceOption := by
    have kept := whole.filterMap id
    rwa [List.filterMap_map, Function.id_comp, List.filterMap_some] at kept
  exact part.eq_of_length_le all.length_le

/-- In enough polls all items are delivered. -/
theorem Drains.delivered {items : List Item} (drains : Drains poll enough items state) :
    ∃ polls, ∀ contexts, (∀ context ∈ contexts, enough context) →
      polls ≤ contexts.length → Lib.delivered poll contexts state = items := by
  obtain ⟨served, polls, ending⟩ := drains
  refine ⟨polls, fun contexts good long => ?_⟩
  have within : WithinLeft poll enough contexts.length (some items) state :=
    WithinLeft.mono ⟨served, fun _ => ending⟩ long
  obtain ⟨answers, final, returned, ended⟩ := within.2 rfl contexts good rfl
  exact served.delivered_of_end good returned ended

end Streams

/-! ### A stream built on another -/

section Follows

variable {C S Item C' S' Item' : Type*}

/-- What the one stream serves and drains makes the other serve and drain something
else. -/
structure Follows (poll : C → S → Option (Poll (Option Item) × S)) (enough : C → Prop)
    (items : List Item) (state : S)
    (poll' : C' → S' → Option (Poll (Option Item') × S')) (enough' : C' → Prop)
    (made : List Item') (state' : S') : Prop where
  serves : Serves poll enough items state → Serves poll' enough' made state'
  drains : Drains poll enough items state → Drains poll' enough' made state'

variable {poll : C → S → Option (Poll (Option Item) × S)} {enough : C → Prop}
  {poll' : C' → S' → Option (Poll (Option Item') × S')} {enough' : C' → Prop}

/-- A poll of the one stream, made of polls of the other, keeps a relation between what is
left of the two, or comes to a state that no longer needs the other. -/
def Steps (poll : C → S → Option (Poll (Option Item) × S)) (enough : C → Prop)
    (poll' : C' → S' → Option (Poll (Option Item') × S')) (enough' : C' → Prop)
    (rel : Option (List Item) → S → Option (List Item') → S' → Prop)
    (alone : Option (List Item') → S' → Prop) : Prop :=
  ∀ left : Option (List Item) → S → Prop,
    (∀ items state, left items state → Polled poll enough left items state) →
    ∀ items state made state', Polled poll enough left items state →
      rel items state made state' →
      Polled poll' enough' (fun made state' =>
        (∃ items state, left items state ∧ rel items state made state') ∨
          alone made state') made state'

section Steps

variable {rel : Option (List Item) → S → Option (List Item') → S' → Prop}
  {alone : Option (List Item') → S' → Prop}
  (steps : Steps poll enough poll' enough' rel alone)

include steps

theorem Steps.servesLeft
    (rests : ∀ made state', alone made state' → ServesLeft poll' enough' made state')
    {items : Option (List Item)} {state : S} {made : Option (List Item')} {state' : S'}
    (served : ServesLeft poll enough items state) (related : rel items state made state') :
    ServesLeft poll' enough' made state' := by
  apply serves_of_keeps fun made state' =>
    (∃ items state, ServesLeft poll enough items state ∧ rel items state made state') ∨
      ServesLeft poll' enough' made state'
  · intro made state' either
    rcases either with ⟨items, state, served, related⟩ | served
    · refine (steps _ (fun _ _ => ServesLeft.polled) items state made state' served.polled
        related).mono ?_
      exact fun _ _ => Or.imp_right (rests _ _)
    · exact served.polled.mono fun _ _ => Or.inr
  · exact Or.inl ⟨items, state, served, related⟩

/-- What holds of the state after polls of the one stream. -/
theorem Steps.pollAll (keeps : ∀ made state', alone made state' →
      Polled poll' enough' alone made state')
    {items : Option (List Item)} {state : S} {made : Option (List Item')} {state' : S'}
    (served : ServesLeft poll enough items state) (related : rel items state made state')
    {contexts : List C'} (good : ∀ context ∈ contexts, enough' context) :
    ∃ answers final rest, Lib.pollAll poll' contexts state' = some (answers, final) ∧
      ((∃ items state, rel items state rest final) ∨ alone rest final) ∧
      (none ∈ readies answers → rest = none) := by
  let left (made : Option (List Item')) (state' : S') : Prop :=
    (∃ items state, ServesLeft poll enough items state ∧ rel items state made state') ∨
      alone made state'
  have kept : ∀ made state', left made state' → Polled poll' enough' left made state' := by
    intro made state' either
    rcases either with ⟨items, state, served, related⟩ | rest
    · exact steps _ (fun _ _ => ServesLeft.polled) items state made state' served.polled related
    · exact (keeps made state' rest).mono fun _ _ => Or.inr
  obtain ⟨answers, final, rest, returned, last, ended⟩ :=
    pollAll_of_polled left kept (Or.inl ⟨items, state, served, related⟩) good
  refine ⟨answers, final, rest, returned, last.imp_left ?_, fun listed => ended (Or.inr listed)⟩
  rintro ⟨items, state, -, related⟩
  exact ⟨items, state, related⟩

theorem Steps.withinLeft {slack polls : Nat}
    (rests : ∀ made state', alone made state' → WithinLeft poll' enough' slack made state')
    (closed : ∀ state made state', rel none state made state' → made = none)
    {items : Option (List Item)} {state : S} {made : Option (List Item')} {state' : S'}
    (ends : WithinLeft poll enough polls items state) (related : rel items state made state') :
    WithinLeft poll' enough' (polls + slack) made state' := by
  induction polls generalizing items state made state' with
  | zero =>
      cases ends.eq_none
      cases closed _ _ _ related
      have served := steps.servesLeft (fun _ _ rest => (rests _ _ rest).1) ends.1 related
      exact withinLeft_none _ served
  | succ polls ih =>
      have next := steps _ (fun _ _ => WithinLeft.keeps) items state made state' ends.polled
        related
      rw [Nat.succ_add_eq_add_succ]
      apply withinLeft_of_polled
      refine next.mono fun made state' either => ?_
      rcases either with ⟨items, state, ends, related⟩ | rest
      · exact ih ends related
      · exact (rests made state' rest).mono (Nat.le_add_left ..)

/-- Rule for a stream built on another. -/
theorem Steps.follows {slack : Nat}
    (rests : ∀ made state', alone made state' → WithinLeft poll' enough' slack made state')
    (closed : ∀ state made state', rel none state made state' → made = none)
    {items : List Item} {state : S} {made : List Item'} {state' : S'}
    (related : rel (some items) state (some made) state') :
    Follows poll enough items state poll' enough' made state' := by
  constructor
  · intro served
    have started : ServesLeft poll enough (some items) state := served
    exact steps.servesLeft (fun _ _ rest => (rests _ _ rest).1) started related
  · rintro ⟨served, polls, ends⟩
    have started : WithinLeft poll enough polls (some items) state := ⟨served, fun _ => ends⟩
    have ended := steps.withinLeft rests closed started related
    exact ⟨ended.1, polls + slack, ended.2 rfl⟩

end Steps

/-- A stream built on another that first answers an item of its own. -/
theorem Follows.cons {items : List Item} {state : S} {made : List Item'} {item : Item'}
    {first next : S'}
    (answers : ∀ context, poll' context first = some (.ready (some item), next))
    (follows : Follows poll enough items state poll' enough' made next) :
    Follows poll enough items state poll' enough' (item :: made) first := by
  have served : Serves poll' enough' made next → Serves poll' enough' (item :: made) first := by
    intro served
    have polled : Polled poll' enough' (ServesLeft poll' enough') (some (item :: made))
        first := by
      intro context _
      exact ⟨.ready (some item), next, answers context, rfl, served⟩
    exact servesLeft_of_polled polled
  refine ⟨fun source => served (follows.serves source), fun source => ?_⟩
  obtain ⟨serves, polls, ends⟩ := follows.drains source
  have within : WithinLeft poll' enough' polls (some made) next := ⟨serves, fun _ => ends⟩
  exact ⟨served serves, polls + 1, (within.cons answers).2 rfl⟩

end Follows

/-! ### Scripted sources -/

namespace Source

variable {C α : Type*}

/-- The polls of a source, which pay no heed to their context. -/
abbrev polls (_ : C) (source : Source α) : Option (Poll (Option α) × Source α) :=
  some source.poll

/-- What is left of a source are its items, whether it has answered the end or not. -/
theorem servesLeft {items : Option (List α)} {source : Source α}
    (here : items.getD [] = source.items) :
    ServesLeft (polls (C := C)) (fun _ => True) items source := by
  refine serves_of_keeps (fun items (source : Source α) => items.getD [] = source.items)
    ?_ here
  intro items source here context _
  refine ⟨source.poll.1, source.poll.2, rfl, ?_⟩
  rcases source.poll_cases with ⟨answer, -, kept⟩ | ⟨answer, empty, kept⟩ |
    ⟨item, rest, answer, queued, kept⟩
  · rw [answer]
    exact here.trans kept.symm
  · rw [answer]
    match items with
    | none | some [] => exact kept.symm
    | some (item :: items) => cases here.trans empty
  · rw [answer]
    match items with
    | none | some [] => cases here.trans queued
    | some (item :: items) =>
        cases here.trans queued
        exact ⟨rfl, kept.symm⟩

/-- A source serves its items, whatever its schedule. -/
theorem serves (source : Source α) :
    Serves (polls (C := C)) (fun _ => True) source.items source := by
  have left : (some source.items).getD [] = source.items := rfl
  exact servesLeft left

/-- A source that comes to its end once it answers does so after a wait. -/
theorem withinLeft_of_wait {items : List α}
    (answers : ∀ schedule : Stream' Bool, Fair schedule → schedule.head = true →
      ∃ count, WithinLeft (polls (C := C)) (fun _ => True) count (some items)
        { items := items, schedule := schedule })
    {schedule : Stream' Bool} (fair : Fair schedule) :
    ∃ count, WithinLeft (polls (C := C)) (fun _ => True) count (some items)
      { items := items, schedule := schedule } := by
  obtain ⟨wait, answered⟩ := fair 0
  rw [Nat.zero_add] at answered
  induction wait generalizing schedule with
  | zero => exact answers schedule fair answered
  | succ wait ih =>
      cases now : schedule.head with
      | true => exact answers schedule fair now
      | false =>
          obtain ⟨count, within⟩ := ih fair.tail answered
          refine ⟨count + 1, withinLeft_of_polled ?_⟩
          intro context _
          refine ⟨.pending, { items := items, schedule := schedule.tail }, ?_, within⟩
          rw [polls, poll, now]
          rfl

/-- With a fair schedule it comes to its end. -/
theorem withinLeft_of_fair (items : List α) {schedule : Stream' Bool}
    (fair : Fair schedule) :
    ∃ count, WithinLeft (polls (C := C)) (fun _ => True) count (some items)
      { items := items, schedule := schedule } := by
  induction items generalizing schedule with
  | nil =>
      refine withinLeft_of_wait (fun schedule _ now => ⟨1, withinLeft_of_polled ?_⟩) fair
      intro context _
      refine ⟨.ready none, { items := [], schedule := schedule.tail }, ?_,
        withinLeft_none 0 (servesLeft rfl)⟩
      rw [polls, poll, now]
      rfl
  | cons item items ih =>
      refine withinLeft_of_wait (fun schedule fair now => ?_) fair
      obtain ⟨count, within⟩ := ih fair.tail
      refine ⟨count + 1, withinLeft_of_polled ?_⟩
      intro context _
      refine ⟨.ready (some item), { items := items, schedule := schedule.tail }, ?_,
        rfl, within⟩
      rw [polls, poll, now]
      rfl

theorem drains (source : Source α) (fair : Fair source.schedule) :
    Drains (polls (C := C)) (fun _ => True) source.items source := by
  obtain ⟨count, within⟩ := withinLeft_of_fair (C := C) source.items fair
  exact ⟨within.1, count, within.2 rfl⟩

end Source

end IceRpc.Lib
