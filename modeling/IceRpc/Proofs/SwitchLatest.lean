/-
Module: IceRpc.Proofs.SwitchLatest
Purpose: `switch_map` emits from the latest projection only: what it emits is made of first
  values of each projection in the order of the source, a projection that was replaced is
  not heard any more, and the end is the first error that is read, or that of the source
  once the last projection has ended.
Trusted boundary: none
Main exports: Switching, SwitchEnd, Switched, Continues, switch_turn, switch_poll,
  switch_run, switch_ends, LatestOnly, switch_map_emits_the_latest
-/
import Mathlib.Algebra.Group.Action.Defs
import Mathlib.Algebra.Order.BigOperators.Group.List
import Mathlib.Algebra.Order.Ring.Nat
import IceRpc.Lib.Awaiting
import IceRpc.Rx.Course
import IceRpc.Rx.Transform.Transforming

namespace IceRpc.Rx

open Lib
open PollStream (pollNext)

variable {S F P T U E : Type}

/-! ### The history of a switch_map -/

/-- The projections so far, each with the answers it was polled with. -/
abbrev Played (P U E : Type) := List (P × List (Answer U E))

/-- The values emitted of each projection. -/
def pieces (played : Played P U E) : List (List U) :=
  played.map fun entry => emitted entry.2

/-- The number of polls the projections have had. -/
def pollsOf (played : Played P U E) : Nat :=
  (played.map fun entry => entry.2.length).sum

/-- All but the last piece stay as they are. -/
def Continues (pieces more : List (List U)) : Prop :=
  pieces.dropLast <+: more ∧ pieces.length ≤ more.length

/-- What the source has answered, by how it is marked. -/
def SourceAt (heard : List (Answer T E)) : Option SourceEnd → Prop
  | none => Ongoing heard
  | some .completed => StoppedWith (some .complete) heard
  | some .closed => StoppedWith none heard

/-- First values of each projection. -/
def Pieces (courses : Nat → Course U E) (pieces : List (List U)) : Prop :=
  ∀ index piece, pieces[index]? = some piece → piece <+: (courses index).values

/-- How a `switch_map` ends, and what it has emitted of each projection then. -/
inductive SwitchEnd (course : Course T E) (courses : Nat → Course U E) :
    List (List U) → Option (Event U E) → Prop
  /-- The source has failed. -/
  | source {pieces : List (List U)} {err : ObservableError E} :
      course.ending = .error err → pieces.length = course.values.length →
      SwitchEnd course courses pieces (some (.error err))
  /-- The latest projection has failed. -/
  | projection {before : List (List U)} {err : ObservableError E} :
      (courses before.length).ending = .error err →
      SwitchEnd course courses (before ++ [(courses before.length).values])
        (some (.error err))
  /-- The source has ended, and so has the last projection. -/
  | ended {pieces : List (List U)} {last : Option (Event U E)} :
      course.ending = .complete ∧ last = some .complete ∨
        course.ending = .closed ∧ last = none →
      pieces.length = course.values.length →
      (∀ before piece, pieces = before ++ [piece] → piece = (courses before.length).values ∧
        ∀ err, (courses before.length).ending ≠ .error err) →
      SwitchEnd course courses pieces last

/-- A `switch_map` that has ended: values of its projections in the order of the source, its
last answer, and nothing more. -/
def Switched (course : Course T E) (courses : Nat → Course U E) (pieces : List (List U))
    (answers : List (Answer U E)) : Prop :=
  ∃ before last ends, answers = before ++ .ready last :: List.replicate ends (.ready none) ∧
    Ongoing before ∧ emitted before = pieces.flatten ∧ Pieces courses pieces ∧
    SwitchEnd course courses pieces last

theorem Continues.refl (pieces : List (List U)) : Continues pieces pieces :=
  ⟨List.dropLast_prefix _, le_rfl⟩

theorem Continues.trans {pieces more most : List (List U)} (one : Continues pieces more)
    (two : Continues more most) : Continues pieces most := by
  refine ⟨List.IsPrefix.trans ?_ two.1, Nat.le_trans one.2 two.2⟩
  refine List.prefix_of_prefix_length_le one.1 (List.dropLast_prefix more) ?_
  have longer := one.2
  simp only [List.length_dropLast]
  omega

theorem continues_last (before : Played P U E) (first : P)
    (history more : List (Answer U E)) :
    Continues (pieces (before ++ [(first, history)])) (pieces (before ++ [(first, more)])) := by
  simp [Continues, pieces]

theorem continues_next (played : Played P U E) (entry : P × List (Answer U E)) :
    Continues (pieces played) (pieces (played ++ [entry])) := by
  refine ⟨(List.dropLast_prefix _).trans ?_, ?_⟩
  · rw [pieces, pieces, List.map_append]
    exact List.prefix_append ..
  · simp [pieces]

section Switching

variable [PollStream S (Event T E)] [PollStream P (Event U E)] [FnMut F T P]

/-- The last projection is the one that is polled, or it has ended. -/
def ActiveAt (enough : Context → Prop) (played : Played P U E) : Option P → Prop
  | some projected => ∃ before first heard, played = before ++ [(first, heard)] ∧
      Reached pollNext enough first heard projected ∧ Ongoing heard
  | none => ∀ before first heard, played = before ++ [(first, heard)] → Ended heard

theorem activeAt_none {enough : Context → Prop} {before : Played P U E} {first : P}
    {heard : List (Answer U E)} (ended : Ended heard) :
    ActiveAt enough (before ++ [(first, heard)]) none := by
  intro others other answers same
  obtain ⟨-, last⟩ := List.append_inj' same rfl
  cases last
  exact ended

/-- A `switch_map` that is going on: what its source and its projections have answered, none
of it an error, and what it has answered itself. -/
structure Switching (enough : Context → Prop) (source : S) (f : F) (extra : Nat)
    (answers : List (Answer U E)) (heard : List (Answer T E))
    (played : Played P U E) (this : SwitchMap S F P) : Prop where
  running : this.finished = false
  ongoing : Ongoing answers
  reached : Reached pollNext enough source heard this.source
  sourceAt : SourceAt heard this.sourceEnd
  closure : this.f = called f (emitted heard)
  projections : calls f (emitted heard) = played.map Prod.fst
  histories : ∀ entry ∈ played, (Ongoing entry.2 ∨ Ended entry.2) ∧
    ∃ state, Reached pollNext enough entry.1 entry.2 state
  active : ActiveAt enough played this.projected
  spoken : emitted answers = (pieces played).flatten
  count : answers.length + extra ≤ heard.length + pollsOf played

theorem switching_new {enough : Context → Prop} {source : S} {f : F} :
    Switching (U := U) enough source f 0 [] [] []
      (SwitchMap.new source f : SwitchMap S F P) where
  running := rfl
  ongoing := nofun
  reached := .refl source
  sourceAt := nofun
  closure := rfl
  projections := rfl
  histories := nofun
  active := by
    intro before first heard nothing
    simp at nothing
  spoken := rfl
  count := le_rfl

/-! ### What the answers of the two streams come to -/

variable {enough : Context → Prop} {source : S} {f : F} {extra : Nat}
  {answers : List (Answer U E)} {heard : List (Answer T E)}
  {played : Played P U E} {this : SwitchMap S F P} {cx : Context}

/-- The active projection has answered once more. -/
theorem Switching.hear_projection {before : Played P U E} {first next : P}
    {history : List (Answer U E)} {said : Answer U E}
    (switching : Switching enough source f 0 answers heard (before ++ [(first, history)]) this)
    (reached : Reached pollNext enough first (history ++ [said]) next)
    (fine : Ongoing (history ++ [said]) ∨ Ended (history ++ [said]))
    {projected : Option P}
    (active : ActiveAt enough (before ++ [(first, history ++ [said])]) projected)
    {now : List (Answer U E)} (ongoing : Ongoing now)
    (spoken : emitted now = emitted answers ++ emitted [said]) (extra : Nat)
    (count : now.length + extra ≤ answers.length + 1) :
    Switching enough source f extra now heard (before ++ [(first, history ++ [said])])
      { this with projected := projected } where
  running := switching.running
  ongoing := ongoing
  reached := switching.reached
  sourceAt := switching.sourceAt
  closure := switching.closure
  projections := by
    rw [switching.projections]
    simp
  histories := by
    intro entry listed
    rcases List.mem_append.mp listed with earlier | last
    · exact switching.histories entry (List.mem_append_left _ earlier)
    · rw [List.mem_singleton.mp last]
      exact ⟨fine, next, reached⟩
  active := active
  spoken := by
    rw [spoken, switching.spoken]
    simp [pieces, emitted_append]
  count := by
    have counted := switching.count
    simp only [pollsOf, List.map_append, List.map_cons, List.map_nil, List.sum_append,
      List.sum_cons, List.sum_nil, List.length_append, List.length_singleton] at counted ⊢
    omega

/-- Nothing is read in the rest of the turn. -/
theorem Switching.wait (switching : Switching enough source f 1 answers heard played this) :
    Switching enough source f 0 (answers ++ [.pending]) heard played this where
  __ := switching
  ongoing := switching.ongoing.snoc rfl
  spoken := by
    rw [emitted_append, switching.spoken]
    exact List.append_nil _
  count := by
    rw [List.length_append]
    exact switching.count

section

variable (switching : Switching enough source f extra answers heard played this)
include switching

theorem Switching.forget : Switching enough source f 0 answers heard played this where
  __ := switching
  count := Nat.le_trans (Nat.le_add_right ..) switching.count

/-- The source has answered once more, and brought no value. -/
theorem Switching.hear_source {said : Answer T E} {next : S} (good : enough cx)
    (polled : pollNext cx this.source = some (said, next))
    (nothing : emitted [said] = []) {ending : Option SourceEnd}
    (sourceAt : SourceAt (heard ++ [said]) ending) :
    Switching enough source f 1 answers (heard ++ [said]) played
      { this with source := next, sourceEnd := ending } where
  running := switching.running
  ongoing := switching.ongoing
  reached := switching.reached.snoc good polled
  sourceAt := sourceAt
  closure := by
    rw [emitted_append, nothing, List.append_nil]
    exact switching.closure
  projections := by
    rw [emitted_append, nothing, List.append_nil]
    exact switching.projections
  histories := switching.histories
  active := switching.active
  spoken := switching.spoken
  count := by
    have counted := switching.count
    simp only [List.length_append, List.length_singleton]
    omega

/-- The source has brought a value, whose projection replaces the one before. -/
theorem Switching.hear_value {value : T} {next : S} (good : enough cx)
    (polled : pollNext cx this.source = some (.ready (some (.next value)), next))
    (ongoing : Ongoing heard) (unended : this.sourceEnd = none) :
    Switching enough source f 0 answers (heard ++ [.ready (some (.next value))])
      (played ++ [((FnMut.call this.f value).1, [])])
      { this with source := next, f := (FnMut.call this.f value).2,
                  projected := some (FnMut.call this.f value).1 } where
  running := switching.running
  ongoing := switching.ongoing
  reached := switching.reached.snoc good polled
  sourceAt := by
    rw [unended]
    exact ongoing.snoc rfl
  closure := by
    rw [emitted_append, switching.closure]
    exact (called_snoc f (emitted heard) value).symm
  projections := by
    rw [emitted_append, switching.closure, List.map_append, ← switching.projections]
    exact calls_append f (emitted heard) [value]
  histories := by
    intro entry listed
    rcases List.mem_append.mp listed with earlier | last
    · exact switching.histories entry earlier
    · rw [List.mem_singleton.mp last]
      exact ⟨Or.inl nofun, _, .refl _⟩
  active := ⟨played, _, [], rfl, .refl _, nofun⟩
  spoken := by
    rw [switching.spoken]
    simp [pieces, emitted]
  count := by
    have counted := switching.count
    simp only [pollsOf, List.map_append, List.map_cons, List.map_nil, List.sum_append,
      List.sum_cons, List.sum_nil, List.length_append, List.length_singleton,
      List.length_nil] at counted ⊢
    omega

end

/-! ### What the courses say of it -/

/-- The source and all its projections are served. -/
structure Cast (enough : Context → Prop) (course : Course T E) (courses : Nat → Course U E)
    (source : S) (f : F) : Prop where
  source : Serves pollNext enough course.events source
  projections : ∀ index projection, (calls f course.values)[index]? = some projection →
    Serves pollNext enough (courses index).events projection

variable {course : Course T E} {courses : Nat → Course U E}

section

variable (switching : Switching enough source f extra answers heard played this)
include switching

theorem Switching.listed (served : Serves pollNext enough course.events source)
    {index : Nat} {entry : P × List (Answer U E)} (listed : played[index]? = some entry) :
    (calls f course.values)[index]? = some entry.1 := by
  obtain ⟨more, values⟩ := emitted_prefix_of_reached served switching.reached
  rw [← values, calls_append, switching.projections]
  refine List.getElem?_append_left ?_ |>.trans ?_
  · have bound := (List.getElem?_eq_some_iff.mp listed).1
    simpa using bound
  · rw [List.getElem?_map, listed]
    rfl

theorem Switching.served (cast : Cast enough course courses source f) {index : Nat}
    {entry : P × List (Answer U E)} (listed : played[index]? = some entry) :
    Serves pollNext enough (courses index).events entry.1 :=
  cast.projections index entry.1 (switching.listed cast.source listed)

theorem Switching.pieces (cast : Cast enough course courses source f) :
    Pieces courses (Rx.pieces played) := by
  intro index piece listed
  rw [Rx.pieces, List.getElem?_map] at listed
  obtain ⟨entry, there, rfl⟩ := Option.map_eq_some_iff.mp listed
  obtain ⟨-, state, reached⟩ := switching.histories entry (List.mem_of_getElem? there)
  exact emitted_prefix_of_reached (switching.served cast there) reached

theorem Switching.pieces_length : (Rx.pieces played).length = (emitted heard).length := by
  have count := congrArg List.length switching.projections
  rw [calls_length, List.length_map] at count
  rw [Rx.pieces, List.length_map, count]

end

/-- The values of the source that are still to be read, and its end. -/
def sourceLeft (course : Course T E) (heard : List (Answer T E)) :
    Option SourceEnd → Nat
  | none => course.values.length - (emitted heard).length + 1
  | some _ => 0

/-- What a turn comes to: it goes round with less of the source left, it answers and goes on,
or it ends. -/
inductive SwitchTurn (enough : Context → Prop) (course : Course T E)
    (courses : Nat → Course U E) (source : S) (f : F)
    (answers : List (Answer U E)) (played : Played P U E) (left : Nat) :
    Turn (SwitchMap S F P) (Answer U E) → Prop
  | again {heard : List (Answer T E)} {more : Played P U E}
      {next : SwitchMap S F P} : Switching enough source f 0 answers heard more next →
      Continues (pieces played) (pieces more) → sourceLeft course heard next.sourceEnd < left →
      SwitchTurn enough course courses source f answers played left (.again next)
  | goesOn {heard : List (Answer T E)} {more : Played P U E}
      {answer : Answer U E} {next : SwitchMap S F P} :
      Switching enough source f 0 (answers ++ [answer]) heard more next →
      Continues (pieces played) (pieces more) →
      SwitchTurn enough course courses source f answers played left (.leave answer next)
  | ends {last : List (List U)} {answer : Answer U E}
      {next : SwitchMap S F P} : next.finished = true →
      Switched course courses last (answers ++ [answer]) → Continues (pieces played) last →
      SwitchTurn enough course courses source f answers played left (.leave answer next)

section

variable (switching : Switching enough source f extra answers heard played this)
include switching

/-- The last projection has ended without an error, all its values emitted. -/
theorem Switching.drained (cast : Cast enough course courses source f)
    (drained : this.projected = none) {before : List (List U)} {piece : List U}
    (split : Rx.pieces played = before ++ [piece]) :
    piece = (courses before.length).values ∧
      ∀ err, (courses before.length).ending ≠ .error err := by
  obtain ⟨earlier, last, rfl, rfl, single⟩ := List.map_eq_append_iff.mp split
  obtain ⟨entry, rfl, rfl⟩ := List.map_eq_singleton_iff.mp single
  have there : (earlier ++ [entry])[earlier.length]? = some entry := List.getElem?_concat_length
  have served := switching.served cast there
  obtain ⟨-, state, reached⟩ := switching.histories entry (by simp)
  have active := switching.active
  rw [drained] at active
  rw [List.length_map]
  exact ended_of_reached served reached (active earlier entry.1 entry.2 rfl)

/-- The source has ended, and so has the last projection. -/
theorem Switching.finished (cast : Cast enough course courses source f)
    (drained : this.projected = none) (ending : StreamEnd E)
    (stopped : StoppedWith ending.last heard) (fine : ending = .complete ∨ ending = .closed) :
    Switched course courses (Rx.pieces played) (answers ++ [.ready ending.last]) := by
  have concluding : concludes (.ready (ending.last : Option (Event T E))) = true := by
    rcases fine with rfl | rfl <;> rfl
  obtain ⟨all, last⟩ := stopped_of_reached cast.source switching.reached stopped concluding
  have same := StreamEnd.last_injective last
  refine ⟨answers, ending.last, 0, rfl, switching.ongoing, switching.spoken,
    switching.pieces cast, .ended ?_ ?_ fun before piece => switching.drained cast drained⟩
  · rcases fine with rfl | rfl
    · exact Or.inl ⟨same.symm, rfl⟩
    · exact Or.inr ⟨same.symm, rfl⟩
  · rw [switching.pieces_length, all]

/-- The source has failed. -/
theorem Switching.source_failed (cast : Cast enough course courses source f)
    (ongoing : Ongoing heard) {next : S} {err : ObservableError E}
    (reached : Reached pollNext enough source
      (heard ++ [.ready (some (.error err))]) next) :
    Switched course courses (Rx.pieces played)
      (answers ++ [.ready (some (.error err))]) := by
  obtain ⟨all, errs⟩ := error_of_reached cast.source ongoing reached
  refine ⟨answers, some (.error err), 0, rfl, switching.ongoing, switching.spoken,
    switching.pieces cast, .source errs ?_⟩
  rw [switching.pieces_length, all]

end

/-- The latest projection has failed. -/
theorem Switching.projection_failed {before : Played P U E} {first next : P}
    {history : List (Answer U E)} {err : ObservableError E}
    (switching : Switching enough source f extra answers heard
      (before ++ [(first, history)]) this)
    (cast : Cast enough course courses source f) (ongoing : Ongoing history)
    (reached : Reached pollNext enough first
      (history ++ [.ready (some (.error err))]) next) :
    Switched course courses (Rx.pieces (before ++ [(first, history)]))
      (answers ++ [.ready (some (.error err))]) := by
  have last : (before ++ [(first, history)])[before.length]? = some (first, history) :=
    List.getElem?_concat_length
  have served := switching.served cast last
  obtain ⟨all, errs⟩ := error_of_reached served ongoing reached
  refine ⟨answers, some (.error err), 0, rfl, switching.ongoing, switching.spoken,
    switching.pieces cast, ?_⟩
  have split : Rx.pieces (before ++ [(first, history)]) =
      Rx.pieces before ++ [(courses (Rx.pieces before).length).values] := by
    simp only [Rx.pieces, List.map_append, List.map_cons, List.map_nil, List.length_map]
    rw [all]
  rw [split]
  apply SwitchEnd.projection
  simpa only [Rx.pieces, List.length_map] using errs

/-! ### One turn -/

/-- The rest of a turn, once the projection had its poll. -/
theorem pollSource_turn
    (switching : Switching enough source f extra answers heard played this)
    (asked : this.projected.isSome = true → extra = 1) (good : enough cx)
    (cast : Cast enough course courses source f) :
    ∃ turned, this.pollSource cx = some turned ∧
      SwitchTurn enough course courses source f answers played
        (sourceLeft course heard this.sourceEnd) turned := by
  obtain ⟨now, closure, projected, sourceEnd, finished⟩ := this
  have sourceAt := switching.sourceAt
  match sourceEnd, projected with
  | some .completed, none =>
      refine ⟨_, rfl, .ends rfl ?_ (.refl _)⟩
      exact switching.finished cast rfl .complete sourceAt (Or.inl rfl)
  | some .closed, none =>
      refine ⟨_, rfl, .ends rfl ?_ (.refl _)⟩
      exact switching.finished cast rfl .closed sourceAt (Or.inr rfl)
  | some ending, some projected =>
      -- the projection was polled in this turn, which pays for the answer
      cases asked rfl
      exact ⟨_, rfl, .goesOn switching.wait (.refl _)⟩
  | none, _ =>
      obtain ⟨said, next, polled⟩ := switching.reached.polled cast.source good
      match said with
      | .pending =>
          have waiting : Switching enough source f 1 answers _ played ⟨next, _, _, none, _⟩ :=
            switching.hear_source good polled rfl (Ongoing.snoc sourceAt rfl)
          exact ⟨_, by rw [SwitchMap.pollSource, polled], .goesOn waiting.wait (.refl _)⟩
      | .ready (some (.next value)) =>
          have switched := switching.hear_value good polled sourceAt rfl
          have part := emitted_prefix_of_reached cast.source switched.reached
          have fewer := part.length_le
          refine ⟨_, by rw [SwitchMap.pollSource, polled], .again switched
            (continues_next ..) ?_⟩
          rw [emitted_append, List.length_append] at fewer
          have one : (emitted [.ready (some (.next value : Event T E))]).length = 1 := rfl
          simp only [sourceLeft, emitted_append, List.length_append]
          omega
      | .ready (some .complete) =>
          have ended :
              Switching enough source f 1 answers _ played ⟨next, _, _, some .completed, _⟩ :=
            switching.hear_source good polled rfl ⟨_, rfl, sourceAt⟩
          exact ⟨_, by rw [SwitchMap.pollSource, polled], .again ended.forget (.refl _)
            (Nat.succ_pos _)⟩
      | .ready none =>
          have ended :
              Switching enough source f 1 answers _ played ⟨next, _, _, some .closed, _⟩ :=
            switching.hear_source good polled rfl ⟨_, rfl, sourceAt⟩
          exact ⟨_, by rw [SwitchMap.pollSource, polled], .again ended.forget (.refl _)
            (Nat.succ_pos _)⟩
      | .ready (some (.error err)) =>
          refine ⟨_, by rw [SwitchMap.pollSource, polled], .ends rfl ?_ (.refl _)⟩
          exact switching.source_failed cast sourceAt (switching.reached.snoc good polled)

/-- A turn that follows on something that has happened before in this poll. -/
theorem SwitchTurn.continued {before : Played P U E} {left : Nat}
    {turned : Turn (SwitchMap S F P) (Answer U E)}
    (turn : SwitchTurn enough course courses source f answers played left turned)
    (continues : Continues (Rx.pieces before) (Rx.pieces played)) :
    SwitchTurn enough course courses source f answers before left turned := by
  cases turn with
  | again switching more fewer => exact .again switching (continues.trans more) fewer
  | goesOn switching more => exact .goesOn switching (continues.trans more)
  | ends finished switched more => exact .ends finished switched (continues.trans more)

/-- A turn that goes on to the source after a poll of the projection. -/
theorem turn_of_source {before : Played P U E} {first : P}
    {history more : List (Answer U E)} {next : SwitchMap S F P}
    (later : Switching enough source f 1 answers heard (before ++ [(first, more)]) next)
    (good : enough cx) (cast : Cast enough course courses source f)
    (turn_eq : this.turn cx = (next.pollSource cx :
      Option (Turn (SwitchMap S F P) (Answer U E)))) :
    ∃ turned, this.turn cx = some turned ∧
      SwitchTurn enough course courses source f answers (before ++ [(first, history)])
        (sourceLeft course heard next.sourceEnd) turned := by
  obtain ⟨turned, polled, turn⟩ := pollSource_turn later (fun _ => rfl) good cast
  exact ⟨turned, turn_eq.trans polled, turn.continued (continues_last ..)⟩

/-- One turn of the loop. -/
theorem switch_turn (switching : Switching enough source f 0 answers heard played this)
    (good : enough cx) (cast : Cast enough course courses source f) :
    ∃ turned, this.turn cx = some turned ∧
      SwitchTurn enough course courses source f answers played
        (sourceLeft course heard this.sourceEnd) turned := by
  obtain ⟨now, closure, projected, sourceEnd, finished⟩ := this
  cases switching.running
  match projected with
  | none => exact pollSource_turn switching nofun good cast
  | some projected =>
      -- the projection comes first; the source has its poll if that brings no event
      obtain ⟨before, first, history, rfl, reached, ongoing⟩ := switching.active
      have last : (before ++ [(first, history)])[before.length]? = some (first, history) :=
        List.getElem?_concat_length
      have served := switching.served cast last
      obtain ⟨said, next, polled⟩ := reached.polled served good
      have after := reached.snoc good polled
      have going (goes : concludes said = false) :
          ActiveAt enough (before ++ [(first, history ++ [said])]) (some next) :=
        ⟨before, first, _, rfl, after, ongoing.snoc goes⟩
      match said with
      | .ready (some (.next value)) =>
          have spoken := switching.hear_projection after (Or.inl (ongoing.snoc rfl)) (going rfl)
            (switching.ongoing.snoc rfl) (emitted_append ..) 0
            (Nat.le_of_eq List.length_append)
          exact ⟨_, by simp only [SwitchMap.turn, polled]; rfl,
            .goesOn spoken (continues_last ..)⟩
      | .ready (some (.error err)) =>
          refine ⟨_, by simp only [SwitchMap.turn, polled]; rfl, .ends rfl ?_ (.refl _)⟩
          exact switching.projection_failed cast ongoing after
      | .ready (some .complete) =>
          have ended : Ended (history ++ [.ready (some .complete)]) :=
            Or.inr ⟨history, rfl, ongoing⟩
          have drained := switching.hear_projection after (Or.inr ended) (activeAt_none ended)
            switching.ongoing (List.append_nil _).symm 1 le_rfl
          apply turn_of_source drained good cast
          simp only [SwitchMap.turn, polled, Bool.false_eq_true, if_false]
      | .ready none =>
          have ended : Ended (history ++ [.ready none]) := Or.inl ⟨history, rfl, ongoing⟩
          have drained := switching.hear_projection after (Or.inr ended) (activeAt_none ended)
            switching.ongoing (List.append_nil _).symm 1 le_rfl
          apply turn_of_source drained good cast
          simp only [SwitchMap.turn, polled, Bool.false_eq_true, if_false]
      | .pending =>
          have waiting := switching.hear_projection after (Or.inl (ongoing.snoc rfl))
            (going rfl) switching.ongoing (List.append_nil _).symm 1 le_rfl
          apply turn_of_source waiting good cast
          simp only [SwitchMap.turn, polled, Bool.false_eq_true, if_false]

/-! ### Whole runs -/

/-- What a `switch_map` has come to: it goes on, or it has ended. -/
def SwitchedTo (enough : Context → Prop) (course : Course T E) (courses : Nat → Course U E)
    (source : S) (f : F) (pieces : List (List U)) (answers : List (Answer U E))
    (this : SwitchMap S F P) : Prop :=
  (∃ heard played, Switching enough source f 0 answers heard played this ∧
    pieces = Rx.pieces played) ∨
  this.finished = true ∧ Switched course courses pieces answers

theorem SwitchedTo.pieces {pieces : List (List U)}
    (there : SwitchedTo enough course courses source f pieces answers this)
    (cast : Cast enough course courses source f) : Pieces courses pieces := by
  rcases there with ⟨heard, played, switching, rfl⟩ | ⟨-, switched⟩
  · exact switching.pieces cast
  · obtain ⟨before, last, ends, -, -, -, pieces, -⟩ := switched
    exact pieces

/-- One poll: the turns it takes are those of the source's values that are left. -/
theorem switch_poll {turns : Nat}
    (switching : Switching enough source f 0 answers heard played this)
    (good : enough cx) (cast : Cast enough course courses source f)
    (enoughTurns : sourceLeft course heard this.sourceEnd < turns) :
    ∃ answer next pieces, loop (SwitchMap.turn cx) turns this = some (answer, next) ∧
      SwitchedTo enough course courses source f pieces (answers ++ [answer]) next ∧
      Continues (Rx.pieces played) pieces := by
  -- every turn that goes round has read something of the source
  induction turns generalizing heard played this with
  | zero => cases enoughTurns
  | succ turns ih =>
      obtain ⟨turned, turn_eq, turn⟩ := switch_turn switching good cast
      cases turn with
      | again switching more fewer =>
          obtain ⟨answer, next, pieces, returned, there, last⟩ := ih switching (by omega)
          refine ⟨answer, next, pieces, ?_, there, more.trans last⟩
          rw [loop_again turn_eq]
          exact returned
      | goesOn switching more =>
          exact ⟨_, _, _, loop_leave turn_eq (Nat.succ_pos _),
            Or.inl ⟨_, _, switching, rfl⟩, more⟩
      | ends finished switched more =>
          exact ⟨_, _, _, loop_leave turn_eq (Nat.succ_pos _),
            Or.inr ⟨finished, switched⟩, more⟩

/-- Polls after the end answer the end. -/
theorem Switched.snoc {pieces : List (List U)}
    (switched : Switched course courses pieces answers) :
    Switched course courses pieces (answers ++ [.ready none]) := by
  obtain ⟨before, last, ends, rfl, rest⟩ := switched
  exact ⟨before, last, ends + 1, after_end .., rest⟩

/-- The run of a `switch_map`, from any moment on. -/
theorem switch_run (cast : Cast enough course courses source f) {pieces : List (List U)}
    (start : SwitchedTo enough course courses source f pieces answers this)
    (contexts : List Context)
    (good : ∀ cx ∈ contexts, WithTurns (course.values.length + 2) enough cx) :
    ∃ later final, pollAll pollNext contexts this = some (later, final) ∧
      ∃ more, SwitchedTo enough course courses source f more (answers ++ later) final ∧
        Continues pieces more := by
  refine pollAll_history (fun later final => ∃ more,
    SwitchedTo enough course courses source f more (answers ++ later) final ∧
      Continues pieces more) ⟨pieces, ?_, .refl _⟩ ?_ contexts good
  · rwa [List.append_nil]
  · rintro later now cx ⟨more, there, continues⟩ ⟨goodNow, turns⟩
    rcases there with ⟨heard, played, switching, rfl⟩ | ⟨finished, switched⟩
    · have fewer : sourceLeft course heard now.sourceEnd < cx.turns := by
        refine Nat.lt_of_lt_of_le ?_ turns
        match now.sourceEnd with
        | none => exact Nat.succ_lt_succ (Nat.lt_succ_of_le (Nat.sub_le ..))
        | some _ => exact Nat.succ_pos _
      obtain ⟨answer, next, last, returned, there, goesOn⟩ :=
        switch_poll switching goodNow cast fewer
      rw [List.append_assoc] at there
      exact ⟨answer, next, returned, last, there, continues.trans goesOn⟩
    · have leaves : now.turn cx = some (.leave (.ready none : Answer U E) now) :=
        if_pos finished
      refine ⟨_, now, loop_leave leaves (Nat.zero_lt_of_lt turns), more, Or.inr ⟨finished, ?_⟩,
        continues⟩
      rw [← List.append_assoc]
      exact switched.snoc

/-- One number of polls is enough for all projections. -/
theorem projections_within
    (projections : ∀ index projection, (calls f course.values)[index]? = some projection →
      Drains pollNext enough (courses index).events projection) :
    ∃ most, ∀ index projection, (calls f course.values)[index]? = some projection →
      WithinLeft pollNext enough most (some (courses index).events)
        (projection : P) := by
  have each : ∀ index, ∃ polls, ∀ projection,
      (calls f course.values)[index]? = some projection →
      WithinLeft pollNext enough polls (some (courses index).events)
        (projection : P) := by
    intro index
    match listed : (calls f course.values)[index]? with
    | none => exact ⟨0, nofun⟩
    | some projection =>
        obtain ⟨served, polls, ends⟩ := projections index projection listed
        refine ⟨polls, fun other same => ?_⟩
        cases same
        exact ⟨served, fun _ => ends⟩
  obtain ⟨most, within⟩ := exists_common_bound
    (fun index polls more fewer within projection listed => (within projection listed).mono fewer)
    each (calls f course.values).length
  refine ⟨most, fun index projection listed => within index ?_ projection listed⟩
  exact (List.getElem?_eq_some_iff.mp listed).1

theorem Switching.length_le {polls most : Nat}
    (switching : Switching enough source f 0 answers heard played this)
    (within : WithinLeft pollNext enough polls (some course.events) source)
    (projections : ∀ index projection, (calls f course.values)[index]? = some projection →
      WithinLeft pollNext enough most (some (courses index).events)
        (projection : P)) :
    answers.length ≤ polls + course.values.length * most := by
  have fewHeard : heard.length ≤ polls := by
    have sourceAt := switching.sourceAt
    match this.sourceEnd, sourceAt with
    | none, ongoing => exact Nat.le_of_lt (Ongoing.length_lt within switching.reached ongoing)
    | some .completed, stopped | some .closed, stopped =>
        exact StoppedWith.length_le within switching.reached stopped
  have cast : Cast enough course courses source f :=
    ⟨within.1, fun index projection listed => (projections index projection listed).1⟩
  have fewPlayed : played.length ≤ course.values.length := by
    have part := (emitted_prefix_of_reached cast.source switching.reached).length_le
    have same := switching.pieces_length
    rw [Rx.pieces, List.length_map] at same
    rwa [same]
  have each : ∀ polls ∈ played.map fun entry => entry.2.length, polls ≤ most := by
    intro count listed
    obtain ⟨entry, there, rfl⟩ := List.mem_map.mp listed
    obtain ⟨index, place⟩ := List.mem_iff_getElem?.mp there
    have within := projections index entry.1 (switching.listed within.1 place)
    obtain ⟨far, state, reached⟩ := switching.histories entry there
    rcases far with ongoing | stopped | stopped
    · exact Nat.le_of_lt (ongoing.length_lt within reached)
    · exact stopped.length_le within reached
    · exact stopped.length_le within reached
  have fewPolls := List.sum_le_card_nsmul _ most each
  rw [List.length_map, smul_eq_mul] at fewPolls
  calc answers.length ≤ heard.length + pollsOf played := switching.count
    _ ≤ polls + played.length * most := Nat.add_le_add fewHeard fewPolls
    _ ≤ polls + course.values.length * most :=
      Nat.add_le_add_left (Nat.mul_le_mul_right most fewPlayed) polls

/-- A `switch_map` of streams that come to their ends comes to its end. -/
theorem switch_ends (drains : Drains pollNext enough course.events source)
    (projections : ∀ index projection, (calls f course.values)[index]? = some projection →
      Drains pollNext enough (courses index).events projection) :
    ∃ polls, ∀ contexts, (∀ cx ∈ contexts, WithTurns (course.values.length + 2) enough cx) →
      polls ≤ contexts.length → ∃ answers final,
        pollAll pollNext contexts (SwitchMap.new source f : SwitchMap S F P) =
          some (answers, final) ∧ ∃ pieces, Switched course courses pieces answers := by
  obtain ⟨served, polls, ends⟩ := drains
  obtain ⟨most, within⟩ := projections_within projections
  have cast : Cast enough course courses source f :=
    ⟨served, fun index projection listed => (within index projection listed).1⟩
  refine ⟨polls + course.values.length * most + 1, fun contexts good long => ?_⟩
  have start : SwitchedTo enough course courses source f [] []
      (SwitchMap.new source f : SwitchMap S F P) := Or.inl ⟨[], [], switching_new, rfl⟩
  obtain ⟨answers, final, returned, pieces, there, -⟩ := switch_run cast start contexts good
  rcases there with ⟨heard, played, switching, -⟩ | ⟨-, switched⟩
  · have few := switching.length_le ⟨served, fun _ => ends⟩ within
    rw [List.nil_append, pollAll_length returned] at few
    exact absurd (Nat.le_trans long few) (Nat.not_succ_le_self _)
  · exact ⟨answers, final, returned, pieces, switched⟩

/-! ### All of it -/

/-! ### Errors at once -/

/-- A turn that gets to a source with an error answers with that error; one that does not
leaves the source alone. -/
def HeedsError (err : ObservableError E) (this : SwitchMap S F P)
    (turned : Turn (SwitchMap S F P) (Answer U E)) : Prop :=
  ∃ answer next, turned = .leave answer next ∧
    (answer = .ready (some (.error err)) ∧ next.finished = true ∨ next.source = this.source)

omit [PollStream P (Event U E)] in
theorem pollSource_error {err : ObservableError E} {after : S} {this : SwitchMap S F P}
    {turned : Turn (SwitchMap S F P) (Answer U E)}
    (turn : this.pollSource cx = some turned)
    (read : pollNext cx this.source = some (.ready (some (.error err)), after)) :
    HeedsError err this turned := by
  rw [SwitchMap.pollSource] at turn
  split at turn
  · split at turn
    · split at turn <;> cases turn <;> exact ⟨_, _, rfl, Or.inr rfl⟩
    · cases turn
      exact ⟨_, _, rfl, Or.inr rfl⟩
  · rw [read] at turn
    cases turn
    exact ⟨_, _, rfl, Or.inl ⟨rfl, rfl⟩⟩

theorem turn_source_error {err : ObservableError E} {after : S} {this : SwitchMap S F P}
    {turned : Turn (SwitchMap S F P) (Answer U E)}
    (read : pollNext cx this.source = some (.ready (some (.error err)), after))
    (turn : SwitchMap.turn cx this = some turned) : HeedsError err this turned := by
  rw [SwitchMap.turn] at turn
  split at turn
  · cases turn
    exact ⟨_, _, rfl, Or.inr rfl⟩
  · split at turn
    · exact pollSource_error turn read
    · split at turn
      · cases turn
      · cases turn
        exact ⟨_, _, rfl, Or.inr rfl⟩
      · cases turn
        exact ⟨_, _, rfl, Or.inr rfl⟩
      all_goals
        have heeds := pollSource_error turn read
        exact heeds

/-- A turn that goes round leaves the operator running. -/
theorem turn_again_running {this next : SwitchMap S F P}
    (turn : SwitchMap.turn cx this =
      some (.again next : Turn _ (Answer U E))) : next.finished = false := by
  have kept : ∀ {here : SwitchMap S F P},
      here.pollSource cx = some (.again next : Turn _ (Answer U E)) →
      here.finished = false → next.finished = false := by
    intro here turn running
    rw [SwitchMap.pollSource] at turn
    split at turn
    · split at turn
      · split at turn <;> cases turn
      · cases turn
    · split at turn <;> cases turn <;> exact running
  rw [SwitchMap.turn] at turn
  split at turn
  · cases turn
  · rename_i running
    have running := Bool.eq_false_of_not_eq_true running
    split at turn
    · exact kept turn running
    · split at turn
      all_goals first
        | cases turn
        | exact kept turn running

theorem rounds_running {this here : SwitchMap S F P} (running : this.finished = false)
    (rounds : Rounds (SwitchMap.turn (T := T) (U := U) (E := E) cx) this here) :
    here.finished = false := by
  induction rounds with
  | start => exact running
  | again turn _ ih => exact ih (turn_again_running turn)

/-- What `switch_map` makes of a source and its projections with these courses. -/
structure LatestOnly (enough : Context → Prop) (course : Course T E)
    (courses : Nat → Course U E) (source : S) (f : F) : Prop where
  /-- At any moment it has emitted first values of each projection, in the order of the
  source, and no error was read, or it has ended.  From then on, nothing is emitted of a
  projection but the last. -/
  runs : Cast enough course courses source f → ∀ contexts more,
    (∀ cx ∈ contexts ++ more, WithTurns (course.values.length + 2) enough cx) →
    ∃ answers this, pollAll pollNext contexts
        (SwitchMap.new source f : SwitchMap S F P) = some (answers, this) ∧
      ∃ pieces, SwitchedTo enough course courses source f pieces answers this ∧
        Pieces courses pieces ∧
      ∃ later final, pollAll pollNext more this = some (later, final) ∧
        ∃ longer, SwitchedTo enough course courses source f longer (answers ++ later) final ∧
          Continues pieces longer
  /-- It comes to its end if the source and all projections do. -/
  ends : Drains pollNext enough course.events source →
    (∀ index projection, (calls f course.values)[index]? = some projection →
      Drains pollNext enough (courses index).events projection) →
    ∃ polls, ∀ contexts, (∀ cx ∈ contexts, WithTurns (course.values.length + 2) enough cx) →
      polls ≤ contexts.length → ∃ answers final,
        pollAll pollNext contexts (SwitchMap.new source f : SwitchMap S F P) =
          some (answers, final) ∧ ∃ pieces, Switched course courses pieces answers
  /-- In whichever turn of a poll an error is read, of the projection that is active then
  or of the source, the poll answers with that error and ends the output. -/
  errsAtOnce : ∀ (this next here : SwitchMap (Metered S) F P) cx
    (answer : Answer U E), this.finished = false →
    pollNext cx this = some (answer, next) →
    Rounds (SwitchMap.turn (T := T) (U := U) (E := E) cx) this here →
    ∀ err, (∃ projected after, here.projected = some projected ∧
        pollNext cx projected =
          some (.ready (some (.error err : Event U E)), after)) ∨
      pollNext cx here.source =
        some (.ready (some (.error err : Event T E)), next.source) →
    answer = .ready (some (.error err)) ∧ next.finished = true

/-- `switch_map` emits from the latest projection only. -/
theorem switch_map_emits_the_latest (enough : Context → Prop) (course : Course T E)
    (courses : Nat → Course U E) (source : S) (f : F) :
    LatestOnly (P := P) enough course courses source f where
  runs := by
    intro cast contexts more good
    obtain ⟨goodBefore, goodLater⟩ := List.forall_mem_append.mp good
    have start : SwitchedTo enough course courses source f [] []
        (SwitchMap.new source f : SwitchMap S F P) := Or.inl ⟨[], [], switching_new, rfl⟩
    obtain ⟨answers, this, returned, pieces, there, -⟩ :=
      switch_run cast start contexts goodBefore
    refine ⟨answers, this, returned, pieces, there, there.pieces cast, ?_⟩
    exact switch_run cast there more goodLater
  ends := switch_ends
  errsAtOnce := by
    intro this next here cx answer running polled rounds err errs
    obtain ⟨fewer, returned⟩ := loop_of_rounds rounds polled
    rcases errs with ⟨projected, after, active, read⟩ | read
    · have leaves : SwitchMap.turn cx here = some (.leave (.ready (some (.error err)))
          { here with projected := some after, finished := true }) := by
        simp only [SwitchMap.turn, rounds_running running rounds, active, read,
          Bool.false_eq_true, if_false]
      obtain ⟨rfl, rfl⟩ := loop_of_leave leaves returned
      exact ⟨rfl, rfl⟩
    · -- the source was read in this turn: it has been polled once more
      have counted := Metered.polls_succ read
      rcases loop_cases returned with turn | ⟨_, _, turn, -, -⟩
      · obtain ⟨_, _, same, said⟩ := turn_source_error read turn
        cases same
        rcases said with said | unread
        · exact said
        · rw [unread] at counted
          exact absurd counted.symm (Nat.succ_ne_self _)
      · obtain ⟨_, _, same, -⟩ := turn_source_error read turn
        cases same

end Switching

/-- Two values with one projection each. -/
theorem switch_map_of_two_values :
    let source : Source (Event Nat Unit) :=
      { items := [.next 1, .next 2, .complete], schedule := Stream'.const true }
    let f (value : Nat) : Source (Event Nat Unit) :=
      { items := [.next (10 * value), .complete], schedule := Stream'.const true }
    let courses (index : Nat) : Course Nat Unit := ⟨[10 * (index + 1)], .complete⟩
    ∃ polls, ∀ contexts : List Context,
      (∀ cx ∈ contexts, WithTurns 4 (fun _ => True) cx) → polls ≤ contexts.length →
      ∃ answers final, pollAll pollNext contexts
          (SwitchMap.new source f : SwitchMap _ _ (Source (Event Nat Unit))) =
        some (answers, final) ∧
        ∃ pieces, Switched (⟨[1, 2], .complete⟩ : Course Nat Unit) courses pieces answers := by
  intro source f courses
  have latest := switch_map_emits_the_latest (P := Source (Event Nat Unit)) (fun _ => True)
    (⟨[1, 2], .complete⟩ : Course Nat Unit) courses source f
  apply latest.ends (Source.drains source Source.fair_const_true)
  intro index projection listed
  match index with
  | 0 | 1 =>
      cases listed
      exact Source.drains _ Source.fair_const_true

end IceRpc.Rx
