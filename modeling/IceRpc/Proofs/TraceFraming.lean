/-
Module: IceRpc.Proofs.TraceFraming
Purpose: The trace stream as a sequence of lines: what the writer thread has written, line by
  line, against what was enqueued, for every interleaving of the emitter and the writer.
Trusted boundary: none
Main exports: TraceRecord.noNewline_render_iff, traceRecord_oneLine_iff, SinkInv,
  sinkInv_run, FramedByLines, framed_iff_rendered
-/
import IceRpc.Lib.Run
import IceRpc.Lib.Split
import IceRpc.Monitor.Traces

namespace IceRpc

open Lib

/-! ### Renderings and line breaks -/

@[simp] theorem noNewline_append {first second : String} :
    NoNewline (first ++ second) ↔ NoNewline first ∧ NoNewline second := by
  simp only [NoNewline, String.toList_append, List.mem_append, not_or]

/-- The decimal form of a number stays on its line. -/
@[simp] theorem noNewline_toString (value : Nat) : NoNewline (toString value) := by
  intro member
  rw [Nat.toString_eq_repr, Nat.toList_repr] at member
  have digit := Nat.isDigit_of_mem_toDigits (by decide) (by decide) member
  exact absurd digit (by decide)

namespace TraceRecord

/-- A formatted text stays on its line exactly if all its pieces and arguments do. -/
theorem noNewline_written_iff (pieces : List (String × String)) :
    NoNewline (written pieces) ↔
      ∀ piece ∈ pieces, NoNewline piece.1 ∧ NoNewline piece.2 := by
  induction pieces with
  | nil => exact iff_of_true (by decide) nofun
  | cons piece pieces ih =>
      simp only [written, noNewline_append, ih, List.forall_mem_cons]

/-- The pieces of a line that are not texts of the record have no line break. -/
theorem noNewline_humanPieces_iff (record : TraceRecord) :
    (∀ piece ∈ record.humanPieces, NoNewline piece.1 ∧ NoNewline piece.2) ↔
      record.OneLine := by
  have metadata : NoNewline "[msg] cid=" ∧ NoNewline " channel=" ∧ NoNewline " service=" ∧
      NoNewline " method=" ∧ NoNewline " kind=" ∧ NoNewline " latency_us=" ∧
      NoNewline " request_bytes=" ∧ NoNewline " response_bytes=" ∧ NoNewline " emitter_pid=" := by
    decide
  have traced : NoNewline " trace=" ∧ NoNewline " parent_span=" := by decide
  have detail : NoNewline " request=" ∧ NoNewline " response=" := by decide
  unfold humanPieces OneLine texts
  cases record.traceId <;> cases record.requestText <;> cases record.responseText <;>
    simp only [List.forall_mem_append, List.forall_mem_cons, noNewline_toString] <;>
    simp [metadata, traced, detail, and_assoc]

/-- A human-readable line stays on one line exactly if every text in it does. -/
theorem noNewline_toHuman_iff (record : TraceRecord) :
    NoNewline record.toHuman ↔ record.OneLine := by
  rw [toHuman, noNewline_written_iff, noNewline_humanPieces_iff]

/-- What a record is rendered to stays on one line exactly if the format escapes line breaks
or there are none. -/
theorem noNewline_render_iff {toText : Json → String}
    (escapes : ∀ value, NoNewline (toText value)) (format : TraceFormat)
    (record : TraceRecord) :
    NoNewline (record.render toText format) ↔ format = .json ∨ record.OneLine := by
  cases format with
  | json => exact iff_of_true (escapes _) (Or.inl rfl)
  | human =>
      have other : TraceFormat.human ≠ .json := nofun
      rw [or_iff_right other]
      exact record.noNewline_toHuman_iff

end TraceRecord

/-! ### The texts of an emitted record -/

/-- Hexadecimal digits stay on their line. -/
theorem newline_not_mem_hex (bytes : List UInt8) :
    '\n' ∉ bytes.flatMap fun byte =>
      [hexChar (byte.toNat / 16), hexChar (byte.toNat % 16)] := by
  have digits : ∀ digit < 16, '\n' ≠ hexChar digit := by decide
  intro member
  obtain ⟨byte, -, inPair⟩ := List.mem_flatMap.mp member
  have high := digits (byte.toNat / 16) (by have := byte.toNat_lt; omega)
  have low := digits (byte.toNat % 16) (Nat.mod_lt _ (by decide))
  simp [high, low] at inPair

theorem noNewline_fmtCorrelationId (cid : CorrelationId) : NoNewline (fmtCorrelationId cid) := by
  have digits := newline_not_mem_hex cid.toList
  have fromDigits {part : List Char} (sub : part.Sublist (cid.toList.flatMap fun byte =>
      [hexChar (byte.toNat / 16), hexChar (byte.toNat % 16)])) : '\n' ∉ part :=
    fun member => digits (sub.subset member)
  have dash : '\n' ∉ ['-'] := by decide
  unfold NoNewline fmtCorrelationId
  simp only [String.toList_ofList, List.mem_append, not_or]
  refine ⟨⟨⟨⟨⟨⟨⟨⟨?_, dash⟩, ?_⟩, dash⟩, ?_⟩, dash⟩, ?_⟩, dash⟩, ?_⟩
  · exact fromDigits (List.take_sublist _ _)
  · exact fromDigits ((List.take_sublist _ _).trans (List.drop_sublist _ _))
  · exact fromDigits ((List.take_sublist _ _).trans (List.drop_sublist _ _))
  · exact fromDigits ((List.take_sublist _ _).trans (List.drop_sublist _ _))
  · exact fromDigits (List.drop_sublist _ _)

theorem noNewline_traceIdHex (trace : TraceContext) : NoNewline trace.traceIdHex := by
  rw [NoNewline, TraceContext.traceIdHex, String.toList_ofList]
  exact newline_not_mem_hex _

/-- Only the names and the payload texts of an emitted record can break its line: its ids and
its kind never do. -/
theorem traceRecord_oneLine_iff (decoders : TraceDecoders) (channel : String)
    (header : RpcHeader) (emitterPid : UInt32) (sample : DrainedSample) (call : PendingCall)
    (requestText : Option String) (kind : EventKind) :
    (traceRecord decoders channel header emitterPid sample call requestText kind).OneLine ↔
      NoNewline channel ∧ NoNewline call.method ∧ (∀ text ∈ requestText.toList, NoNewline text) ∧
        ∀ text ∈ (responseText decoders header call sample).toList, NoNewline text := by
  have label : NoNewline kind.label := by cases kind <;> decide
  have callId := noNewline_fmtCorrelationId header.correlationId
  have traceId : ∀ text ∈ (if header.trace.isPresent then some header.trace.traceIdHex
      else none).toList, NoNewline text := by
    intro text member
    split at member
    · rw [Option.toList_some, List.mem_singleton] at member
      rw [member]
      exact noNewline_traceIdHex header.trace
    · cases member
  simp only [TraceRecord.OneLine, TraceRecord.texts, traceRecord, List.forall_mem_append,
    List.forall_mem_cons, callId, label, List.not_mem_nil, false_imp_iff, implies_true,
    and_true, true_and, and_assoc]
  rw [and_iff_right traceId]

/-! ### What was enqueued and what was written -/

/-- The records a step puts on the queue. -/
def TraceSink.accepted (sink : TraceSink) : TraceAction → List TraceRecord
  | .emit record => if sink.accepts then [record] else []
  | _ => []

/-- The record a step emits. -/
def TraceAction.emitted? : TraceAction → Option TraceRecord
  | .emit record => some record
  | _ => none

theorem TraceSink.accepted_eq_nil {sink : TraceSink} {action : TraceAction}
    (silent : action.emitted? = none) : sink.accepted action = [] := by
  cases action with
  | emit record => cases silent
  | recv | writeLine | writeNewline | close => rfl

/-- The line the writer has received and not finished. -/
def WriterPhase.inHand : WriterPhase → List String
  | .holding line => [line]
  | .wrote line => [line]
  | _ => []

/-- What is written of the line that is not finished. -/
def WriterPhase.unfinished : WriterPhase → List Char
  | .wrote line => line.toList
  | _ => []

/-- What holds of a sink after the actions `past`, of which those of `enqueued` were put on
the queue: every enqueued record is written, in the writer's hand or in the queue, in this
order, and every other one is counted. -/
structure SinkInv (toText : Json → String) (format : TraceFormat) (past : List TraceAction)
    (enqueued : List TraceRecord) (sink : TraceSink) : Prop where
  format_eq : sink.format = format
  rendezvous : sink.capacity = 0 → sink.queue = []
  over_ : sink.writer = .ended → sink.sender = false ∧ sink.queue = []
  lines : ∃ finished : List String,
    enqueued.map (TraceRecord.render toText format) =
        finished ++ (sink.writer.inHand ++ sink.queue) ∧
      sink.output.toList =
        terminated '\n' (finished.map String.toList) ++ sink.writer.unfinished
  counted : ∃ missed : Nat,
    (past.filterMap TraceAction.emitted?).length = enqueued.length + missed ∧
      sink.dropped = UInt64.ofNat missed

variable {toText : Json → String} {format : TraceFormat}

theorem sinkInv_spawn (capacity : Nat) :
    SinkInv toText format [] [] (TraceSink.spawn capacity format) where
  format_eq := rfl
  rendezvous _ := rfl
  over_ := nofun
  lines := ⟨[], rfl, rfl⟩
  counted := ⟨0, rfl, rfl⟩

section
variable {past : List TraceAction} {enqueued : List TraceRecord} {sink : TraceSink}

variable (inv : SinkInv toText format past enqueued sink)
include inv

/-- A step that neither emits nor drops leaves the count as it is. -/
theorem SinkInv.counted_snoc {action : TraceAction} (silent : action.emitted? = none) :
    ∃ missed : Nat,
      ((past ++ [action]).filterMap TraceAction.emitted?).length =
          enqueued.length + missed ∧
        sink.dropped = UInt64.ofNat missed := by
  obtain ⟨missed, count, dropped⟩ := inv.counted
  refine ⟨missed, ?_, dropped⟩
  rw [List.filterMap_append, List.filterMap_cons_none silent, List.filterMap_nil,
    List.append_nil, count]

theorem sinkInv_emit (record : TraceRecord) :
    SinkInv toText format (past ++ [.emit record]) (enqueued ++ sink.accepted (.emit record))
      (sink.emit toText record) := by
  obtain ⟨missed, count, dropped⟩ := inv.counted
  obtain ⟨finished, lines, output⟩ := inv.lines
  have emitted : ((past ++ [TraceAction.emit record]).filterMap TraceAction.emitted?).length =
      enqueued.length + missed + 1 := by
    rw [List.filterMap_append, List.length_append, count]
    rfl
  by_cases taken : sink.accepts
  · have sender : sink.sender = true := (Bool.and_eq_true_iff.mp taken).1
    have room := (Bool.and_eq_true_iff.mp taken).2
    have more : enqueued ++ sink.accepted (.emit record) = enqueued ++ [record] := by
      rw [TraceSink.accepted, if_pos taken]
    have counted : ∃ missed : Nat,
        ((past ++ [TraceAction.emit record]).filterMap TraceAction.emitted?).length =
            (enqueued ++ [record]).length + missed ∧
          sink.dropped = UInt64.ofNat missed := by
      refine ⟨missed, ?_, dropped⟩
      rw [emitted, List.length_append, List.length_singleton]
      omega
    rw [more, TraceSink.emit, if_pos taken, TraceSink.send]
    by_cases direct : sink.capacity = 0
    · -- The line goes to the waiting writer; there is no queue.
      rw [if_pos direct] at room ⊢
      have waiting : sink.writer = .waiting := of_decide_eq_true room
      have noQueue := inv.rendezvous direct
      rw [waiting, noQueue] at lines
      rw [waiting] at output
      exact
        { format_eq := inv.format_eq
          rendezvous := fun _ => noQueue
          over_ := nofun
          lines := ⟨finished, by
            simpa [WriterPhase.inHand, noQueue, inv.format_eq] using lines, output⟩
          counted := counted }
    · rw [if_neg direct]
      exact
        { format_eq := inv.format_eq
          rendezvous := fun none_ => absurd none_ direct
          over_ := fun ended => absurd (inv.over_ ended).1 (by simp [sender])
          lines := ⟨finished, by simp [lines, inv.format_eq], output⟩
          counted := counted }
  · have more : enqueued ++ sink.accepted (.emit record) = enqueued := by
      rw [TraceSink.accepted, if_neg taken, List.append_nil]
    rw [more, TraceSink.emit, if_neg taken]
    exact
      { format_eq := inv.format_eq
        rendezvous := inv.rendezvous
        over_ := inv.over_
        lines := ⟨finished, lines, output⟩
        counted := ⟨missed + 1, by omega, by rw [dropped, UInt64.ofNat_add]; rfl⟩ }

/-- `recv` takes the next line in hand, or finds none. -/
theorem sinkInv_recv (empty : sink.writer.inHand = [] ∧ sink.writer.unfinished = []) :
    SinkInv toText format (past ++ [.recv]) enqueued sink.recv := by
  obtain ⟨finished, lines, output⟩ := inv.lines
  rw [empty.1, List.nil_append] at lines
  rw [empty.2] at output
  cases queue : sink.queue with
  | cons line rest =>
      rw [queue] at lines
      rw [TraceSink.recv, queue]
      exact
        { format_eq := inv.format_eq
          rendezvous := fun none_ => absurd (inv.rendezvous none_) (by simp [queue])
          over_ := nofun
          lines := ⟨finished, lines, output⟩
          counted := inv.counted_snoc rfl }
  | nil =>
      rw [queue] at lines
      rw [TraceSink.recv, queue]
      cases sender : sink.sender with
      | true =>
          exact
            { format_eq := inv.format_eq
              rendezvous := fun _ => rfl
              over_ := nofun
              lines := ⟨finished, lines, output⟩
              counted := inv.counted_snoc rfl }
      | false =>
          exact
            { format_eq := inv.format_eq
              rendezvous := fun _ => rfl
              over_ := fun _ => ⟨rfl, rfl⟩
              lines := ⟨finished, lines, output⟩
              counted := inv.counted_snoc rfl }

theorem sinkInv_writeLine {line : String} (holding : sink.writer = .holding line) :
    SinkInv toText format (past ++ [.writeLine]) enqueued
      { sink with writer := .wrote line, output := sink.output ++ line } := by
  obtain ⟨finished, lines, output⟩ := inv.lines
  rw [holding] at lines output
  have longer : (sink.output ++ line).toList =
      terminated '\n' (finished.map String.toList) ++ line.toList := by
    rw [String.toList_append, output]
    exact congrArg (· ++ line.toList) (List.append_nil _)
  exact
    { format_eq := inv.format_eq
      rendezvous := inv.rendezvous
      over_ := nofun
      lines := ⟨finished, lines, longer⟩
      counted := inv.counted_snoc rfl }

/-- The newline finishes the line in hand. -/
theorem sinkInv_writeNewline {line : String} (wrote : sink.writer = .wrote line) :
    SinkInv toText format (past ++ [.writeNewline]) enqueued
      { sink with writer := .idle, output := sink.output ++ "\n" } := by
  obtain ⟨finished, lines, output⟩ := inv.lines
  rw [wrote] at lines output
  have longer : (sink.output ++ "\n").toList =
      terminated '\n' ((finished ++ [line]).map String.toList) := by
    rw [String.toList_append, output, List.map_append, terminated_append, List.append_assoc]
    simp [terminated, WriterPhase.unfinished]
  exact
    { format_eq := inv.format_eq
      rendezvous := inv.rendezvous
      over_ := by intro ended; cases ended
      lines := ⟨finished ++ [line], by simpa [WriterPhase.inHand] using lines, by
        simpa [WriterPhase.unfinished] using longer⟩
      counted := inv.counted_snoc rfl }

theorem sinkInv_close :
    SinkInv toText format (past ++ [.close]) enqueued { sink with sender := false } where
  format_eq := inv.format_eq
  rendezvous := inv.rendezvous
  over_ ended := ⟨rfl, (inv.over_ ended).2⟩
  lines := inv.lines
  counted := inv.counted_snoc rfl

theorem sinkInv_step (action : TraceAction) (next : TraceSink)
    (moved : sink.step toText action = some next) :
    SinkInv toText format (past ++ [action]) (enqueued ++ sink.accepted action) next := by
  cases action with
  | emit record =>
      cases moved
      exact sinkInv_emit inv record
  | recv =>
      rw [TraceSink.accepted_eq_nil rfl, List.append_nil]
      simp only [TraceSink.step] at moved
      split at moved
      · next idle =>
        cases moved
        exact sinkInv_recv inv (by rw [idle]; exact ⟨rfl, rfl⟩)
      · next waiting =>
        cases moved
        exact sinkInv_recv inv (by rw [waiting]; exact ⟨rfl, rfl⟩)
      · cases moved
  | writeLine =>
      rw [TraceSink.accepted_eq_nil rfl, List.append_nil]
      simp only [TraceSink.step] at moved
      split at moved
      · next line holding =>
        cases moved
        exact sinkInv_writeLine inv holding
      · cases moved
  | writeNewline =>
      rw [TraceSink.accepted_eq_nil rfl, List.append_nil]
      simp only [TraceSink.step] at moved
      split at moved
      · next line wrote =>
        cases moved
        exact sinkInv_writeNewline inv wrote
      · cases moved
  | close =>
      rw [TraceSink.accepted_eq_nil rfl, List.append_nil]
      simp only [TraceSink.step] at moved
      split at moved
      · cases moved
        exact sinkInv_close inv
      · cases moved

end

/-- The records put on the queue by a run of a new sink, in order. -/
def enqueuedBy (toText : Json → String) (format : TraceFormat) (capacity : Nat)
    (actions : List TraceAction) : List TraceRecord :=
  trail (TraceSink.step toText) TraceSink.accepted (TraceSink.spawn capacity format) actions

theorem sinkInv_run {capacity : Nat} {actions : List TraceAction} {sink : TraceSink}
    (performed : run (TraceSink.step toText) (TraceSink.spawn capacity format) actions =
      some sink) :
    SinkInv toText format actions (enqueuedBy toText format capacity actions) sink :=
  run_trail_invariant TraceSink.accepted (SinkInv toText format) (sinkInv_spawn capacity)
    (fun _ _ _ action next inv moved => sinkInv_step inv action next moved) performed

/-! ### The writer comes to its end -/

/-- What the writer still has to do once the sender is gone. -/
def TraceSink.remaining (sink : TraceSink) : Nat :=
  3 * sink.queue.length +
    match sink.writer with
    | .idle => 1
    | .waiting => 1
    | .holding _ => 3
    | .wrote _ => 2
    | .ended => 0

/-- A writer that has not ended can take its step, and has less to do after it. -/
theorem writer_advances (toText : Json → String) {sink : TraceSink} (closed : sink.sender = false)
    (going : sink.writer ≠ .ended) :
    ∃ action next, sink.step toText action = some next ∧ action.emitted? = none ∧
      next.sender = false ∧ next.remaining < sink.remaining := by
  have received (ready : sink.writer = .idle ∨ sink.writer = .waiting) :
      sink.recv.sender = false ∧ sink.recv.remaining < sink.remaining := by
    have work : sink.remaining = 3 * sink.queue.length + 1 := by
      rcases ready with idle | waiting
      · rw [TraceSink.remaining, idle]
      · rw [TraceSink.remaining, waiting]
    rw [work]
    cases queue : sink.queue with
    | nil =>
        simp [TraceSink.recv, queue, closed, TraceSink.remaining]
    | cons line rest =>
        simp only [TraceSink.recv, queue, TraceSink.remaining, List.length_cons]
        exact ⟨closed, by omega⟩
  cases writer : sink.writer with
  | idle =>
      exact ⟨.recv, sink.recv, by rw [TraceSink.step, writer], rfl, received (Or.inl writer)⟩
  | waiting =>
      exact ⟨.recv, sink.recv, by rw [TraceSink.step, writer], rfl, received (Or.inr writer)⟩
  | holding line =>
      refine ⟨.writeLine, { sink with writer := .wrote line, output := sink.output ++ line },
        by rw [TraceSink.step, writer], rfl, closed, ?_⟩
      simp only [TraceSink.remaining, writer]
      omega
  | wrote line =>
      refine ⟨.writeNewline, { sink with writer := .idle, output := sink.output ++ "\n" },
        by rw [TraceSink.step, writer], rfl, closed, ?_⟩
      simp only [TraceSink.remaining, writer]
      omega
  | ended => exact absurd writer going

/-- A closed sink's writer comes to its end, so the join of the drop returns. -/
theorem closed_sink_ends (sink : TraceSink) (closed : sink.sender = false) :
    ∃ actions final, run (TraceSink.step toText) sink actions = some final ∧
      (∀ action ∈ actions, action.emitted? = none) ∧ final.writer = .ended := by
  generalize work : sink.remaining = bound
  induction bound using Nat.strong_induction_on generalizing sink with
  | _ bound ih =>
      by_cases over_ : sink.writer = .ended
      · exact ⟨[], sink, rfl, nofun, over_⟩
      · obtain ⟨action, next, moved, silent, still, less⟩ :=
          writer_advances toText closed over_
        obtain ⟨actions, final, performed, others, ended⟩ :=
          ih next.remaining (work ▸ less) next still rfl
        refine ⟨action :: actions, final, ?_, ?_, ended⟩
        · rw [run_cons, moved]
          exact performed
        · exact List.forall_mem_cons.mpr ⟨silent, others⟩

/-! ### The lines of a closed sink -/

/-- What was written splits at the newlines into one line per enqueued record, and the lines
and the dropped counter account for every emitted record.  The counter is a `u64`: the
account is kept in its arithmetic, and is exact unless it can have wrapped. -/
structure FramedByLines (toText : Json → String) (format : TraceFormat) (capacity : Nat)
    (actions : List TraceAction) (sink : TraceSink) : Prop where
  lines : sink.output.toList.splitOn '\n' =
    (enqueuedBy toText format capacity actions).map
      (fun record => (record.render toText format).toList) ++ [[]]
  account : UInt64.ofNat (actions.filterMap TraceAction.emitted?).length =
    UInt64.ofNat ((sink.output.toList.splitOn '\n').length - 1) + sink.dropped
  exact_ : (actions.filterMap TraceAction.emitted?).length < 2 ^ 64 →
    (actions.filterMap TraceAction.emitted?).length =
      (sink.output.toList.splitOn '\n').length - 1 + sink.dropped.toNat

section
variable {capacity : Nat} {actions : List TraceAction} {sink : TraceSink}

/-- Once the writer has ended, all that was enqueued is written. -/
theorem output_of_ended
    (performed : run (TraceSink.step toText) (TraceSink.spawn capacity format) actions =
      some sink) (ended : sink.writer = .ended) :
    sink.output.toList =
      terminated '\n' ((enqueuedBy toText format capacity actions).map
        fun record => (record.render toText format).toList) := by
  have inv := sinkInv_run performed
  obtain ⟨finished, lines, output⟩ := inv.lines
  have nothingLeft : sink.writer.inHand ++ sink.queue = [] := by
    rw [ended, (inv.over_ ended).2]
    rfl
  rw [nothingLeft, List.append_nil] at lines
  rw [ended] at output
  rw [output, ← lines, List.map_map]
  exact List.append_nil _

/-- The account of a closed sink whose lines are the enqueued records. -/
theorem framed_of_lines
    (performed : run (TraceSink.step toText) (TraceSink.spawn capacity format) actions =
      some sink)
    (lines : sink.output.toList.splitOn '\n' =
      (enqueuedBy toText format capacity actions).map
        (fun record => (record.render toText format).toList) ++ [[]]) :
    FramedByLines toText format capacity actions sink := by
  obtain ⟨missed, count, dropped⟩ := (sinkInv_run performed).counted
  have number : (sink.output.toList.splitOn '\n').length - 1 =
      (enqueuedBy toText format capacity actions).length := by
    rw [lines, List.length_append, List.length_map, List.length_singleton,
      Nat.add_sub_cancel]
  refine ⟨lines, ?_, ?_⟩
  · rw [number, count, dropped, UInt64.ofNat_add]
  · intro few
    have small : missed < 2 ^ 64 := by omega
    rw [number, dropped, UInt64.toNat_ofNat_of_lt' small, count]

/-- The stream of a closed sink is framed by lines exactly if no enqueued rendering has a line
break. -/
theorem framed_iff_rendered
    (performed : run (TraceSink.step toText) (TraceSink.spawn capacity format) actions =
      some sink) (ended : sink.writer = .ended) :
    FramedByLines toText format capacity actions sink ↔
      ∀ record ∈ enqueuedBy toText format capacity actions,
        NoNewline (record.render toText format) := by
  have split : sink.output.toList.splitOn '\n' =
      (enqueuedBy toText format capacity actions).map
        (fun record => (record.render toText format).toList) ++ [[]] ↔
      ∀ record ∈ enqueuedBy toText format capacity actions,
        NoNewline (record.render toText format) := by
    rw [output_of_ended performed ended, splitOn_terminated_iff, List.forall_mem_map]
    rfl
  constructor
  · intro framed
    exact split.mp framed.lines
  · intro plain
    exact framed_of_lines performed (split.mpr plain)

/-- The stream of a closed sink is framed by lines exactly if no text with a line break was
put on the queue in the human-readable format. -/
theorem trace_lines_iff_no_newline (escapes : ∀ value, NoNewline (toText value))
    (performed : run (TraceSink.step toText) (TraceSink.spawn capacity format) actions =
      some sink) (ended : sink.writer = .ended) :
    FramedByLines toText format capacity actions sink ↔
      format = .json ∨
        StepsMeet (TraceSink.step toText)
          (fun sink action => ∀ record ∈ sink.accepted action, record.OneLine)
          (TraceSink.spawn capacity format) actions := by
  rw [framed_iff_rendered performed ended,
    ← forall_mem_trail_iff TraceSink.accepted TraceRecord.OneLine performed]
  simp only [TraceRecord.noNewline_render_iff escapes, forall_or_left, enqueuedBy]

end

/-- If every emitted record is free of line breaks, so is every enqueued one. -/
theorem stepsMeet_of_emitted {actions : List TraceAction} {sink : TraceSink}
    (oneLine : ∀ record ∈ actions.filterMap TraceAction.emitted?, record.OneLine) :
    StepsMeet (TraceSink.step toText)
      (fun sink action => ∀ record ∈ sink.accepted action, record.OneLine) sink actions := by
  induction actions generalizing sink with
  | nil => trivial
  | cons action actions ih =>
      rw [← List.singleton_append, List.filterMap_append, List.forall_mem_append] at oneLine
      constructor
      · intro record member
        cases action with
        | emit emitted =>
            rw [TraceSink.accepted] at member
            split at member
            · exact oneLine.1 record member
            · cases member
        | recv | writeLine | writeNewline | close => cases member
      · intro next _
        exact ih oneLine.2

/-- A reply in detail mode. -/
def replyOf (text : String) : TraceRecord :=
  { callId := "deadbeef-cafe-babe-0011-223344556677"
    traceId := none
    parentSpanId := 0
    channel := "DatabaseService"
    serviceId := 42
    method := "get_user_bio"
    eventKind := "complete"
    emitterPid := 1234
    requestBytes := 8
    responseBytes := 4
    latencyUs := 137
    requestText := none
    responseText := some text }

/-- One call of `emit`, the writer's steps for its line, the drop, the writer's end. -/
def emitAndClose (record : TraceRecord) : List TraceAction :=
  [.emit record, .recv, .writeLine, .writeNewline, .close, .recv]

theorem run_emitAndClose (toText : Json → String) (format : TraceFormat)
    (record : TraceRecord) :
    ∃ sink, run (TraceSink.step toText) (TraceSink.spawn 1 format) (emitAndClose record) =
        some sink ∧
      sink.writer = .ended ∧ sink.dropped = 0 ∧
      sink.output = "" ++ record.render toText format ++ "\n" :=
  ⟨_, rfl, rfl, rfl, rfl⟩

/-- The payload text of a reply ends its line. -/
theorem toHuman_replyOf_append (first second : String) :
    (replyOf (first ++ second)).toHuman = (replyOf first).toHuman ++ second := by
  simp [TraceRecord.toHuman, TraceRecord.humanPieces, replyOf, TraceRecord.written,
    String.append_assoc]

/-- A decoded text of two lines is two lines of the stream. -/
theorem multiline_reply_is_two_lines :
    ∃ sink, run (TraceSink.step fun _ => "") (TraceSink.spawn 1 .human)
        (emitAndClose (replyOf "a\nb")) = some sink ∧
      sink.writer = .ended ∧ sink.dropped = 0 ∧
      (sink.output.toList.splitOn '\n').length - 1 = 2 ∧
      ¬ FramedByLines (fun _ => "") .human 1 (emitAndClose (replyOf "a\nb")) sink := by
  obtain ⟨sink, performed, ended, dropped, output⟩ :=
    run_emitAndClose (fun _ => "") .human (replyOf "a\nb")
  have text : (replyOf "a\nb").toHuman = (replyOf "a").toHuman ++ "\nb" :=
    toHuman_replyOf_append "a" "\nb"
  have lines : sink.output.toList =
      terminated '\n' [(replyOf "a").toHuman.toList, ['b']] := by
    rw [output, TraceRecord.render, text]
    simp [terminated]
  have oneLine : '\n' ∉ (replyOf "a").toHuman.toList :=
    (TraceRecord.noNewline_toHuman_iff (replyOf "a")).mpr (by decide)
  have pieces : (sink.output.toList.splitOn '\n').length = 3 := by
    have second : '\n' ∉ ['b'] := by decide
    have split := splitOn_terminated_iff.mpr
      (List.forall_mem_cons.mpr ⟨oneLine, List.forall_mem_singleton.mpr second⟩)
    rw [lines, split]
    rfl
  refine ⟨sink, performed, ended, dropped, ?_, ?_⟩
  · rw [pieces]
  · -- The one enqueued record would be two pieces: its line and the empty rest.
    intro framed
    have one : (enqueuedBy (fun _ => "") .human 1 (emitAndClose (replyOf "a\nb"))).length = 1 :=
      rfl
    have two := congrArg List.length framed.lines
    rw [pieces, List.length_append, List.length_map, one] at two
    cases two

theorem framing_of_two_replies :
    let actions : List TraceAction :=
      [.emit (replyOf "30"), .emit (replyOf "31"), .recv, .writeLine, .writeNewline, .recv,
        .writeLine, .writeNewline, .close, .recv]
    ∃ sink, run (TraceSink.step fun _ => "") (TraceSink.spawn 2 .human) actions = some sink ∧
      enqueuedBy (fun _ => "") .human 2 actions = [replyOf "30", replyOf "31"] ∧
      FramedByLines (fun _ => "") .human 2 actions sink := by
  intro actions
  have oneLine : ∀ record ∈ actions.filterMap TraceAction.emitted?, record.OneLine := by
    decide
  obtain ⟨sink, performed, ended⟩ : ∃ sink,
      run (TraceSink.step fun _ => "") (TraceSink.spawn 2 .human) actions = some sink ∧
        sink.writer = .ended := ⟨_, rfl, rfl⟩
  refine ⟨sink, performed, rfl, ?_⟩
  apply (trace_lines_iff_no_newline (fun _ => by decide) performed ended).mpr
  exact Or.inr (stepsMeet_of_emitted oneLine)

end IceRpc
