import Conformance.Settings

/-! # Where records go

A root that is configured writes every record of its level once, to one of the streams. When the
records from debugging on are errors, standard output gets nothing.
-/

namespace Conformance.Logging

open Text (Slot)

theorem fillNext_plain {argument value : Value} {name : String}
    (h : Value.named .text argument name = .ok value) {text : String} (htold : value.told = .ok text)
    (row : List Value) :
    Value.fillNext .text argument (.plain name 's') row = .ok (text.toList, []) := by
  simp only [Value.fillNext, Slot.plain, h, Except.map, Value.takeAmount, Value.takeNext, bind,
    Except.bind]
  simp [Value.fillSlot, Value.shownIn, htold, Text.Fitting.text, Text.Fitting.pad, Except.map, pure,
    Except.pure]

/-- The line for a record: its logger, the name of its level and its text. -/
def line (record : LogRecord) : String :=
  s!"{record.logger} - {levelName record.level} - {record.text}"

/-- The standard layout can always be filled. -/
theorem fill_standard (record : LogRecord) :
    Layout.standard.fill record = .ok (line record) := by
  have hname : Value.named .text (.dict (Layout.entries record)) "name" =
      .ok (.str record.logger) := rfl
  have hlevel : Value.named .text (.dict (Layout.entries record)) "levelname" =
      .ok (.str (levelName record.level)) := rfl
  have htext : Value.named .text (.dict (Layout.entries record)) "message" =
      .ok (.str record.text) := rfl
  have hfill : Value.fill .text Layout.standard (.dict (Layout.entries record)) =
      .ok (line record).toList := by
    simp [Value.fill, Layout.standard, Value.fillParts, fillNext_plain hname rfl,
      fillNext_plain hlevel rfl, fillNext_plain htext rfl, bind, Except.bind, pure, Except.pure,
      line]
    rfl
  rw [Layout.fill, hfill, Except.map, String.ofList_toList]

theorem line?_standard (stream : Stream) (record : LogRecord) :
    Layout.standard.line? stream record = some ⟨stream, line record ++ "\n"⟩ := by
  rw [Layout.line?, fill_standard]

theorem stream_of_line? {layout : Layout} {stream : Stream} {record : LogRecord} {shown : Line}
    (h : layout.line? stream record = some shown) : shown.stream = stream := by
  unfold Layout.line? at h
  split at h
  · cases h
    rfl
  · cases h

/-! ## Streams -/

def streamOf (errorLevel : Int) (record : LogRecord) : Stream :=
  if max errorLevel debug ≤ record.level then .error else .output

/-- A record of the root's level that is not below debugging is handled once, and others never. -/
theorem emit_configure (state : State) (level errorLevel : Int) (layout : Layout)
    (record : LogRecord) :
    (state.configure level errorLevel layout).emit record =
      if level ≤ record.level ∧ debug ≤ record.level then
        (layout.line? (streamOf errorLevel record) record).toList
      else [] := by
  unfold State.emit State.configure streamOf
  by_cases hlevel : level ≤ record.level
  · by_cases hdebug : debug ≤ record.level
    · by_cases herror : max errorLevel debug ≤ record.level
      · have hbelow : ¬ record.level < max errorLevel debug := Int.not_lt.2 herror
        simp [Handler.accepts, hlevel, hdebug, herror, hbelow, List.filterMap_cons, Option.toList]
        cases layout.line? .error record <;> rfl
      · have hbelow : record.level < max errorLevel debug := Int.not_le.1 herror
        simp [Handler.accepts, hlevel, hdebug, herror, hbelow, List.filterMap_cons, Option.toList]
        cases layout.line? .output record <;> rfl
    · have herror : ¬ max errorLevel debug ≤ record.level := by omega
      simp only [List.filter_cons, Handler.accepts, hlevel, hdebug, herror]
      rfl
  · simp only [hlevel]
    rfl

def reaches (level errorLevel : Int) (stream : Stream) (record : LogRecord) : Bool :=
  level ≤ record.level && debug ≤ record.level && streamOf errorLevel record == stream

theorem filter_toList_line? (layout : Layout) (stream other : Stream) (record : LogRecord) :
    (layout.line? other record).toList.filter (·.stream == stream) =
      if other = stream then (layout.line? stream record).toList else [] := by
  split
  · next heq =>
      subst heq
      refine List.filter_eq_self.mpr fun shown hshown => ?_
      simpa using stream_of_line? (Option.mem_toList.mp hshown)
  · next hne =>
      refine List.filter_eq_nil_iff.mpr fun shown hshown => ?_
      simpa [stream_of_line? (Option.mem_toList.mp hshown)] using hne

/-- The lines of one stream are those of the records that reach it, in their order. -/
theorem filter_flatMap_emit (state : State) (level errorLevel : Int) (layout : Layout)
    (stream : Stream) (records : List LogRecord) :
    (records.flatMap (state.configure level errorLevel layout).emit).filter (·.stream == stream) =
      (records.filter (reaches level errorLevel stream)).filterMap (layout.line? stream) := by
  induction records with
  | nil => rfl
  | cons record rest ih =>
      rw [List.flatMap_cons, List.filter_append, ih, emit_configure]
      by_cases hwritten : level ≤ record.level ∧ debug ≤ record.level
      · rw [if_pos hwritten, filter_toList_line?]
        by_cases hstream : streamOf errorLevel record = stream
        · have hreaches : reaches level errorLevel stream record = true := by
            simp [reaches, hwritten, hstream]
          rw [if_pos hstream, List.filter_cons_of_pos hreaches, List.filterMap_cons]
          cases layout.line? stream record <;> rfl
        · simp [reaches, hstream]
      · have hnot : reaches level errorLevel stream record = false := by
          simp only [reaches, ← Bool.decide_and, hwritten, decide_false, Bool.false_and]
        simp [hwritten, hnot]

/-- By the standard layout every record that reaches a stream is a line of it. -/
theorem written_flatMap_emit (state : State) (level errorLevel : Int) (stream : Stream)
    (records : List LogRecord) :
    written stream (records.flatMap (state.configure level errorLevel .standard).emit) =
      String.join ((records.filter (reaches level errorLevel stream)).map fun record =>
        line record ++ "\n") := by
  rw [written, filter_flatMap_emit, funext (line?_standard stream), List.filterMap_eq_map',
    List.map_map]
  rfl

/-! ## Errors from debugging on -/

section Debugging

variable {errorLevel : Int} (h : errorLevel ≤ debug) (state : State) (level : Int)
  (records : List LogRecord)

include h

/-- Standard output gets nothing. -/
theorem written_output_of_le_debug :
    written .output (records.flatMap (state.configure level errorLevel .standard).emit) = "" := by
  have hnone : ∀ record : LogRecord, reaches level errorLevel .output record = false := by
    intro record
    rw [reaches, streamOf, Int.max_eq_right h]
    by_cases hdebug : debug ≤ record.level <;> simp [hdebug]
  rw [written_flatMap_emit, List.filter_eq_nil_iff.2 fun record _ => by simp [hnone record]]
  rfl

/-- Standard error gets a line for each record from the root's level on. -/
theorem written_error_of_le_debug (hrecords : ∀ record ∈ records, debug ≤ record.level) :
    written .error (records.flatMap (state.configure level errorLevel .standard).emit) =
      String.join ((records.filter fun record => level ≤ record.level).map fun record =>
        line record ++ "\n") := by
  rw [written_flatMap_emit]
  congr 2
  refine List.filter_congr fun record hrecord => ?_
  simp [reaches, streamOf, Int.max_eq_right h, hrecords record hrecord]

end Debugging

end Conformance.Logging
