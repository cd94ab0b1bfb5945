import Conformance.Proofs.Report.Verdicts
import Conformance.Text.Blank
import Mathlib.Algebra.Ring.Nat

/-! # Lines of annotations

Annotations are joined by line breaks and quote paths, problems and the reference as they are. So a
report has one line for each annotation and one more for each line break in a text that is quoted.
It has a line for each problem exactly if no quoted text breaks a line.
-/

namespace Conformance

namespace Text

/-- What ends a line for a reader: the character that joins the lines of reports, and beside it
only blanks other than the space. -/
structure LineBreaks where
  isBreak : Char → Bool
  newLine : isBreak '\n' = true
  blank : ∀ c, isBreak c = true → isBlank c = true ∧ c ≠ ' '

namespace LineBreaks

/-- Only the character that joins the lines of reports. -/
def newLines : LineBreaks where
  isBreak c := c == '\n'
  newLine := rfl
  blank c h := by
    rw [beq_iff_eq.1 h]
    decide

/-- The controls and separators that end a line for some reader. -/
def universal : LineBreaks where
  isBreak c := c.toNat ∈ [0x0a, 0x0b, 0x0c, 0x0d, 0x1c, 0x1d, 0x1e, 0x85, 0x2028, 0x2029]
  newLine := by decide
  blank c h := by
    refine ⟨?_, ?_⟩
    · simp only [List.mem_cons, List.not_mem_nil, or_false, decide_eq_true_eq] at h
      unfold isBlank
      rcases h with h | h | h | h | h | h | h | h | h | h <;> rw [h] <;> rfl
    · rintro rfl
      exact absurd h (by decide)

variable (breaks : LineBreaks)

def lines (text : String) : List (List Char) := text.toList.splitOnP breaks.isBreak

def count (text : String) : Nat := text.toList.countP breaks.isBreak

theorem count_append (first second : String) :
    breaks.count (first ++ second) = breaks.count first + breaks.count second := by
  simp [count]

theorem count_eq_zero_iff {text : String} :
    breaks.count text = 0 ↔ ∀ c ∈ text.toList, breaks.isBreak c = false := by
  simp [count, List.countP_eq_zero]

/-- A text of signs and spaces breaks no line. -/
theorem count_eq_zero_of_signs {text : String}
    (h : (text.toList.all fun c => !isBlank c || c == ' ') = true) : breaks.count text = 0 := by
  rw [count_eq_zero_iff]
  intro c hc
  by_contra hbreak
  obtain ⟨hblank, hspace⟩ := breaks.blank c (by simpa using hbreak)
  have hsign : (!isBlank c || c == ' ') = true := List.all_eq_true.1 h c hc
  rw [hblank] at hsign
  exact hspace (by simpa using hsign)

theorem sum_count_eq_zero_iff {texts : List String} :
    (texts.map breaks.count).sum = 0 ↔ ∀ text ∈ texts, breaks.count text = 0 := by
  simp [List.sum_eq_zero_iff_forall_eq_nat]

/-- There is one line more than there are line breaks. -/
theorem length_lines (text : String) : (breaks.lines text).length = breaks.count text + 1 := by
  unfold lines count
  induction text.toList with
  | nil => simp [List.splitOnP_nil]
  | cons c rest ih =>
      rw [List.splitOnP_cons_eq_if_modifyHead, List.countP_cons]
      split <;> simp [ih]

theorem lines_of_count_eq_zero {text : String} (h : breaks.count text = 0) :
    breaks.lines text = [text.toList] :=
  List.splitOnP_eq_singleton ((count_eq_zero_iff breaks).1 h)

/-- The lines of joined texts are those of each text in turn. -/
theorem lines_joinLines {texts : List String} (h : texts ≠ []) :
    breaks.lines (Report.joinLines texts) = texts.flatMap breaks.lines := by
  unfold Report.joinLines
  induction texts with
  | nil => exact absurd rfl h
  | cons text rest ih =>
      cases rest with
      | nil => simp
      | cons next rest =>
          have hrest := ih (List.cons_ne_nil next rest)
          have hjoin : (String.intercalate "\n" (text :: next :: rest)).toList =
              text.toList ++ '\n' :: (String.intercalate "\n" (next :: rest)).toList := by
            simp [String.intercalate_cons_cons]
          rw [List.flatMap_cons, ← hrest, lines, hjoin,
            List.splitOnP_append_cons _ _ breaks.newLine]
          rfl

end LineBreaks

end Text

open Text (LineBreaks)

namespace CheckResult

/-- The problems of a result: those recorded, and the verdict if it is false. -/
def problems (result : CheckResult) : Nat :=
  result.errors.length + if result.valid.isFalse then 1 else 0

/-- The texts that the annotations of a result quote: for each problem the file and the message,
for a false verdict the file and the reference. -/
def quotations (reference : String) (result : CheckResult) : List String :=
  result.errors.flatMap (fun message => [result.file.text, message.displayed]) ++
    if result.valid.isFalse then [result.file.text, reference] else []

def mark : String := "::error file="

theorem length_annotations (reference : String) (result : CheckResult) :
    (result.annotations reference).length = result.problems := by
  unfold annotations problems
  split <;> simp

theorem mark_prefix_of_mem_annotations {reference text : String} {result : CheckResult}
    (h : text ∈ result.annotations reference) : mark.toList <+: text.toList := by
  unfold annotations at h
  rcases List.mem_append.1 h with h | h
  · obtain ⟨message, -, rfl⟩ := List.mem_map.1 h
    simp [mark, toString, List.append_assoc]
  · split at h
    · rw [List.mem_singleton.1 h]
      simp [mark, toString, List.append_assoc]
    · cases h

/-- An annotation breaks as many lines as the file and the message that it quotes. -/
theorem count_annotated (breaks : LineBreaks) (file message : String) :
    breaks.count (s!"::error file={file}::" ++ message) =
      breaks.count file + breaks.count message := by
  have hmark : breaks.count "::error file=" = 0 := breaks.count_eq_zero_of_signs (by decide)
  have hcolons : breaks.count "::" = 0 := breaks.count_eq_zero_of_signs (by decide)
  simp [toString, breaks.count_append, hmark, hcolons]

theorem count_verdict (breaks : LineBreaks) (file reference : String) :
    breaks.count (s!"::error file={file}::Document does not match schema " ++ reference) =
      breaks.count file + breaks.count reference := by
  have hmark : breaks.count "::error file=" = 0 := breaks.count_eq_zero_of_signs (by decide)
  have hverdict : breaks.count "::Document does not match schema " = 0 :=
    breaks.count_eq_zero_of_signs (by decide)
  simp [toString, breaks.count_append, hmark, hverdict]

/-- All line breaks of the annotations are quoted. -/
theorem sum_count_annotations (breaks : LineBreaks) (reference : String) (result : CheckResult) :
    ((result.annotations reference).map breaks.count).sum =
      ((result.quotations reference).map breaks.count).sum := by
  have herrors : ((result.errors.map fun message =>
        s!"::error file={result.file.text}::" ++ message.displayed).map breaks.count).sum =
      ((result.errors.flatMap fun message =>
        [result.file.text, message.displayed]).map breaks.count).sum := by
    induction result.errors with
    | nil => rfl
    | cons message rest ih =>
        rw [List.map_cons, List.map_cons, List.sum_cons, List.flatMap_cons, List.map_append,
          List.sum_append, ih, count_annotated]
        simp
  unfold annotations quotations
  rw [List.map_append, List.sum_append, List.map_append, List.sum_append, herrors]
  split
  · simp [count_verdict]
  · rfl

end CheckResult

namespace Report

variable (breaks : LineBreaks) (reference : String) (results : List CheckResult)

def annotations : List String := results.flatMap (·.annotations reference)

def quotations : List String := results.flatMap (·.quotations reference)

def problems : Nat := (results.map (·.problems)).sum

theorem length_annotations : (annotations reference results).length = problems results := by
  simp [annotations, problems, List.length_flatMap, CheckResult.length_annotations]

theorem sum_count_annotations :
    ((annotations reference results).map breaks.count).sum =
      ((quotations reference results).map breaks.count).sum := by
  unfold annotations quotations
  induction results with
  | nil => rfl
  | cons result rest ih =>
      simp only [List.flatMap_cons, List.map_append, List.sum_append, ih,
        CheckResult.sum_count_annotations]

/-- Each annotation is a line, and each line break that it quotes begins another. -/
theorem sum_length_lines (texts : List String) :
    (texts.flatMap breaks.lines).length = texts.length + (texts.map breaks.count).sum := by
  induction texts with
  | nil => rfl
  | cons text rest ih =>
      rw [List.flatMap_cons, List.length_append, breaks.length_lines, ih, List.map_cons,
        List.sum_cons, List.length_cons]
      omega

theorem joinLines_annotations_eq_empty_iff :
    joinLines (annotations reference results) = "" ↔ problems results = 0 := by
  rw [← length_annotations reference, List.length_eq_zero_iff]
  apply joinLines_eq_empty_iff
  intro told htold
  obtain ⟨result, -, hmem⟩ := List.mem_flatMap.1 htold
  exact CheckResult.ne_empty_of_mem_annotations hmem

/-- Where no quoted text breaks a line, every line begins an annotation. -/
theorem mark_prefix_of_mem_lines
    (h : ∀ quoted ∈ quotations reference results, breaks.count quoted = 0) {line : List Char}
    (hline : line ∈ (annotations reference results).flatMap breaks.lines) :
    CheckResult.mark.toList <+: line := by
  obtain ⟨told, htold, hline⟩ := List.mem_flatMap.1 hline
  have hsum : ((annotations reference results).map breaks.count).sum = 0 := by
    rw [sum_count_annotations]
    exact breaks.sum_count_eq_zero_iff.2 h
  have hunbroken := breaks.sum_count_eq_zero_iff.1 hsum told htold
  rw [breaks.lines_of_count_eq_zero hunbroken, List.mem_singleton] at hline
  obtain ⟨result, -, hmem⟩ := List.mem_flatMap.1 htold
  rw [hline]
  exact CheckResult.mark_prefix_of_mem_annotations hmem

/-- A report by annotations is empty exactly without a problem. Otherwise its lines are those of
the annotations in turn: one for each problem, and one more for each line break in a text that is
quoted. So there is one line for each problem, each of them the beginning of an annotation, exactly
if no quoted text breaks a line. -/
theorem render_annotations_lines :
    ∃ text, render .annotations reference results = .ok text ∧
      (text = "" ↔ problems results = 0) ∧
      (text ≠ "" →
        breaks.lines text = (annotations reference results).flatMap breaks.lines ∧
        (breaks.lines text).length =
          problems results + ((quotations reference results).map breaks.count).sum ∧
        ((breaks.lines text).length = problems results ∧
            (∀ line ∈ breaks.lines text, CheckResult.mark.toList <+: line) ↔
          ∀ quoted ∈ quotations reference results, breaks.count quoted = 0)) := by
  refine ⟨joinLines (annotations reference results), rfl,
    joinLines_annotations_eq_empty_iff reference results, fun hshown => ?_⟩
  have hne : annotations reference results ≠ [] := by
    rintro hnil
    rw [hnil] at hshown
    exact hshown rfl
  have hlines := breaks.lines_joinLines hne
  have hlength : (breaks.lines (joinLines (annotations reference results))).length =
      problems results + ((quotations reference results).map breaks.count).sum := by
    rw [hlines, sum_length_lines, length_annotations, sum_count_annotations]
  refine ⟨hlines, hlength, ?_⟩
  constructor
  · rintro ⟨hcount, -⟩
    have hsum : ((quotations reference results).map breaks.count).sum = 0 := by omega
    exact breaks.sum_count_eq_zero_iff.1 hsum
  · intro hquoted
    refine ⟨?_, fun line hline => ?_⟩
    · rw [hlength, breaks.sum_count_eq_zero_iff.2 hquoted, Nat.add_zero]
    · rw [hlines] at hline
      exact mark_prefix_of_mem_lines breaks reference results hquoted hline

/-- A problem told in two lines, at a path with a line separator. -/
def spreadResults : List CheckResult :=
  [⟨.ofText "a\u2028b.yaml", .null, [.str "while scanning\nfound a tab"]⟩]

theorem render_annotations_lines_spread :
    ∃ text, render .annotations "m:S" spreadResults = .ok text ∧ problems spreadResults = 1 ∧
      (LineBreaks.newLines.lines text).length = 2 ∧
      (LineBreaks.universal.lines text).length = 3 ∧
      ¬ ∀ line ∈ LineBreaks.newLines.lines text, CheckResult.mark.toList <+: line := by
  have hproblems : problems spreadResults = 1 := rfl
  obtain ⟨text, hrender, hempty, hnew⟩ :=
    render_annotations_lines .newLines "m:S" spreadResults
  obtain ⟨text', hrender', -, hall⟩ := render_annotations_lines .universal "m:S" spreadResults
  cases hrender.symm.trans hrender'
  have hshown : text ≠ "" := by
    rw [Ne, hempty, hproblems]
    decide
  obtain ⟨hlines, hnewLength, -⟩ := hnew hshown
  obtain ⟨-, hallLength, -⟩ := hall hshown
  refine ⟨text, hrender, hproblems, hnewLength.trans (by decide), hallLength.trans (by decide), ?_⟩
  rw [hlines]
  decide

end Report

end Conformance
