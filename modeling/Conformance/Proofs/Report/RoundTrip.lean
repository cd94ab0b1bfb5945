import Conformance.Loader
import Conformance.Proofs.Json.RoundTrip
import Conformance.Report
import Mathlib.Algebra.Group.Nat.Defs

/-! # Reports for machines are read back

A report in JSON is a document like any other: reading it gives the record of the results with
their counts, whatever characters the names of files, the problems and the reference have.
-/

namespace Conformance

open Json (Portable)

namespace CheckResult

/-- A verdict that is true, false or missing, and problems that are texts. -/
structure Reportable (result : CheckResult) : Prop where
  verdict : result.valid = .bool true ∨ result.valid = .bool false ∨ result.valid = .null
  texts : ∀ message ∈ result.errors, ∃ s, message = .str s

theorem portable_errorValue (limit : Nat) (s : String) :
    Portable limit (errorValue (.str s)) := by
  refine @Portable.dict _ _ ["message"] rfl (by decide) fun e he => ?_
  rw [List.mem_singleton.1 he]
  exact .str s

theorem Reportable.portable {result : CheckResult} (h : result.Reportable) (limit : Nat) :
    Portable limit result.toValue := by
  have herrors : Portable limit (.list (result.errors.map errorValue)) := by
    refine .list fun item hitem => ?_
    obtain ⟨message, hmessage, rfl⟩ := List.mem_map.1 hitem
    obtain ⟨s, rfl⟩ := h.texts message hmessage
    exact portable_errorValue limit s
  have hvalid : Portable limit result.valid := by
    rcases h.verdict with hvalid | hvalid | hvalid <;> rw [hvalid]
    · exact .bool true
    · exact .bool false
    · exact .null
  refine @Portable.dict _ _ ["file", "valid", "errors"] rfl (by decide) ?_
  simpa using ⟨.str _, hvalid, herrors⟩

end CheckResult

namespace Report

theorem portable_count {n bound limit : Nat} (h : n ≤ bound) (hbound : bound < 10 ^ limit)
    (hlimit : 0 < limit) : Portable limit (.int n) :=
  .int ((Nat.length_toDigits_le_iff (by decide) hlimit).2 (Nat.lt_of_le_of_lt h hbound))

theorem portable_summary {results : List CheckResult} (h : ∀ result ∈ results, result.Reportable)
    {limit : Nat} (hlimit : 0 < limit) (hcount : results.length < 10 ^ limit)
    (reference : String) : Portable limit (summary reference results) := by
  have hresults : Portable limit (.list (results.map (·.toValue))) := by
    refine .list fun item hitem => ?_
    obtain ⟨result, hresult, rfl⟩ := List.mem_map.1 hitem
    exact (h result hresult).portable limit
  have hcounted : ∀ p : CheckResult → Bool, Portable limit (.int (results.countP p)) :=
    fun p => portable_count List.countP_le_length hcount hlimit
  refine @Portable.dict _ _ ["schema", "files", "passed", "failed", "results"] rfl (by decide) ?_
  simpa using ⟨.str _, portable_count (Nat.le_refl _) hcount hlimit, hcounted _, hcounted _,
    hresults⟩

/-- A report in JSON exists for any number of results, and it is read as the record that it shows
when the counts are not too long to be read. -/
theorem exists_render_json {results : List CheckResult}
    (h : ∀ result ∈ results, result.Reportable) (reference : String) :
    ∃ text, render .json reference results = .ok text ∧
      (results.length < 10 ^ digitLimit →
        ∀ source, Json.read source text.toList = .ok (summary reference results)) := by
  by_cases hcount : results.length < 10 ^ digitLimit
  · obtain ⟨text, hwrite, hread⟩ :=
      Json.exists_writeDocument (portable_summary h (by decide) hcount reference)
    exact ⟨text, hwrite, fun _ => hread (Nat.le_refl _)⟩
  · have hlong : results.length < 10 ^ (results.length + 1) :=
      Nat.lt_trans (Nat.lt_succ_self _) (Nat.lt_pow_self (by decide))
    obtain ⟨text, hwrite, -⟩ :=
      Json.exists_writeDocument (portable_summary h (Nat.succ_pos _) hlong reference)
    exact ⟨text, hwrite, fun h => absurd h hcount⟩

/-- Every report in JSON can be read: it gives the reference, the number of files, how many passed
and how many did not, and every result in order. The bound is that of the numbers that are read at
all; no list in a memory comes near it. -/
theorem readText_render_json (source reference : String) {results : List CheckResult}
    (h : ∀ result ∈ results, result.Reportable) :
    ∃ text, render .json reference results = .ok text ∧
      (results.length < 10 ^ digitLimit →
        Document.readText .standard source true text.toList =
          .ok (.dict [(.str "schema", .str reference), (.str "files", .int results.length),
            (.str "passed", .int (results.countP fun result => result.passed)),
            (.str "failed", .int (results.countP fun result => !result.passed)),
            (.str "results", .list (results.map fun result =>
              .dict [(.str "file", .str result.file.text), (.str "valid", result.valid),
                (.str "errors", .list (result.errors.map fun message =>
                  .dict [(.str "message", message)]))]))])) := by
  obtain ⟨text, hrender, hread⟩ := exists_render_json h reference
  exact ⟨text, hrender, fun hcount => hread hcount source⟩

/-- A file that could not be read, with characters that are written as escapes of every form, and
one that passed. -/
def escapedResults : List CheckResult :=
  [⟨.ofText "a\"b\\c.json", .null, [.str "\n\t\u0007\u007f \u00e9 😀"]⟩,
    ⟨.ofText "d.json", .bool true, []⟩]

theorem reportable_escapedResults : ∀ result ∈ escapedResults, result.Reportable := by
  intro result hresult
  rcases List.mem_cons.1 hresult with rfl | hresult
  · exact ⟨.inr (.inr rfl), by simp⟩
  · rw [List.mem_singleton.1 hresult]
    exact ⟨.inl rfl, by simp⟩

theorem readText_render_json_escaped :
    (∀ result ∈ escapedResults, result.Reportable) ∧
      escapedResults.length < 10 ^ digitLimit ∧
      ∃ text, render .json "m:S" escapedResults = .ok text ∧
        Document.readText .standard "r.json" true text.toList =
          .ok (.dict [(.str "schema", .str "m:S"), (.str "files", .int 2),
            (.str "passed", .int 1), (.str "failed", .int 1),
            (.str "results", .list [
              .dict [(.str "file", .str "a\"b\\c.json"), (.str "valid", .null),
                (.str "errors", .list [
                  .dict [(.str "message", .str "\n\t\u0007\u007f \u00e9 😀")]])],
              .dict [(.str "file", .str "d.json"), (.str "valid", .bool true),
                (.str "errors", .list [])]])]) := by
  have hcount : escapedResults.length < 10 ^ digitLimit :=
    Nat.lt_of_le_of_lt (by decide) (Nat.lt_pow_self (by decide))
  obtain ⟨text, hrender, hread⟩ :=
    readText_render_json "r.json" "m:S" reportable_escapedResults
  exact ⟨reportable_escapedResults, hcount, text, hrender, hread hcount⟩

end Report

end Conformance
