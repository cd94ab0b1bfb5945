import Conformance.Proofs.Check.Independence
import Conformance.Proofs.Report.RoundTrip

/-! # One verdict in every format

Each format tells from something else whether a result failed: the header from whether it passed,
the annotations from the problems and from a false verdict, the counts from the record. On results
that are decided all of them say the same.
-/

namespace Conformance

namespace CheckResult

/-- The lines for readers start with the header of a result that passed. -/
def HeadedOk (reference : String) (result : CheckResult) : Prop :=
  (result.humanLines reference).head? = some (result.file.text ++ ": OK")

/-- The lines for readers start with the header of a result that failed. -/
def HeadedFailed (reference : String) (result : CheckResult) : Prop :=
  (result.humanLines reference).head? = some (result.file.text ++ ": FAILED")

instance (reference : String) (result : CheckResult) : Decidable (result.HeadedFailed reference) :=
  inferInstanceAs (Decidable (_ = _))

theorem head?_humanLines (reference : String) (result : CheckResult) :
    (result.humanLines reference).head? =
      some (result.file.text ++ if result.passed then ": OK" else ": FAILED") := by
  unfold humanLines
  cases result.passed <;> rfl

theorem headedOk_iff {reference : String} {result : CheckResult} :
    result.HeadedOk reference ↔ result.passed = true := by
  rw [HeadedOk, head?_humanLines]
  cases result.passed <;> simp

theorem headedFailed_iff {reference : String} {result : CheckResult} :
    result.HeadedFailed reference ↔ result.passed = false := by
  rw [HeadedFailed, head?_humanLines]
  cases result.passed <;> simp

/-- A decided result has one annotation if it failed, and otherwise none. -/
theorem Decided.length_annotations {result : CheckResult} (h : result.Decided)
    (reference : String) :
    (result.annotations reference).length = if result.passed then 0 else 1 := by
  cases h with
  | judged file b => cases b <;> rfl
  | prevented file text => rfl

theorem Decided.reportable {result : CheckResult} (h : result.Decided) : result.Reportable := by
  cases h with
  | judged file b => cases b <;> exact ⟨by simp, by simp⟩
  | prevented file text => exact ⟨by simp, by simp⟩

theorem ne_empty_of_mem_annotations {reference line : String} {result : CheckResult}
    (h : line ∈ result.annotations reference) : line ≠ "" := by
  unfold annotations at h
  rcases List.mem_append.1 h with h | h
  · obtain ⟨message, -, rfl⟩ := List.mem_map.1 h
    simp [toString]
  · split at h
    · rw [List.mem_singleton.1 h]
      simp [toString]
    · cases h

end CheckResult

namespace Report

theorem joinLines_eq_empty_iff {lines : List String} (h : ∀ line ∈ lines, line ≠ "") :
    joinLines lines = "" ↔ lines = [] := by
  refine ⟨fun hempty => ?_, fun hnil => by rw [hnil]; rfl⟩
  cases lines with
  | nil => rfl
  | cons line rest =>
      refine absurd ?_ (h line List.mem_cons_self)
      cases rest with
      | nil => simpa [joinLines] using hempty
      | cons next rest => simp [joinLines, String.intercalate_cons_cons] at hempty

/-- How the three reports show a list of results: the results with the header of a failure, those
with an annotation and those that count as failed are the same. -/
structure Agrees (reference : String) (results : List CheckResult) : Prop where
  human : render .human reference results =
    .ok (joinLines (results.flatMap (·.humanLines reference)))
  annotations : render .annotations reference results =
    .ok (joinLines (results.flatMap (·.annotations reference)))
  headed : ∀ result ∈ results, result.HeadedOk reference ∧ ¬ result.HeadedFailed reference ∨
    result.HeadedFailed reference ∧ ¬ result.HeadedOk reference
  annotated : ∀ result ∈ results,
    (result.annotations reference).length = if result.HeadedFailed reference then 1 else 0
  counted : ∃ text passed failed, render .json reference results = .ok text ∧
    passed + failed = results.length ∧
    failed = results.countP (fun result => result.HeadedFailed reference) ∧
    (results.length < 10 ^ digitLimit → ∀ source, Json.read source text.toList =
      .ok (.dict [(.str "schema", .str reference), (.str "files", .int results.length),
        (.str "passed", .int passed), (.str "failed", .int failed),
        (.str "results", .list (results.map (·.toValue)))]))

theorem agrees_of_decided {results : List CheckResult} (h : ∀ result ∈ results, result.Decided)
    (reference : String) : Agrees reference results where
  human := rfl
  annotations := rfl
  headed result _ := by
    rw [CheckResult.headedOk_iff, CheckResult.headedFailed_iff]
    cases result.passed <;> simp
  annotated result hresult := by
    simp only [(h result hresult).length_annotations, CheckResult.headedFailed_iff]
    cases result.passed <;> rfl
  counted := by
    obtain ⟨text, hrender, hread⟩ :=
      exists_render_json (fun result hresult => (h result hresult).reportable) reference
    refine ⟨text, _, _, hrender, ?_, ?_, hread⟩
    · simpa using (List.length_eq_countP_add_countP CheckResult.passed (l := results)).symm
    · refine List.countP_congr fun result _ => ?_
      simp [CheckResult.headedFailed_iff]

/-- Nothing is annotated exactly if all results passed. -/
theorem render_annotations_eq_empty_iff {results : List CheckResult}
    (h : ∀ result ∈ results, result.Decided) (reference : String) :
    render .annotations reference results = .ok "" ↔
      ∀ result ∈ results, result.passed = true := by
  have hlines : ∀ line ∈ results.flatMap (·.annotations reference), line ≠ "" := by
    intro line hline
    obtain ⟨result, -, hmem⟩ := List.mem_flatMap.1 hline
    exact CheckResult.ne_empty_of_mem_annotations hmem
  rw [render, Except.ok.injEq, joinLines_eq_empty_iff hlines, List.flatMap_eq_nil_iff]
  refine forall₂_congr fun result hresult => ?_
  rw [← List.length_eq_zero_iff, (h result hresult).length_annotations]
  cases result.passed <;> simp

end Report

end Conformance
