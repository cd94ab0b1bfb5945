import Conformance.Check
import Mathlib.Data.List.Lex
import Mathlib.Data.String.Basic

/-! # The order in which documents are found

However the paths of a request overlap, each document is found once, and the documents are in
ascending order of their parts.
-/

namespace Conformance.Check

open Files (System Path)

def Ascends (paths : List Path) : Prop :=
  paths.Pairwise fun a b => a.parts ≤ b.parts ∧ a ≠ b

theorem mem_insertPath {path other : Path} {paths : List Path} :
    other ∈ insertPath path paths ↔ other = path ∨ other ∈ paths := by
  induction paths with
  | nil => simp [insertPath]
  | cons first rest ih =>
      unfold insertPath
      split
      · rename_i heq
        subst heq
        simp
      split
      · simp
      · simp only [List.mem_cons, ih]
        tauto

theorem mem_ascending {path : Path} {paths : List Path} :
    path ∈ ascending paths ↔ path ∈ paths := by
  induction paths with
  | nil => rfl
  | cons first rest ih =>
      rw [List.mem_cons, ← ih]
      exact mem_insertPath

/-- An inserted path stands behind all that are not greater and before all that are. -/
theorem Ascends.insertPath {path : Path} {paths : List Path} (h : Ascends paths) :
    Ascends (insertPath path paths) := by
  induction paths with
  | nil => exact List.pairwise_singleton _ _
  | cons first rest ih =>
      obtain ⟨hfirst, hrest⟩ := List.pairwise_cons.1 h
      unfold Check.insertPath
      split
      · exact h
      rename_i hne
      split
      · rename_i hless
        refine List.pairwise_cons.2 ⟨fun other hother => ?_, h⟩
        rcases List.mem_cons.1 hother with rfl | hother
        · exact ⟨le_of_lt hless, hne⟩
        · have hbetween := lt_of_lt_of_le hless (hfirst other hother).1
          refine ⟨le_of_lt hbetween, ?_⟩
          rintro rfl
          exact lt_irrefl _ hbetween
      · rename_i hless
        refine List.pairwise_cons.2 ⟨fun other hother => ?_, ih hrest⟩
        rcases mem_insertPath.1 hother with rfl | hother
        · exact ⟨le_of_not_gt hless, Ne.symm hne⟩
        · exact hfirst other hother

theorem ascends_ascending (paths : List Path) : Ascends (ascending paths) := by
  induction paths with
  | nil => exact List.Pairwise.nil
  | cons first rest ih => exact ih.insertPath

/-- What is found is ascending. -/
theorem ascends_of_findDocuments {files : System} {paths documents : List Path}
    (h : (findDocuments files paths).result = .ok documents) : Ascends documents := by
  unfold findDocuments at h
  simp only [bind, Outcome.bind] at h
  split at h
  · cases h
    exact ascends_ascending _
  · cases h

end Conformance.Check
