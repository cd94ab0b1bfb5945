/-!
# Splitting at a mark
-/

namespace Conformance.Text

/-- The stretches between the marks in a text; one more than there are marks. -/
def splitOn (mark : Char) : List Char → List (List Char)
  | [] => [[]]
  | c :: rest =>
    if c = mark then [] :: splitOn mark rest
    else
      match splitOn mark rest with
      | [] => [[c]]
      | part :: parts => (c :: part) :: parts

theorem not_mem_of_mem_splitOn {mark : Char} {text part : List Char}
    (h : part ∈ splitOn mark text) : mark ∉ part := by
  induction text generalizing part with
  | nil => simp_all [splitOn]
  | cons c rest ih =>
    unfold splitOn at h
    split at h
    · rcases List.mem_cons.mp h with rfl | h
      · exact List.not_mem_nil
      · exact ih h
    · next hc =>
      split at h
      · rw [List.mem_singleton.mp h]
        exact fun g => hc (List.mem_singleton.mp g).symm
      · next first parts hs =>
        rw [hs] at ih
        rcases List.mem_cons.mp h with rfl | h
        · intro g
          rcases List.mem_cons.mp g with g | g
          · exact hc g.symm
          · exact ih (List.mem_cons_self ..) g
        · exact ih (List.mem_cons_of_mem _ h)

end Conformance.Text
