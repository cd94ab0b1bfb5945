import Conformance.Json.Reader
import Conformance.Proofs.Ending

/-! # What stops the reading of JSON

Beside a problem that has a place in the text, only an integer with too many digits stops the
reader.
-/

namespace Conformance.Json

/-- An integer is only refused for more digits than the limit. -/
def Founded : Stop → Prop
  | .problem _ _ => True
  | .tooManyDigits count => digitLimit < count

abbrev Clean (reading : Reading α) : Prop := Ends Founded (fun _ => True) reading

theorem clean_stop (problem : Problem) (text : List Char) :
    Clean (stop problem text : Reading α) := .error trivial

theorem clean_readText (fuel : Nat) (text : List Char) : Clean (readText fuel text) := by
  fun_induction readText fuel text with
  | case1 => exact clean_stop _ _
  | case2 => exact clean_stop _ _
  | case3 => exact .ok trivial
  | case4 => exact clean_stop _ _
  | case5 => exact clean_stop _ _
  | case6 =>
      rename_i ih
      exact .map ih
  | case7 => exact clean_stop _ _
  | case8 =>
      rename_i ih
      exact .map ih
  | case9 => exact clean_stop _ _
  | case10 =>
      rename_i ih
      exact .map ih

theorem clean_readString (fuel : Nat) (text : List Char) : Clean (readString fuel text) := by
  have htext := clean_readText fuel text
  unfold readString
  split
  · exact .ok trivial
  · exact clean_stop _ _
  · rename_i other hread
    exact .error (hread ▸ htext).of_error

theorem clean_readNumber (text : List Char) : Clean (readNumber text) := by
  unfold readNumber
  exact .ite (clean_stop _ _) (.ite (.guard id (.ok trivial)) (.ok trivial))

theorem clean_readPlain (text : List Char) : Clean (readPlain text) := by
  unfold readPlain
  split
  · exact .ok trivial
  · exact clean_readNumber text

/-- All constructs read cleanly with some fuel. -/
structure ReadsCleanly (fuel : Nat) : Prop where
  value (text : List Char) : Clean (readValue fuel text)
  items (text : List Char) : Clean (readItems fuel text)
  entries (text : List Char) : Clean (readEntries fuel text)

theorem readsCleanly_zero : ReadsCleanly 0 where
  value _ := clean_stop _ _
  items _ := clean_stop _ _
  entries _ := clean_stop _ _

namespace ReadsCleanly

variable {fuel : Nat}

theorem value_succ (h : ReadsCleanly fuel) (text : List Char) :
    Clean (readValue (fuel + 1) text) := by
  unfold readValue
  split
  · exact clean_stop _ _
  · exact clean_stop _ _
  · exact .map (clean_readString _ _)
  · rename_i hfuel
    cases hfuel
    split
    · exact .ok trivial
    · exact .map (h.items _)
  · rename_i hfuel
    cases hfuel
    split
    · exact .ok trivial
    · exact .map (h.entries _)
  · exact clean_readPlain _

theorem items_succ (h : ReadsCleanly fuel) (text : List Char) :
    Clean (readItems (fuel + 1) text) := by
  unfold readItems
  refine (h.value text).bind fun ⟨value, rest⟩ _ => ?_
  dsimp only
  split
  · exact .pure trivial
  · exact (h.items _).bind fun _ _ => .pure trivial
  · exact clean_stop _ _

theorem entries_succ (h : ReadsCleanly fuel) (text : List Char) :
    Clean (readEntries (fuel + 1) text) := by
  unfold readEntries
  split
  · refine (clean_readString _ _).bind fun ⟨key, rest⟩ _ => ?_
    dsimp only
    split
    · refine (h.value _).bind fun ⟨value, rest⟩ _ => ?_
      dsimp only
      split
      · exact .pure trivial
      · exact (h.entries _).bind fun _ _ => .pure trivial
      · exact clean_stop _ _
    · exact clean_stop _ _
  · exact clean_stop _ _

theorem succ (h : ReadsCleanly fuel) : ReadsCleanly (fuel + 1) where
  value := h.value_succ
  items := h.items_succ
  entries := h.entries_succ

end ReadsCleanly

theorem readsCleanly (fuel : Nat) : ReadsCleanly fuel := by
  induction fuel with
  | zero => exact readsCleanly_zero
  | succ fuel ih => exact ih.succ

theorem clean_readDocument (text : List Char) : Clean (readDocument text) := by
  unfold readDocument
  split
  · exact clean_stop _ _
  · refine ((readsCleanly _).value _).bind fun ⟨value, rest⟩ _ => ?_
    dsimp only
    split
    · exact .pure trivial
    · exact clean_stop _ _

theorem limit_lt_of_readDocument {text : List Char} {count : Nat}
    (h : readDocument text = .error (.tooManyDigits count)) : digitLimit < count :=
  (h ▸ clean_readDocument text).of_error

/-- Reading breaks off only at an integer with too many digits. -/
theorem limit_lt_of_value {text : List Char} {fault : Fault}
    (h : value text = .error (.brokenOff fault)) :
    ∃ count, digitLimit < count ∧ fault = .value (.tooManyDigits count) := by
  unfold value at h
  cases hread : readDocument text with
  | ok value =>
      rw [hread] at h
      cases h
  | error stop =>
      rw [hread] at h
      cases stop with
      | problem cause remaining => cases h
      | tooManyDigits count =>
          cases h
          exact ⟨count, limit_lt_of_readDocument hread, rfl⟩

end Conformance.Json
