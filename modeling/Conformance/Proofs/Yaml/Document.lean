import Conformance.Proofs.Yaml.Grammar
import Conformance.Proofs.Yaml.Meaning
import Conformance.Yaml.Document

/-! # What stops a document

A document that is not read has malformed text or holds something that is refused by itself. Which
categories of faults these refusals belong to depends on the tag.
-/

namespace Conformance.Yaml

theorem clean_readDocument (text : List Char) : Clean (readDocument text) := by
  refine .ite yields_malformed ?_
  have htokens : ∀ token ∈ Token.ofText text, token.Calm := fun _ => Token.calm_of_mem_ofText
  refine (Graph.clean_ofTokens htokens).bind fun found _ => ?_
  split
  · exact .pure trivial
  · exact Graph.clean_value _ _

theorem escape_of_readDocument {text : List Char} {fault : Fault}
    (h : readDocument text = .error (.fault fault)) : Escape fault :=
  (h ▸ clean_readDocument text).of_error

theorem escape_of_value {text : List Char} {fault : Fault}
    (h : value text = .error (.brokenOff fault)) : Escape fault := by
  unfold value at h
  cases hread : readDocument text with
  | ok value =>
      rw [hread] at h
      cases h
  | error stop =>
      rw [hread] at h
      cases stop with
      | malformed => cases h
      | fault cause =>
          cases h
          exact escape_of_readDocument hread

/-! ## Categories of refusals -/

/-- Text that is refused by itself is refused with a fault of one of the categories. -/
abbrev Refuses (categories : List Category) (reading : Reading α) : Prop :=
  Ends (fun stop => ∀ fault, stop = .fault fault → fault.category ∈ categories) (fun _ => True)
    reading

theorem Refuses.subset {categories others : List Category} {reading : Reading α}
    (h : Refuses categories reading) (hsubset : categories ⊆ others) : Refuses others reading :=
  h.imp (fun _ hstop fault hfault => hsubset (hstop fault hfault)) fun _ _ => trivial

theorem refuses_malformed {categories : List Category} :
    Refuses categories (malformed : Reading α) := by
  refine .error fun fault hfault => ?_
  cases hfault

theorem refuses_refuse {categories : List Category} {fault : Fault}
    (h : fault.category ∈ categories) : Refuses categories (refuse fault : Reading α) := by
  refine .error fun other hother => ?_
  cases hother
  exact h

theorem refuses_orRefuse {categories : List Category} {result : Except Fault α}
    (h : Ends (fun fault => fault.category ∈ categories) (fun _ => True) result) :
    Refuses categories (orRefuse result) := by
  refine .mapError (h.imp (fun fault hfault other hother => ?_) fun _ h => h)
  cases hother
  exact hfault

theorem ends_readNumeral (base : Nat) (text : List Char) :
    Ends (fun fault => fault.category ∈ [Category.value]) (fun _ => True)
      (Numeral.readInteger base text) := by
  unfold Numeral.readInteger
  dsimp only
  split
  · exact .error (List.mem_singleton.2 rfl)
  · refine .ite (.error (List.mem_singleton.2 rfl)) ?_
    split
    · exact .ok trivial
    · exact .error (List.mem_singleton.2 rfl)

theorem ends_readDecimal (text : List Char) :
    Ends (fun fault => fault.category ∈ [Category.value]) (fun _ => True)
      (Numeral.readDouble text) := by
  unfold Numeral.readDouble
  split
  · exact .ok trivial
  · exact .error (List.mem_singleton.2 rfl)

theorem refuses_readTruth (text : String) : Refuses [.key] (readTruth text) := by
  unfold readTruth
  dsimp only
  split
  · exact .ok trivial
  · exact refuses_refuse (List.mem_singleton.2 rfl)

theorem refuses_readNatural (text : List Char) : Refuses [.index, .value] (readNatural text) := by
  have hnumeral (base : Nat) (digits : List Char) :
      Refuses [.index, .value] (orRefuse (Numeral.readInteger base digits)) :=
    (refuses_orRefuse (ends_readNumeral base digits)).subset (by simp)
  unfold readNatural
  split
  · exact refuses_refuse (by decide)
  · exact .ok trivial
  · exact hnumeral 2 _
  · exact hnumeral 16 _
  · exact hnumeral 8 _
  · refine .ite (.map ?_) (hnumeral 10 _)
    have hparts := Ends.mapM (ends_readNumeral 10) (Text.splitOn ':' text)
    exact (refuses_orRefuse (hparts.imp (fun _ h => h) fun _ _ => trivial)).subset (by simp)

theorem refuses_readInteger (text : String) : Refuses [.index, .value] (readInteger text) := by
  unfold readInteger
  split
  · exact refuses_refuse (by decide)
  · exact (refuses_readNatural _).bind fun n _ => .pure trivial

theorem ends_toDouble (a : Value.Number) :
    Ends (fun fault => fault.category = .overflow) (fun _ => True) a.toDouble := by
  unfold Value.Number.toDouble
  split
  · exact .ok trivial
  · exact .error rfl

theorem ends_addSexagesimal (parts : List Binary64) (base : Int) (total : Binary64) :
    Ends (fun fault => fault.category = .overflow) (fun _ => True)
      (addSexagesimal parts base total) := by
  induction parts generalizing base total with
  | nil => exact .ok trivial
  | cons part rest ih =>
      rw [addSexagesimal]
      exact (ends_toDouble (.int base)).bind fun factor _ => ih _ _

theorem refuses_readMagnitude (text : List Char) :
    Refuses [.value, .overflow] (readMagnitude text) := by
  refine .ite (refuses_orRefuse ?_) ?_
  · have hparts := Ends.mapM ends_readDecimal (Text.splitOn ':' text)
    refine Ends.bind (hparts.imp (fun fault hfault => ?_) fun _ h => h) fun parts _ => ?_
    · exact List.mem_cons.2 (.inl (List.mem_singleton.1 hfault))
    · exact (ends_addSexagesimal _ _ _).imp (fun fault hfault => by simp [hfault]) fun _ h => h
  · exact (refuses_orRefuse (ends_readDecimal text)).subset (by simp)

theorem refuses_readDouble (text : String) :
    Refuses [.index, .value, .overflow] (readDouble text) := by
  unfold readDouble
  split
  · exact refuses_refuse (by decide)
  · refine .ite (.pure trivial) (.ite (.pure trivial) ?_)
    have hmagnitude := (refuses_readMagnitude
      (Numeral.takeSign (Text.lower (withoutGroups text.toList))).2).subset
        (List.subset_cons_self Category.index _)
    exact hmagnitude.bind fun x _ => .pure trivial

theorem refuses_readBytes (text : String) : Refuses [] (readBytes text) := by
  refine .ite ?_ refuses_malformed
  split
  · exact .ok trivial
  · exact refuses_malformed

theorem ends_readTimestamp (text : List Char) :
    Ends (fun fault => fault.category ∈ [Category.attribute, .value]) (fun _ => True)
      (readTimestamp text) := by
  unfold readTimestamp
  split
  · exact .error (by decide)
  · exact .mapError (.always (fun _ => List.mem_cons_of_mem _ (List.mem_singleton.2 rfl))
      fun _ => trivial)

/-- The tags of scalars refuse a text with faults of these categories. -/
theorem refuses_of_scalarReader? {tag : String} {read : String → Reading Value}
    (hread : scalarReader? tag = some read) (text : String) :
    Refuses [.key, .index, .value, .overflow, .attribute] (read text) := by
  unfold scalarReader? at hread
  split at hread
  · cases hread
    exact .ok trivial
  split at hread
  · cases hread
    exact .ok trivial
  split at hread
  · cases hread
    exact (refuses_readTruth text).subset (by simp)
  split at hread
  · cases hread
    exact (refuses_readInteger text).subset (by simp)
  split at hread
  · cases hread
    exact (refuses_readDouble text).subset (by simp)
  split at hread
  · cases hread
    exact (refuses_readBytes text).subset (by simp)
  split at hread
  · obtain rfl := Option.some.inj hread
    exact (refuses_orRefuse (ends_readTimestamp text.toList)).subset (by simp)
  · cases hread

theorem Escape.category_mem {fault : Fault} (h : Escape fault) :
    fault.category ∈ [Category.key, .index, .value, .overflow, .attribute, .type, .runtime] := by
  cases h with
  | scalar hread hrefused =>
      have hcategory := (hrefused ▸ refuses_of_scalarReader? hread _).of_error fault rfl
      exact List.mem_append_left [Category.type, .runtime] hcategory
  | timestampMapping => decide
  | endless => decide
  | version hrefused =>
      have hcategory := (hrefused ▸ ends_readNumeral _ _).of_error
      simp [List.mem_singleton.1 hcategory]
  | code hrefused =>
      unfold charOfCode at hrefused
      split at hrefused
      · cases hrefused
      · split at hrefused <;> cases hrefused <;> decide

end Conformance.Yaml
