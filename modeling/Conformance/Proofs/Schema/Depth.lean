import Conformance.Proofs.Schema.Agreement
import Conformance.Proofs.Yaml.Cycle
import Mathlib.Data.List.MinMax

/-! # Validation looks no deeper than the schema

Each step of validation goes down the schema, and each comparison goes down an option of an
enumeration. So what lies in a value below the height of the schema has no part in the run, and a
value without an end is validated like any value that is the same down to that depth.
-/

namespace Conformance.Schema

open Value (WellLinked truncate)

def options : Value → List Value
  | .complexSchema _ _ _ enumeration _ _ _ _ =>
    match enumeration.iterate with
    | .ok options => options
    | .error _ => []
  | _ => []

/-- How deep a schema looks: one container for a list or a record and then as deep as the deepest
nested schema, as deep as the deepest option of an enumeration, and no container for a scalar or
for a schema that breaks the contract. -/
noncomputable def height (schema : Value) : ℕ∞ :=
  match aggregation schema with
  | .ok .array | .ok .object =>
    ((parts schema).attach.map fun part => height part.1).foldr max 0 + 1
  | .ok .enumeration => Value.depthOfItems (options schema)
  | _ => 0
termination_by sizeOf schema
decreasing_by all_goals exact sizeOf_lt_of_mem_parts part.2

variable {schema part value : Value} {n : Nat}

theorem height_of_container (h : aggregation schema = .ok .array ∨ aggregation schema = .ok .object) :
    height schema = ((parts schema).attach.map fun part => height part.1).foldr max 0 + 1 := by
  rw [height]
  rcases h with h | h <;> rw [h]

/-- A schema of containers looks at one container at least. -/
theorem exists_succ_of_container
    (h : aggregation schema = .ok .array ∨ aggregation schema = .ok .object)
    (hheight : height schema ≤ n) : ∃ m, n = m + 1 := by
  rw [height_of_container h] at hheight
  cases n with
  | zero => simp at hheight
  | succ m => exact ⟨m, rfl⟩

theorem height_le_of_mem_parts
    (h : aggregation schema = .ok .array ∨ aggregation schema = .ok .object)
    (hpart : part ∈ parts schema) (hheight : height schema ≤ (n + 1 : Nat)) : height part ≤ n := by
  have hmem : height part ∈ (parts schema).attach.map fun part => height part.1 :=
    List.mem_map.2 ⟨⟨part, hpart⟩, List.mem_attach _ _, rfl⟩
  rw [height_of_container h, Nat.cast_add, Nat.cast_one] at hheight
  exact (List.le_max_of_le' 0 hmem le_rfl).trans
    ((ENat.add_le_add_iff_right ENat.one_ne_top).1 hheight)

theorem height_le_of_parts
    (h : aggregation schema = .ok .array ∨ aggregation schema = .ok .object)
    (hparts : ∀ part ∈ parts schema, height part ≤ n) : height schema ≤ (n + 1 : Nat) := by
  rw [height_of_container h, Nat.cast_add, Nat.cast_one]
  refine add_le_add_left (List.max_le_of_forall_le _ (n : ℕ∞) fun other hother => ?_) 1
  obtain ⟨part, -, rfl⟩ := List.mem_map.1 hother
  exact hparts part.1 part.2

/-! ## Checks of what is cut off -/

/-- No predicate is called with a list or a record. -/
def Unpredicated : Value → Prop
  | .complexSchema _ array object _ _ _ _ _ =>
    uncalled array "matcher" = true ∧ uncalled object "matcher" = true
  | _ => True

theorem kind?_truncate (h : WellLinked value) (n : Nat) :
    (truncate n value).kind? = value.kind? :=
  congrArg (·.2.1) (Value.outline_truncate h n)

theorem isNull_truncate (h : WellLinked value) (n : Nat) :
    (truncate n value).isNull = value.isNull :=
  congrArg (·.2.2.1) (Value.outline_truncate h n)

theorem isMissing_truncate (h : WellLinked value) (n : Nat) :
    (truncate n value).isMissing = value.isMissing :=
  congrArg (·.2.2.2) (Value.outline_truncate h n)

theorem validateEnum_truncate (h : WellLinked value) {enumeration : Value}
    (hoptions : ∀ options, enumeration.iterate = .ok options →
      ∀ option ∈ options, Value.depth option ≤ n) :
    validateEnum (truncate n value) enumeration = validateEnum value enumeration := by
  unfold validateEnum
  cases hfound : enumeration.iterate with
  | error fault => rfl
  | ok options =>
      have hany : options.any (strictlyEqual (truncate n value)) =
          options.any (strictlyEqual value) := by
        rw [Bool.eq_iff_iff, List.any_eq_true, List.any_eq_true]
        refine exists_congr fun option => and_congr_right fun hmem => ?_
        have htype : (truncate n value).typeName = value.typeName :=
          congrArg (·.1) (Value.outline_truncate h n)
        rw [strictlyEqual, strictlyEqual, kind?_truncate h, sameType, sameType, htype,
          Value.equal_truncate h (hoptions options hfound option hmem)]
      simp only [bind, Except.bind, hany]

theorem declared_map (members : Value) (f : Value → Value) (entries : Value.Entries) :
    declared members (entries.map fun e => (e.1, f e.2)) = declared members entries := by
  induction entries with
  | nil => rfl
  | cons e entries ih => rw [List.map_cons, declared, declared, ih]

theorem checkArray_truncate (calls : Interpretation) (h : WellLinked value) {array : Value}
    (harray : uncalled array "matcher" = true) :
    checkArray calls (truncate (n + 1) value) array = checkArray calls value array := by
  unfold checkArray
  rw [Value.items?_truncate h]
  cases value.items? with
  | none => rfl
  | some items =>
      cases array
      case arraySchema itemType length minLength maxLength matcher =>
        have hcallable : matcher.isCallable = false := not_callable_of_uncalled harray rfl
        simp only [Option.map_some, admitsArray_eq_andThen, List.length_map,
          passesMatcher_agree calls (truncate (n + 1) value) value hcallable]
      all_goals rfl

theorem checkObject_truncate (calls : Interpretation) (h : WellLinked value) {object : Value}
    (hobject : uncalled object "matcher" = true) :
    checkObject calls (truncate (n + 1) value) object = checkObject calls value object := by
  unfold checkObject
  rw [Value.entries?_truncate h]
  cases value.entries? with
  | none => rfl
  | some entries =>
      cases object
      case objectSchema members allowExtraMembers matcher =>
        have hcallable : matcher.isCallable = false := not_callable_of_uncalled hobject rfl
        simp only [Option.map_some, admitsObject, declared_map,
          passesMatcher_agree calls (truncate (n + 1) value) value hcallable]
      all_goals rfl

theorem validateScalar_truncate (calls : Interpretation) (h : WellLinked value)
    {scalar array object enumeration string number optional nullable : Value} {kind : Kind}
    (htag : tag? scalar = some kind) :
    validateScalar calls (truncate n value)
        (.complexSchema scalar array object enumeration string number optional nullable) =
      validateScalar calls value
        (.complexSchema scalar array object enumeration string number optional nullable) := by
  by_cases hkind : value.kind? = some kind
  · rw [Value.truncate_of_kind hkind]
  · rw [validateScalar_of_tag calls htag, validateScalar_of_tag calls htag, kind?_truncate h,
      if_neg hkind, if_neg hkind]

/-- What a schema asks of a value itself it asks alike of the value cut off at its height. -/
theorem check_truncate (calls : Interpretation) (h : WellLinked value)
    (hschema : Unpredicated schema) (hheight : height schema ≤ n) :
    check calls (truncate n value) schema = check calls value schema := by
  cases schema
  case complexSchema scalar array object enumeration string number optional nullable =>
    rw [check, check]
    cases hkind : aggregation
        (.complexSchema scalar array object enumeration string number optional nullable) with
    | error fault =>
        obtain ⟨other, hfault⟩ := exists_inferAggregation_error hkind
        exact Outcome.bind_of_error hfault _ _
    | ok kind =>
        obtain ⟨-, hconstrained⟩ := aggregation_eq_ok_iff.mp hkind
        rw [inferAggregation_of_ok hkind, Outcome.bind_pure_left, Outcome.bind_pure_left,
          isNull_truncate h, isMissing_truncate h]
        cases kind with
        | scalar =>
            obtain ⟨tag, htag, -⟩ := hconstrained
            rw [validateScalar_truncate calls h htag]
        | array =>
            obtain ⟨m, rfl⟩ := exists_succ_of_container (.inl hkind) hheight
            rw [checkArray_truncate calls h hschema.1]
        | object =>
            obtain ⟨m, rfl⟩ := exists_succ_of_container (.inr hkind) hheight
            rw [checkObject_truncate calls h hschema.2]
        | enumeration =>
            rw [height, hkind] at hheight
            rw [validateEnum_truncate h fun options hoptions option hmem => ?_]
            refine (Value.depth_le_of_mem_items ?_).trans hheight
            simpa [Schema.options, hoptions] using hmem
  all_goals simp only [check, validateSimple, kind?_truncate h]

theorem memberValue_map (entries : Value.Entries) (name : Value) (n : Nat) :
    memberValue (entries.map fun e => (e.1, truncate n e.2)) name =
      truncate n (memberValue entries name) := by
  rw [memberValue, memberValue, Value.find?_map_values]
  cases Value.find? entries name with
  | none => cases n <;> rfl
  | some member => rfl

theorem wellLinked_memberValue {entries : Value.Entries} (h : ∀ e ∈ entries, WellLinked e.2)
    (name : Value) : WellLinked (memberValue entries name) := by
  rw [memberValue]
  cases hfound : Value.find? entries name with
  | none => exact .intro trivial (by simp [Value.components])
  | some member =>
      obtain ⟨e, he, rfl⟩ := Option.map_eq_some_iff.1 hfound
      exact h e (List.mem_of_find?_eq_some he)

/-- Of a container that is cut off, the parts are cut off one step higher. -/
theorem all_children_truncate (calls : Interpretation) (h : WellLinked value)
    (hheight : height schema ≤ n)
    (hparts : ∀ part ∈ parts schema, ∀ m : Nat, height part ≤ m → ∀ inner, WellLinked inner →
      validate calls (truncate m inner) part = validate calls inner part) :
    Outcome.all (fun q => validate calls q.1 q.2) (children (truncate n value) schema) =
      Outcome.all (fun q => validate calls q.1 q.2) (children value schema) := by
  cases schema
  case complexSchema scalar array object enumeration string number optional nullable =>
    rw [children, children, isNull_truncate h, isMissing_truncate h]
    split
    · rfl
    · split
      · rename_i hkind
        obtain ⟨m, rfl⟩ := exists_succ_of_container (.inl hkind) hheight
        rw [Outcome.all_flatMap, Outcome.all_flatMap, Value.items?_truncate h]
        refine Outcome.all_congr fun itemType hitem => ?_
        have hpart := List.mem_append_left ((declarations object).map (·.2)) hitem
        have hlow := height_le_of_mem_parts (.inl hkind) hpart hheight
        rw [Outcome.all_map, Outcome.all_map]
        cases hitems : value.items? with
        | none => rfl
        | some items =>
            rw [Option.map_some, Option.getD_some, Option.getD_some, Outcome.all_map]
            exact Outcome.all_congr fun item hmem =>
              hparts itemType hpart m hlow item (h.of_items hitems item hmem)
      · rename_i hkind
        obtain ⟨m, rfl⟩ := exists_succ_of_container (.inr hkind) hheight
        rw [Value.entries?_truncate h]
        cases hentries : value.entries? with
        | none => rfl
        | some entries =>
            rw [Option.map_some]
            dsimp only
            rw [Outcome.all_map, Outcome.all_map]
            refine Outcome.all_congr fun d hd => ?_
            have hpart : d.2 ∈ parts (.complexSchema scalar array object enumeration string number
                optional nullable) := List.mem_append_right _ (List.mem_map.2 ⟨d, hd, rfl⟩)
            have hlow := height_le_of_mem_parts (.inr hkind) hpart hheight
            rw [memberValue_map]
            exact hparts d.2 hpart m hlow _ (wellLinked_memberValue (h.of_entries hentries) d.1)
      · rfl
  all_goals rfl

theorem validate_truncate (calls : Interpretation) (h : WellLinked value)
    (hschema : Every Unpredicated schema) (hheight : height schema ≤ n) :
    validate calls (truncate n value) schema = validate calls value schema := by
  induction schema using induction_on_parts generalizing value n with
  | step schema ih =>
      rw [validate_eq_andThen, validate_eq_andThen calls value schema,
        check_truncate calls h hschema.root hheight,
        all_children_truncate calls h hheight fun part hpart m hlow inner hinner =>
          ih part hpart hinner (hschema.part hpart) hlow]

/-- Values that are the same down to the height of a schema, or further down, are validated alike,
if the schema hands no container to a predicate. So a document that contains itself is validated
like each of its finite unrollings that is so deep. -/
theorem validate_of_truncate_eq (calls : Interpretation) {schema : Value} {n : Nat}
    (hschema : Every Unpredicated schema) (hheight : height schema ≤ n) :
    (∀ value value', WellLinked value → WellLinked value' →
      truncate n value = truncate n value' →
      validate calls value schema = validate calls value' schema) ∧
    ∀ source text document, Yaml.read source text = .ok document →
      WellLinked document ∧ Value.depth (truncate n document) ≤ n + 1 ∧
        validate calls (truncate n document) schema = validate calls document schema := by
  refine ⟨fun value value' h h' hsame => ?_, fun source text document hread => ?_⟩
  · rw [← validate_truncate calls h hschema hheight, hsame,
      validate_truncate calls h' hschema hheight]
  · have hlinked := Yaml.wellLinked_of_read hread
    exact ⟨hlinked, Value.depth_truncate_le hlinked n,
      validate_truncate calls hlinked hschema hheight⟩

/-- A record whose only member is the record itself. -/
def selfMember : Value := .recursive [.dict [(.str "b", .link 0)]] 0

def selfMemberText : List Char := ['&', 'a', ' ', '{', 'b', ':', ' ', '*', 'a', '}']

def isSelfMember : Except Fault Value → Bool
  | .ok (.recursive [.dict [(.str "b", .link 0)]] 0) => true
  | _ => false

theorem eq_of_isSelfMember {result : Except Fault Value} (h : isSelfMember result = true) :
    result = .ok selfMember := by
  unfold isSelfMember at h
  split at h
  · rfl
  · cases h

theorem read_selfMemberText : Yaml.read "a.yaml" selfMemberText = .ok selfMember := by
  have hread : isSelfMember (Yaml.read "a.yaml" selfMemberText) = true := by decide +kernel
  exact eq_of_isSelfMember hread

def openRecord (members : Value.Entries) : Value :=
  .complexSchema .null .null (.objectSchema (.dict members) (.bool true) .null) .null .null .null
    (.bool false) (.bool false)

def nestedRecord : Value := openRecord [(.str "b", openRecord [])]

/-- A record that is the same as the recursive one down to the second record in it. -/
def twiceUnrolled : Value :=
  .dict [(.str "b", .dict [(.str "b", .dict [(.str "c", .int 1)])])]

theorem height_nestedRecord : height nestedRecord ≤ (2 : Nat) := by
  refine height_le_of_parts (.inr rfl) (List.forall_mem_singleton.2 ?_)
  exact height_le_of_parts (.inr rfl) nofun

theorem unpredicated_nestedRecord : Every Unpredicated nestedRecord := by
  have hroot : ∀ members, Unpredicated (openRecord members) := fun _ => ⟨rfl, rfl⟩
  refine .intro (hroot _) fun part hpart => ?_
  rw [List.mem_singleton.1 hpart]
  exact .intro (hroot _) nofun

theorem wellLinked_twiceUnrolled : WellLinked twiceUnrolled := by
  have hrecord : ∀ name member, WellLinked member → WellLinked (.dict [(.str name, member)]) :=
    fun name member h => .intro trivial (List.forall_mem_singleton.2 h)
  exact hrecord _ _ (hrecord _ _ (hrecord _ _ (.intro trivial nofun)))

/-- The document that contains itself passes, because a finite record that is the same down to the
height of the schema does. -/
theorem validate_of_truncate_eq_selfMember :
    Every Unpredicated nestedRecord ∧ height nestedRecord ≤ (2 : Nat) ∧
      Yaml.read "a.yaml" selfMemberText = .ok selfMember ∧
      truncate 2 selfMember = truncate 2 twiceUnrolled ∧
      validate standard (truncate 2 selfMember) nestedRecord = .pure true ∧
      validate standard selfMember nestedRecord = .pure true := by
  obtain ⟨hsame, hdocument⟩ :=
    validate_of_truncate_eq standard unpredicated_nestedRecord height_nestedRecord
  obtain ⟨hlinked, -, hunrolled⟩ := hdocument _ _ _ read_selfMemberText
  have hcut : truncate 2 selfMember = truncate 2 twiceUnrolled := rfl
  have hfinite : validate standard twiceUnrolled nestedRecord = .pure true := rfl
  have hpassed : validate standard selfMember nestedRecord = .pure true :=
    (hsame _ _ hlinked wellLinked_twiceUnrolled hcut).trans hfinite
  exact ⟨unpredicated_nestedRecord, height_nestedRecord, read_selfMemberText, hcut,
    hunrolled.trans hpassed, hpassed⟩

end Conformance.Schema
