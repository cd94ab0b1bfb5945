import Conformance.Proofs.Schema.Scalar
import Conformance.Reference

/-! # What references name

A reference is a text with one colon between a module and a path of names. It resolves exactly if
the module can be imported, the names lead from it to a value, and that value is a schema. All else
is refused as a fault of references, with two exceptions. A module that starts with a point is not
looked up but taken as relative, which is a fault of types; and what is no text and shows an integer
that is too long cannot be written into the refusal, which is a fault of values.
-/

namespace Conformance

namespace Text

theorem splitOn_eq_splitOn (mark : Char) (text : List Char) :
    splitOn mark text = text.splitOn mark := by
  induction text with
  | nil => simp [splitOn, List.splitOn_eq_splitOnP, List.splitOnP_nil]
  | cons c rest ih =>
      rw [List.splitOn_eq_splitOnP] at ih ⊢
      rw [splitOn, List.splitOnP_cons_eq_if_modifyHead, ih]
      by_cases hmark : c = mark
      · simp [hmark]
      · have hne := List.splitOnP_ne_nil (· == mark) rest
        cases hparts : rest.splitOnP (· == mark) with
        | nil => exact absurd hparts hne
        | cons part parts => simp [hmark]

theorem splitOn_ne_nil (mark : Char) (text : List Char) : splitOn mark text ≠ [] := by
  rw [splitOn_eq_splitOn, List.splitOn_eq_splitOnP]
  exact List.splitOnP_ne_nil _ text

/-- The stretches between the marks are what the marks join to the text. -/
theorem splitOn_eq_iff {mark : Char} {text : List Char} {parts : List (List Char)}
    (hne : parts ≠ []) :
    splitOn mark text = parts ↔
      text = [mark].intercalate parts ∧ ∀ part ∈ parts, mark ∉ part := by
  constructor
  · rintro rfl
    refine ⟨?_, fun part => not_mem_of_mem_splitOn⟩
    rw [splitOn_eq_splitOn, List.intercalate_splitOn]
  · rintro ⟨rfl, hparts⟩
    rw [splitOn_eq_splitOn, List.splitOn_intercalate mark hparts hne]

/-- A text with one mark has two sides. -/
theorem splitOn_eq_pair_iff {mark : Char} {text left right : List Char} :
    splitOn mark text = [left, right] ↔
      text = left ++ mark :: right ∧ mark ∉ left ∧ mark ∉ right := by
  rw [splitOn_eq_iff (by simp)]
  simp [List.intercalate_cons_cons]

end Text

namespace Reference

open Text (splitOn trim)

/-! ## Spelling -/

inductive Spells (text : String) : String → String → Prop
  | intro {left right : List Char} (htext : text.toList = left ++ ':' :: right)
      (hleft : ':' ∉ left) (hright : ':' ∉ right) (hmodule : trim left ≠ [])
      (hpath : trim right ≠ []) :
      Spells text (String.ofList (trim left)) (String.ofList (trim right))

theorem sides?_eq_some_iff {text moduleName path : String} :
    sides? text = some (moduleName, path) ↔
      ∃ left right, text.toList = left ++ ':' :: right ∧ ':' ∉ left ∧ ':' ∉ right ∧
        moduleName = String.ofList (trim left) ∧ path = String.ofList (trim right) := by
  constructor
  · intro h
    unfold sides? at h
    split at h
    · next left right hsplit =>
        cases h
        obtain ⟨htext, hleft, hright⟩ := Text.splitOn_eq_pair_iff.mp hsplit
        exact ⟨left, right, htext, hleft, hright, rfl, rfl⟩
    · cases h
  · rintro ⟨left, right, htext, hleft, hright, rfl, rfl⟩
    have hsplit := Text.splitOn_eq_pair_iff.mpr ⟨htext, hleft, hright⟩
    simp only [sides?, hsplit]

theorem spells_iff {text moduleName path : String} :
    Spells text moduleName path ↔
      sides? text = some (moduleName, path) ∧ (moduleName.isEmpty || path.isEmpty) = false := by
  rw [sides?_eq_some_iff]
  constructor
  · rintro ⟨htext, hleft, hright, hmodule, hpath⟩
    refine ⟨⟨_, _, htext, hleft, hright, rfl, rfl⟩, ?_⟩
    simp [hmodule, hpath]
  · rintro ⟨⟨left, right, htext, hleft, hright, rfl, rfl⟩, hempty⟩
    simp only [Bool.or_eq_false_iff, String.isEmpty_eq_false_iff] at hempty
    exact .intro htext hleft hright (by simpa using hempty.1) (by simpa using hempty.2)

/-- A module can be imported by its name. What stands in front of its points does not matter. -/
def Imports (modules : Modules) (moduleName : String) (attributes : List (String × Value)) : Prop :=
  modules.find? (·.name == moduleName) = some ⟨moduleName, some attributes⟩

/-- A name that is taken as relative to a module, of which there is none. -/
def IsRelative (moduleName : String) : Prop := moduleName.toList.head? = some '.'

instance (moduleName : String) : Decidable (IsRelative moduleName) :=
  inferInstanceAs (Decidable (_ = _))

theorem findModule?_eq_some_iff {modules : Modules} {name : String}
    {attributes : List (String × Value)} :
    (∃ found, findModule? modules name = some found ∧ found.attributes = some attributes) ↔
      Imports modules name attributes := by
  unfold findModule? Imports
  constructor
  · rintro ⟨⟨foundName, foundAttributes⟩, hfound, rfl⟩
    have hname := List.find?_some hfound
    rw [hfound, ← beq_iff_eq.mp hname]
  · intro h
    exact ⟨_, h, rfl⟩

/-- Looking for what a name starts with gives no module, only the reason that there is none. -/
theorem importParts_eq_ok_iff {modules : Modules} {attributes : List (String × Value)}
    {parts : List (List Char)} (hne : parts ≠ []) :
    importParts modules parts = .ok attributes ↔
      Imports modules (joinPoints parts.reverse) attributes := by
  rw [← findModule?_eq_some_iff]
  induction parts with
  | nil => exact absurd rfl hne
  | cons part outer ih =>
      unfold importParts
      dsimp only
      cases hfound : findModule? modules (joinPoints (part :: outer).reverse) with
      | some found =>
          dsimp only
          cases hattributes : found.attributes <;> simp [hattributes]
      | none =>
          simp only [reduceCtorEq, false_and, exists_false, iff_false]
          cases outer with
          | nil => simp
          | cons next outer =>
              cases houter : findModule? modules (joinPoints (next :: outer).reverse) with
              | some found => simp
              | none =>
                  have hnone := ih (List.cons_ne_nil next outer)
                  simp only [houter, reduceCtorEq, false_and, exists_false, iff_false] at hnone
                  simpa using hnone

theorem joinPoints_splitOn (name : String) : joinPoints (splitOn '.' name.toList) = name := by
  have hjoined := ((Text.splitOn_eq_iff (Text.splitOn_ne_nil '.' name.toList)).mp rfl).1
  rw [joinPoints, ← hjoined, String.ofList_toList]

theorem importModule_eq_ok_iff {modules : Modules} {name : String}
    {attributes : List (String × Value)} :
    importModule modules name = .ok attributes ↔
      ¬ IsRelative name ∧ Imports modules name attributes := by
  have hne : (splitOn '.' name.toList).reverse ≠ [] := by
    simpa using Text.splitOn_ne_nil '.' name.toList
  have hparts : importParts modules (splitOn '.' name.toList).reverse = .ok attributes ↔
      Imports modules name attributes := by
    rw [importParts_eq_ok_iff hne, List.reverse_reverse, joinPoints_splitOn]
  unfold importModule IsRelative
  by_cases hrelative : name.toList.head? = some '.'
  · simp [hrelative]
  · rw [if_neg hrelative, ← hparts]
    cases importParts modules (splitOn '.' name.toList).reverse <;> simp [hrelative]

theorem cases_of_importModule_eq_error {modules : Modules} {name : String} {fault : Fault}
    (h : importModule modules name = .error fault) :
    IsRelative name ∧ fault = .type (.relativeReference name) ∨
      ¬ IsRelative name ∧ ∃ cause, fault = .reference cause := by
  unfold importModule at h
  split at h
  · next hrelative =>
      cases h
      exact .inl ⟨hrelative, rfl⟩
  · next habsolute =>
      right
      split at h
      · cases h
      · cases h
        exact ⟨habsolute, _, rfl⟩

/-! ## Ways of names -/

/-- Names lead from one value to another, each by an attribute of what the one before reached. -/
inductive Leads : Value → List String → Value → Prop
  | here (value : Value) : Leads value [] value
  | on {value next target : Value} {name : String} {names : List String}
      (hpart : value.part? name = some next) (hrest : Leads next names target) :
      Leads value (name :: names) target

theorem follow?_eq_some_iff {value target : Value} {names : List String} :
    follow? value names = some target ↔ Leads value names target := by
  constructor
  · intro h
    induction names generalizing value with
    | nil =>
        cases h
        exact .here _
    | cons name names ih =>
        obtain ⟨next, hpart, hrest⟩ := Option.bind_eq_some_iff.mp h
        exact .on hpart (ih hrest)
  · intro h
    induction h with
    | here => rfl
    | on hpart _ ih => rw [follow?, hpart, Option.bind_some, ih]

/-- A path is names with points between them. -/
def Dotted (path : String) (names : List String) : Prop :=
  names ≠ [] ∧ path = ".".intercalate names ∧ ∀ name ∈ names, '.' ∉ name.toList

theorem dotted_iff {path : String} {names : List String} :
    Dotted path names ↔ (splitOn '.' path.toList).map String.ofList = names := by
  have hparts : (splitOn '.' path.toList).map String.ofList = names ↔
      splitOn '.' path.toList = names.map String.toList := by
    constructor
    · rintro rfl
      simp [Function.comp_def]
    · intro h
      rw [h]
      simp [Function.comp_def]
  rw [hparts, Dotted]
  constructor
  · rintro ⟨hne, rfl, hnames⟩
    rw [Text.splitOn_eq_iff (by simpa using hne)]
    refine ⟨by simp [String.toList_intercalate], ?_⟩
    simpa using hnames
  · intro h
    have hne : names ≠ [] := by
      rintro rfl
      exact Text.splitOn_ne_nil _ _ h
    obtain ⟨hpath, hnames⟩ := (Text.splitOn_eq_iff (by simpa using hne)).mp h
    refine ⟨hne, ?_, by simpa using hnames⟩
    rw [← String.toList_inj, hpath]
    simp [String.toList_intercalate]

/-- The first of the names is an attribute of the module, and the others lead on from there. -/
def Holds (moduleName : String) (attributes : List (String × Value)) (names : List String)
    (target : Value) : Prop :=
  ∃ first rest value, names = first :: rest ∧
    moduleAttribute? moduleName attributes first = some value ∧ Leads value rest target

theorem attribute?_eq_some_iff {moduleName path : String} {attributes : List (String × Value)}
    {target : Value} :
    attribute? moduleName attributes path = some target ↔
      ∃ names, Dotted path names ∧ Holds moduleName attributes names target := by
  simp only [dotted_iff, exists_eq_left']
  unfold attribute? Holds
  cases (splitOn '.' path.toList).map String.ofList with
  | nil => simp
  | cons first rest =>
      simp only [Option.bind_eq_some_iff, follow?_eq_some_iff, List.cons.injEq]
      constructor
      · rintro ⟨value, hvalue, hleads⟩
        exact ⟨first, rest, value, ⟨rfl, rfl⟩, hvalue, hleads⟩
      · rintro ⟨_, _, value, ⟨rfl, rfl⟩, hvalue, hleads⟩
        exact ⟨value, hvalue, hleads⟩

inductive IsSchema : Value → Prop
  | tag {value : Value} (kind : Kind) (htext : value.text? = some kind.name) : IsSchema value
  | structured (scalar array object enumeration string number optional nullable : Value) :
      IsSchema (.complexSchema scalar array object enumeration string number optional nullable)

theorem isSchema_eq_true_iff {value : Value} : isSchema value = true ↔ IsSchema value := by
  unfold isSchema
  rw [Bool.or_eq_true, Schema.isSimple, Option.isSome_iff_exists]
  simp only [Schema.tag?_eq_some_iff]
  constructor
  · rintro (⟨kind, htext⟩ | hstructured)
    · exact .tag kind htext
    · split at hstructured
      · exact .structured ..
      · cases hstructured
  · rintro (⟨kind, htext⟩ | _)
    · exact .inl ⟨kind, htext⟩
    · exact .inr rfl

/-! ## Resolution -/

inductive Names (modules : Modules) (reference : Value) : Value → Prop
  | intro {text moduleName path : String} {attributes : List (String × Value)}
      {names : List String} {target : Value} (htext : reference.text? = some text)
      (hspells : Spells text moduleName path) (habsolute : ¬ IsRelative moduleName)
      (himports : Imports modules moduleName attributes) (hdotted : Dotted path names)
      (hholds : Holds moduleName attributes names target) : Names modules reference target

/-- A reference is spelled with a relative module. -/
def NamesRelative (reference : Value) (moduleName : String) : Prop :=
  ∃ text path, reference.text? = some text ∧ Spells text moduleName path ∧ IsRelative moduleName

section Resolution

variable {modules : Modules} {reference target : Value} {fault : Fault}
  {text moduleName path : String}

/-- A reference that is spelled as one is decided by its module, its path and what they reach. -/
theorem result_resolve_of_spells (htext : reference.text? = some text)
    (hspells : Spells text moduleName path) :
    (resolve modules reference).result =
      match importModule modules moduleName with
      | .error fault => .error fault
      | .ok attributes =>
        match attribute? moduleName attributes path with
        | none => .error (.reference (.noAttribute moduleName path))
        | some target =>
          if isSchema target then .ok target
          else .error (.reference (.notSchema reference.displayed target.typeName)) := by
  obtain ⟨hsides, hempty⟩ := spells_iff.mp hspells
  rw [resolve, htext]
  simp only [resolveText, hsides, hempty, Bool.false_eq_true, if_false, Outcome.bind_eq_bind,
    Outcome.liftM_eq_ofExcept]
  cases importModule modules moduleName with
  | error fault => rfl
  | ok attributes =>
      simp only [Outcome.ofExcept_ok, Outcome.bind_pure_left]
      cases attribute? moduleName attributes path with
      | none => rfl
      | some target =>
          dsimp only
          split <;> rfl

theorem result_resolve_of_not_spells (modules : Modules)
    (h : ¬ ∃ text moduleName path, reference.text? = some text ∧ Spells text moduleName path) :
    (∃ cause, (resolve modules reference).result = .error (.reference cause)) ∨
      reference.showsLong = true ∧
        (resolve modules reference).result = .error (.value .integerTooLong) := by
  unfold resolve
  split
  · next text htext =>
      unfold resolveText
      split
      · exact .inl ⟨_, rfl⟩
      · next moduleName path hsides =>
          cases hempty : moduleName.isEmpty || path.isEmpty with
          | true => exact .inl ⟨_, rfl⟩
          | false =>
              exact absurd ⟨text, moduleName, path, htext, spells_iff.mpr ⟨hsides, hempty⟩⟩ h
  · cases hlong : reference.showsLong with
    | true =>
        rw [Value.shown_of_showsLong hlong]
        exact .inr ⟨rfl, rfl⟩
    | false =>
        rw [Value.shown_of_not_showsLong hlong]
        exact .inl ⟨_, rfl⟩

theorem result_resolve_eq_ok_iff :
    (resolve modules reference).result = .ok target ↔
      Names modules reference target ∧ IsSchema target := by
  rw [← isSchema_eq_true_iff]
  constructor
  · intro h
    by_cases hspelled : ∃ text moduleName path,
        reference.text? = some text ∧ Spells text moduleName path
    · obtain ⟨text, moduleName, path, htext, hspells⟩ := hspelled
      rw [result_resolve_of_spells htext hspells] at h
      split at h
      · cases h
      · next attributes himport =>
          obtain ⟨habsolute, himports⟩ := importModule_eq_ok_iff.mp himport
          split at h
          · cases h
          · next found hattribute =>
              obtain ⟨names, hdotted, hholds⟩ := attribute?_eq_some_iff.mp hattribute
              split at h
              · next hschema =>
                  cases h
                  exact ⟨.intro htext hspells habsolute himports hdotted hholds, hschema⟩
              · cases h
    · rcases result_resolve_of_not_spells modules hspelled with ⟨cause, herror⟩ | ⟨-, herror⟩
      all_goals
        rw [herror] at h
        cases h
  · rintro ⟨⟨htext, hspells, habsolute, himports, hdotted, hholds⟩, hschema⟩
    have himport := importModule_eq_ok_iff.mpr ⟨habsolute, himports⟩
    have hattribute := attribute?_eq_some_iff.mpr ⟨_, hdotted, hholds⟩
    simp only [result_resolve_of_spells htext hspells, himport, hattribute, hschema, if_true]

/-- A relative module is asked for before anything is looked up. -/
theorem result_resolve_of_namesRelative (h : NamesRelative reference moduleName) :
    (resolve modules reference).result = .error (.type (.relativeReference moduleName)) := by
  obtain ⟨text, path, htext, hspells, hrelative⟩ := h
  have himport : importModule modules moduleName =
      .error (.type (.relativeReference moduleName)) := if_pos hrelative
  rw [result_resolve_of_spells htext hspells, himport]

theorem result_resolve_of_showsLong (modules : Modules) (h : reference.showsLong = true) :
    (resolve modules reference).result = .error (.value .integerTooLong) := by
  have htext : reference.text? = none := by
    rw [Option.eq_none_iff_forall_ne_some]
    intro text htext
    rw [Value.showsLong_of_text? htext] at h
    cases h
  rw [resolve, htext]
  dsimp only
  rw [Value.shown_of_showsLong h]
  rfl

/-- Nothing but a fault of references, the fault of a relative module and that of an integer that is
too long refuses a reference. -/
theorem cases_of_result_resolve_eq_error (h : (resolve modules reference).result = .error fault) :
    (∃ cause, fault = .reference cause) ∨
      (∃ moduleName, NamesRelative reference moduleName ∧
        fault = .type (.relativeReference moduleName)) ∨
      reference.showsLong = true ∧ fault = .value .integerTooLong := by
  by_cases hspelled : ∃ text moduleName path,
      reference.text? = some text ∧ Spells text moduleName path
  · obtain ⟨text, moduleName, path, htext, hspells⟩ := hspelled
    rw [result_resolve_of_spells htext hspells] at h
    split at h
    · next other himport =>
        cases h
        rcases cases_of_importModule_eq_error himport with ⟨hrelative, hfault⟩ | ⟨-, hcause⟩
        · exact .inr (.inl ⟨moduleName, ⟨text, path, htext, hspells, hrelative⟩, hfault⟩)
        · exact .inl hcause
    · split at h
      · cases h
        exact .inl ⟨_, rfl⟩
      · split at h
        · cases h
        · cases h
          exact .inl ⟨_, rfl⟩
  · rcases result_resolve_of_not_spells modules hspelled with ⟨cause, herror⟩ | ⟨hlong, herror⟩
    · rw [herror] at h
      cases h
      exact .inl ⟨cause, rfl⟩
    · rw [herror] at h
      cases h
      exact .inr (.inr ⟨hlong, rfl⟩)

end Resolution

end Reference

end Conformance
