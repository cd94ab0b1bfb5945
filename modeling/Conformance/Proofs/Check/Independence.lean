import Conformance.Proofs.Loader.Escape
import Mathlib.Data.List.Forall2
import Mathlib.Data.List.OfFn
import Mathlib.Logic.Equiv.Basic

/-! # Documents are checked independently

The loader is handed from one document to the next, and yet no result depends on its neighbours:
what has been kept meanwhile is what a load gives anyway. So a check of two lists is the check of
the first and then of the second, and another order of the documents gives the same results in that
order. What is kept in the end does not depend on the order either.
-/

namespace Conformance

open Files (System Path)

namespace Loader

/-- The value that is kept for a path, whether or not it is in use. -/
def kept? (loader : Loader) (path : Path) : Option Value :=
  (loader.kept.find? (·.1 == path)).map (·.2)

theorem find?_of_keeps {loader : Loader} (h : loader.keeps.truthy = true) (path : Path) :
    loader.find? path = loader.kept? path := by
  rw [find?, if_pos h, kept?]

theorem snd_load_of_not_keeps {loader : Loader} (h : loader.keeps.truthy = false) (files : System)
    (path : Path) : (loader.load files path).2 = loader := by
  rw [snd_load]
  split
  · rw [keep, if_neg (by simp [h])]
  · rfl

end Loader

/-- A verdict and no problem, or one problem and no verdict. -/
inductive CheckResult.Decided : CheckResult → Prop
  | judged (file : Path) (b : Bool) : Decided ⟨file, .bool b, []⟩
  | prevented (file : Path) (text : String) : Decided ⟨file, .null, [.str text]⟩

namespace Check

/-- A result is about its document and decided. -/
structure Settles (document : Path) (result : CheckResult) : Prop where
  file_eq : result.file = document
  decided : result.Decided

theorem settles_of_judge {calls : Interpretation} {schema value : Value} {document : Path}
    {result : CheckResult} (h : (judge calls schema document value).result = .ok result) :
    Settles document result := by
  obtain ⟨valid, -, h⟩ := Outcome.result_bind_eq_ok.1 h
  obtain ⟨-, -, h⟩ := Outcome.result_bind_eq_ok.1 h
  cases h
  exact ⟨rfl, .judged document valid⟩

theorem settles_of_verdict {calls : Interpretation} {schema : Value} {document : Path}
    {loaded : Except Fault Value} {result : CheckResult}
    (h : verdict calls schema document loaded = .ok result) : Settles document result := by
  unfold verdict at h
  split at h
  · exact settles_of_judge h
  · cases h
    exact ⟨rfl, .prevented document _⟩
  · cases h

theorem map_file_of_settles {documents : List Path} {results : List CheckResult}
    (h : List.Forall₂ Settles documents results) : results.map (·.file) = documents := by
  induction h with
  | nil => rfl
  | cons hfirst _ ih => rw [List.map_cons, hfirst.file_eq, ih]

theorem decided_of_settles {documents : List Path} {results : List CheckResult}
    (h : List.Forall₂ Settles documents results) : ∀ result ∈ results, result.Decided := by
  induction h with
  | nil => simp
  | cons hfirst _ ih => exact List.forall_mem_cons.2 ⟨hfirst.decided, ih⟩

section Threading

variable (calls : Interpretation) (files : System) (schema : Value)

theorem snd_checkEach_cons_of_ok {loader : Loader} {document : Path} {result : CheckResult}
    (h : (checkDocument calls files schema loader document).1.result = .ok result)
    (rest : List Path) :
    (checkEach calls files schema loader (document :: rest)).2 =
      (checkEach calls files schema (loader.load files document).2 rest).2 := by
  rw [checkEach, ← snd_checkDocument calls files schema]
  dsimp only
  rw [h]

theorem snd_checkEach_cons_of_error {loader : Loader} {document : Path} {fault : Fault}
    (h : (checkDocument calls files schema loader document).1.result = .error fault)
    (rest : List Path) :
    (checkEach calls files schema loader (document :: rest)).2 =
      (loader.load files document).2 := by
  rw [checkEach, ← snd_checkDocument calls files schema]
  dsimp only
  rw [h]

/-- A check that gives results has given one for its first document and gone on. -/
theorem ok_of_checkEach_cons {loader : Loader} {document : Path} {rest : List Path}
    {results : List CheckResult}
    (h : (checkEach calls files schema loader (document :: rest)).1.result = .ok results) :
    ∃ result others, results = result :: others ∧
      (checkDocument calls files schema loader document).1.result = .ok result ∧
      (checkEach calls files schema (loader.load files document).2 rest).1.result = .ok others := by
  rw [result_checkEach_cons] at h
  cases hfirst : (checkDocument calls files schema loader document).1.result with
  | error fault => simp [hfirst, bind, Except.bind] at h
  | ok result =>
      cases hrest : (checkEach calls files schema (loader.load files document).2 rest).1.result with
      | error fault => simp [hfirst, hrest, bind, Except.bind] at h
      | ok others =>
          simp only [hfirst, hrest, bind, Except.bind, pure, Except.pure, Except.ok.injEq] at h
          exact ⟨result, others, h.symm, rfl, rfl⟩

theorem settles_of_checkEach {loader : Loader} {documents : List Path}
    {results : List CheckResult}
    (h : (checkEach calls files schema loader documents).1.result = .ok results) :
    List.Forall₂ Settles documents results := by
  induction documents generalizing loader results with
  | nil =>
      cases h
      exact .nil
  | cons document rest ih =>
      obtain ⟨result, others, rfl, hfirst, hrest⟩ := ok_of_checkEach_cons calls files schema h
      rw [result_checkDocument] at hfirst
      exact .cons (settles_of_verdict hfirst) (ih hrest)

/-- A check changes nothing for later loads, not even one that ends with a fault. -/
theorem result_load_snd_checkEach (loader : Loader) (documents : List Path) (path : Path) :
    ((checkEach calls files schema loader documents).2.load files path).1.result =
      (loader.load files path).1.result := by
  induction documents generalizing loader with
  | nil => rfl
  | cons document rest ih =>
      cases hfirst : (checkDocument calls files schema loader document).1.result with
      | error fault =>
          rw [snd_checkEach_cons_of_error calls files schema hfirst,
            Loader.result_load_snd_load]
      | ok result =>
          rw [snd_checkEach_cons_of_ok calls files schema hfirst, ih,
            Loader.result_load_snd_load]

theorem snd_checkEach_append {loader : Loader} {first : List Path} {results : List CheckResult}
    (h : (checkEach calls files schema loader first).1.result = .ok results)
    (second : List Path) :
    (checkEach calls files schema loader (first ++ second)).2 =
      (checkEach calls files schema (checkEach calls files schema loader first).2 second).2 := by
  induction first generalizing loader results with
  | nil => rfl
  | cons document rest ih =>
      obtain ⟨result, others, -, hfirst, hrest⟩ := ok_of_checkEach_cons calls files schema h
      rw [List.cons_append, snd_checkEach_cons_of_ok calls files schema hfirst,
        snd_checkEach_cons_of_ok calls files schema hfirst, ih hrest]

/-- The results are what the loads by the first loader give, one by one. -/
theorem result_checkEach_eq_ok {loader : Loader} {documents : List Path}
    {results : List CheckResult} :
    (checkEach calls files schema loader documents).1.result = .ok results ↔
      (documents.map fun document =>
        verdict calls schema document (loader.load files document).1.result) =
          results.map .ok := by
  rw [result_checkEach, mapM_eq_ok_iff]

theorem snd_checkEach_of_not_keeps {loader : Loader} (h : loader.keeps.truthy = false)
    (documents : List Path) : (checkEach calls files schema loader documents).2 = loader := by
  induction documents with
  | nil => rfl
  | cons document rest ih =>
      cases hfirst : (checkDocument calls files schema loader document).1.result with
      | error fault =>
          rw [snd_checkEach_cons_of_error calls files schema hfirst,
            Loader.snd_load_of_not_keeps h]
      | ok result =>
          rw [snd_checkEach_cons_of_ok calls files schema hfirst,
            Loader.snd_load_of_not_keeps h, ih]

theorem keeps_snd_checkEach (loader : Loader) (documents : List Path) :
    (checkEach calls files schema loader documents).2.keeps = loader.keeps := by
  induction documents generalizing loader with
  | nil => rfl
  | cons document rest ih =>
      cases hfirst : (checkDocument calls files schema loader document).1.result with
      | error fault =>
          rw [snd_checkEach_cons_of_error calls files schema hfirst, Loader.keeps_load]
      | ok result =>
          rw [snd_checkEach_cons_of_ok calls files schema hfirst, ih, Loader.keeps_load]

/-- After a check a path has what was kept for it, else what its document gave. -/
theorem find?_snd_checkEach {loader : Loader} (hkeeps : loader.keeps.truthy = true)
    {documents : List Path} {results : List CheckResult}
    (h : (checkEach calls files schema loader documents).1.result = .ok results) (path : Path) :
    (checkEach calls files schema loader documents).2.find? path =
      (loader.find? path).or
        (if path ∈ documents then (loader.load files path).1.result.toOption else none) := by
  induction documents generalizing loader results with
  | nil => simp [checkEach]
  | cons document rest ih =>
      obtain ⟨result, others, -, hfirst, hrest⟩ := ok_of_checkEach_cons calls files schema h
      have hkeeps' : (loader.load files document).2.keeps.truthy = true := by
        rwa [Loader.keeps_load]
      rw [snd_checkEach_cons_of_ok calls files schema hfirst, ih hkeeps' hrest,
        Loader.find?_load hkeeps, Loader.result_load_snd_load]
      by_cases hpath : document = path
      · subst hpath
        cases loader.find? document <;>
          cases (loader.load files document).1.result.toOption <;> simp
      · simp [hpath, Ne.symm hpath]

/-- What is kept after a check depends on which documents were checked, not on their order. -/
theorem kept?_snd_checkEach_congr {loader : Loader} {documents others : List Path}
    (hmem : ∀ path, path ∈ documents ↔ path ∈ others) {results results' : List CheckResult}
    (h : (checkEach calls files schema loader documents).1.result = .ok results)
    (h' : (checkEach calls files schema loader others).1.result = .ok results') (path : Path) :
    (checkEach calls files schema loader documents).2.kept? path =
      (checkEach calls files schema loader others).2.kept? path := by
  cases hkeeps : loader.keeps.truthy with
  | false =>
      rw [snd_checkEach_of_not_keeps calls files schema hkeeps,
        snd_checkEach_of_not_keeps calls files schema hkeeps]
  | true =>
      have hfinal : ∀ documents,
          (checkEach calls files schema loader documents).2.keeps.truthy = true := by
        intro documents
        rwa [keeps_snd_checkEach]
      rw [← Loader.find?_of_keeps (hfinal documents), ← Loader.find?_of_keeps (hfinal others),
        find?_snd_checkEach calls files schema hkeeps h,
        find?_snd_checkEach calls files schema hkeeps h', if_congr (hmem path) rfl rfl]

end Threading

/-! ## Checks with a reference -/

section Reference

variable (calls : Interpretation) (files : System) (modules : Modules) (reference : Value)

theorem snd_checkDocuments (loader : Loader) (documents : List Path) :
    (checkDocuments calls files modules loader documents reference).2 =
      match (schemaOf modules reference).result with
      | .ok schema => (checkEach calls files schema loader documents).2
      | .error _ => loader := by
  unfold checkDocuments
  dsimp only
  cases (schemaOf modules reference).result <;> rfl

theorem result_checkDocuments_eq_ok {loader : Loader} {documents : List Path}
    {results : List CheckResult} :
    (checkDocuments calls files modules loader documents reference).1.result = .ok results ↔
      ∃ schema, (schemaOf modules reference).result = .ok schema ∧
        (checkEach calls files schema loader documents).1.result = .ok results := by
  rw [result_checkDocuments]
  cases (schemaOf modules reference).result with
  | error fault => simp [bind, Except.bind]
  | ok schema => simp [bind, Except.bind, result_checkEach]

theorem result_load_snd_checkDocuments (loader : Loader) (documents : List Path) (path : Path) :
    ((checkDocuments calls files modules loader documents reference).2.load files path).1.result =
      (loader.load files path).1.result := by
  rw [snd_checkDocuments]
  split
  · exact result_load_snd_checkEach calls files _ loader documents path
  · rfl

/-- An earlier check has no influence on a later one. -/
theorem result_checkDocuments_snd (loader : Loader) (first second : List Path) :
    (checkDocuments calls files modules
        (checkDocuments calls files modules loader first reference).2 second reference).1.result =
      (checkDocuments calls files modules loader second reference).1.result := by
  simp only [result_checkDocuments, result_load_snd_checkDocuments]

theorem result_checkDocuments_append (loader : Loader) (first second : List Path)
    (results : List CheckResult) :
    (checkDocuments calls files modules loader (first ++ second) reference).1.result =
        .ok results ↔
      ∃ here there,
        (checkDocuments calls files modules loader first reference).1.result = .ok here ∧
        (checkDocuments calls files modules loader second reference).1.result = .ok there ∧
        results = here ++ there := by
  simp only [result_checkDocuments_eq_ok, result_checkEach_eq_ok, List.map_append]
  constructor
  · rintro ⟨schema, hschema, hboth⟩
    obtain ⟨here, there, rfl, hhere, hthere⟩ := List.map_eq_append_iff.1 hboth.symm
    exact ⟨here, there, ⟨schema, hschema, hhere.symm⟩, ⟨schema, hschema, hthere.symm⟩, rfl⟩
  · rintro ⟨here, there, ⟨schema, hschema, hhere⟩, ⟨schema', hschema', hthere⟩, rfl⟩
    rw [hschema] at hschema'
    cases hschema'
    exact ⟨schema, hschema, by rw [hhere, hthere, List.map_append]⟩

theorem snd_checkDocuments_append {loader : Loader} {first second : List Path}
    {results : List CheckResult}
    (h : (checkDocuments calls files modules loader (first ++ second) reference).1.result =
      .ok results) :
    (checkDocuments calls files modules loader (first ++ second) reference).2 =
      (checkDocuments calls files modules
        (checkDocuments calls files modules loader first reference).2 second reference).2 := by
  obtain ⟨here, there, hhere, -, -⟩ :=
    (result_checkDocuments_append calls files modules reference loader first second results).1 h
  obtain ⟨schema, hschema, hfirst⟩ :=
    (result_checkDocuments_eq_ok calls files modules reference).1 hhere
  simp only [snd_checkDocuments, hschema]
  exact snd_checkEach_append calls files schema hfirst second

theorem settles_of_checkDocuments {loader : Loader} {documents : List Path}
    {results : List CheckResult}
    (h : (checkDocuments calls files modules loader documents reference).1.result =
      .ok results) : List.Forall₂ Settles documents results := by
  obtain ⟨schema, -, h⟩ := (result_checkDocuments_eq_ok calls files modules reference).1 h
  exact settles_of_checkEach calls files schema h

/-! ## Other orders -/

/-- In another order each document has the result that it had. -/
theorem result_checkDocuments_ofFn_comp {n : Nat} (loader : Loader) (documents : Fin n → Path)
    (σ : Equiv.Perm (Fin n)) (results : Fin n → CheckResult) :
    (checkDocuments calls files modules loader (.ofFn (documents ∘ σ)) reference).1.result =
        .ok (.ofFn (results ∘ σ)) ↔
      (checkDocuments calls files modules loader (.ofFn documents) reference).1.result =
        .ok (.ofFn results) := by
  simp only [result_checkDocuments_eq_ok, result_checkEach_eq_ok, List.map_ofFn, List.ofFn_inj]
  refine exists_congr fun schema => and_congr_right fun _ => ?_
  rw [← Function.comp_assoc, ← Function.comp_assoc]
  exact σ.surjective.right_cancellable

theorem exists_ofFn_of_length {n : Nat} {documents : Fin n → Path} {results : List CheckResult}
    (h : List.Forall₂ Settles (.ofFn documents) results) :
    ∃ outcomes : Fin n → CheckResult, results = .ofFn outcomes := by
  have hlength : results.length = n := by
    rw [← h.length_eq, List.length_ofFn]
  subst hlength
  exact ⟨results.get, (List.ofFn_get results).symm⟩

theorem ok_iff_of_comp {n : Nat} (loader : Loader) (documents : Fin n → Path)
    (σ : Equiv.Perm (Fin n)) :
    (∃ results, (checkDocuments calls files modules loader (.ofFn (documents ∘ σ))
        reference).1.result = .ok results) ↔
      ∃ results, (checkDocuments calls files modules loader (.ofFn documents)
        reference).1.result = .ok results := by
  constructor
  · rintro ⟨results, h⟩
    obtain ⟨outcomes, rfl⟩ :=
      exists_ofFn_of_length (settles_of_checkDocuments calls files modules reference h)
    have hback : outcomes = (outcomes ∘ σ.symm) ∘ σ := by
      rw [Function.comp_assoc, Equiv.symm_comp_self, Function.comp_id]
    rw [hback] at h
    exact ⟨_, (result_checkDocuments_ofFn_comp calls files modules reference loader documents σ
      _).1 h⟩
  · rintro ⟨results, h⟩
    obtain ⟨outcomes, rfl⟩ :=
      exists_ofFn_of_length (settles_of_checkDocuments calls files modules reference h)
    exact ⟨_, (result_checkDocuments_ofFn_comp calls files modules reference loader documents σ
      outcomes).2 h⟩

/-- What the loaders of two checks of the same documents keep, whichever order they have. -/
theorem kept?_snd_checkDocuments_congr {loader : Loader} {documents others : List Path}
    (hmem : ∀ path, path ∈ documents ↔ path ∈ others) {results results' : List CheckResult}
    (h : (checkDocuments calls files modules loader documents reference).1.result = .ok results)
    (h' : (checkDocuments calls files modules loader others reference).1.result = .ok results')
    (path : Path) :
    (checkDocuments calls files modules loader documents reference).2.kept? path =
      (checkDocuments calls files modules loader others reference).2.kept? path := by
  obtain ⟨schema, hschema, h⟩ := (result_checkDocuments_eq_ok calls files modules reference).1 h
  obtain ⟨schema', hschema', h'⟩ :=
    (result_checkDocuments_eq_ok calls files modules reference).1 h'
  rw [hschema] at hschema'
  cases hschema'
  simp only [snd_checkDocuments, hschema]
  exact kept?_snd_checkEach_congr calls files schema hmem h h' path

/-- A check of two lists gives results exactly if the check of the first does and, with the loader
that this leaves, the check of the second; it gives those of both and leaves the same loader. Each
document has one result, a verdict or one problem. Documents in another order have their results in
that order, and the same values are kept. -/
theorem checkDocuments_independent (loader : Loader) :
    (∀ first second,
      let here := checkDocuments calls files modules loader first reference
      let there := checkDocuments calls files modules here.2 second reference
      let both := checkDocuments calls files modules loader (first ++ second) reference
      there.1.result =
          (checkDocuments calls files modules loader second reference).1.result ∧
        (∀ results, both.1.result = .ok results ↔
          ∃ rs ss, here.1.result = .ok rs ∧ there.1.result = .ok ss ∧ results = rs ++ ss) ∧
        ∀ results, both.1.result = .ok results → both.2 = there.2) ∧
      (∀ documents results,
        (checkDocuments calls files modules loader documents reference).1.result =
          .ok results → List.Forall₂ Settles documents results) ∧
      ∀ (n : Nat) (documents : Fin n → Path) (σ : Equiv.Perm (Fin n)),
        let before := checkDocuments calls files modules loader (.ofFn documents) reference
        let after :=
          checkDocuments calls files modules loader (.ofFn (documents ∘ σ)) reference
        ((∃ results, after.1.result = .ok results) ↔ ∃ results, before.1.result = .ok results) ∧
          ∀ results : Fin n → CheckResult, before.1.result = .ok (.ofFn results) →
            after.1.result = .ok (.ofFn (results ∘ σ)) ∧
              ∀ path, after.2.kept? path = before.2.kept? path := by
  refine ⟨fun first second => ⟨?_, fun results => ?_, fun results h => ?_⟩,
    fun documents results h => ?_, fun n documents σ => ⟨?_, fun results h => ?_⟩⟩
  · exact result_checkDocuments_snd calls files modules reference loader first second
  · rw [result_checkDocuments_append, result_checkDocuments_snd]
  · exact snd_checkDocuments_append calls files modules reference h
  · exact settles_of_checkDocuments calls files modules reference h
  · exact ok_iff_of_comp calls files modules reference loader documents σ
  · have hafter := (result_checkDocuments_ofFn_comp calls files modules reference loader documents
      σ results).2 h
    have hmem : ∀ path, path ∈ List.ofFn (documents ∘ σ) ↔ path ∈ List.ofFn documents := by
      intro path
      rw [List.mem_ofFn, List.mem_ofFn]
      exact (σ.surjective.exists (p := fun i => documents i = path)).symm
    exact ⟨hafter, kept?_snd_checkDocuments_congr calls files modules reference hmem hafter h⟩

end Reference

/-- A document that says `1`, and one that is not there. -/
def present : Fin 2 → Path := fun i => .ofText (if i = 0 then "a.json" else "b.json")

def presentResults : Fin 2 → CheckResult := fun i =>
  if i = 0 then { CheckResult.unchecked (present i) with valid := .bool true }
  else (CheckResult.unchecked (present i)).addError (.str "Document not found: b.json")

/-- The check of the documents, in an order, against the tag of numbers. -/
def checkPresent (order : Equiv.Perm (Fin 2)) : Outcome (List CheckResult) × Loader :=
  checkDocuments standard ⟨.directory .full [("a.json", .file [49])], []⟩
    [⟨"m", some [("S", .str "number")]⟩] (.new .null true) (.ofFn (present ∘ order)) (.str "m:S")

theorem result_checkPresent :
    (checkPresent (.refl _)).1.result = .ok (.ofFn presentResults) := rfl

/-- In the other order the results are exchanged, and the value that was read is kept again. -/
theorem checkDocuments_independent_exchanged :
    (checkPresent (.refl _)).1.result = .ok (.ofFn presentResults) ∧
      (checkPresent (Equiv.swap 0 1)).1.result =
        .ok (.ofFn (presentResults ∘ Equiv.swap 0 1)) ∧
      (checkPresent (Equiv.swap 0 1)).2.kept? (present 0) = some (.int 1) := by
  have hresults := result_checkPresent
  have hkept : (checkPresent (.refl _)).2.kept? (present 0) = some (.int 1) := rfl
  have hother := ((checkDocuments_independent _ _ _ _ _).2.2 2 present (Equiv.swap 0 1)).2
    presentResults hresults
  exact ⟨hresults, hother.1, (hother.2 (present 0)).trans hkept⟩

end Check

end Conformance
