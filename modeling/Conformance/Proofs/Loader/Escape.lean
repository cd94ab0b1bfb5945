import Conformance.Check
import Conformance.Proofs.Loader.Load
import Conformance.Proofs.Outcome
import Conformance.Proofs.Readers

/-! # Loads that end without a value

A document that cannot be loaded is reported by a fault of its own kind, which a check of several
documents records. Some faults escape: those of a path that cannot be looked up, and those with which
the reader of a document breaks off instead of calling the text malformed. Whatever the readers are,
nothing else escapes, and what escapes ends the check.
-/

namespace Conformance

open Files (System Tree Path)

namespace Loader

/-- The faults other than those of documents with which a load of a path ends. -/
inductive Escape (loader : Loader) (files : System) (path : Path) : Fault → Prop
  | lookup {fault : Fault} (hlookup : files.lookup path = .error fault) :
      Escape loader files path fault
  | read {file : Tree} {fault : Fault} (hfile : files.lookup path = .ok (some file))
      (hfresh : loader.find? path = none) (hbroken : BreaksOff loader.readers path file fault) :
      Escape loader files path fault

variable {loader : Loader} {files : System} {path : Path} {fault : Fault}

/-- A lookup fails for the length of a name or for a directory that may not be entered. -/
theorem category_of_lookup (h : files.lookup path = .error fault) :
    fault.category = .fileSystem := by
  unfold System.lookup at h
  split at h
  · cases h
  split at h
  · cases h
    rfl
  split at h
  · cases h
  · cases h
  · cases h
    rfl
  · cases h
    rfl

/-- What escapes is none of the library's own faults. -/
theorem Escape.foreign (h : Escape loader files path fault) (hreaders : loader.readers.Lawful) :
    fault.category.covered .library = false := by
  cases h with
  | lookup hlookup =>
      rw [category_of_lookup hlookup]
      rfl
  | read _ _ hbroken => exact hbroken.foreign hreaders

/-! ## How a load ends -/

theorem result_load_of_escape (h : Escape loader files path fault) :
    (loader.load files path).1.result = .error fault := by
  rw [result_load, expected]
  cases h with
  | lookup hlookup => rw [hlookup]
  | read hfile hfresh hbroken =>
      simp [hfile, hfresh, hbroken.isFile, valueOf_of_breaksOff hbroken]

theorem ends_load (loader : Loader) (files : System) (path : Path) :
    Ends (fun fault => (∃ cause, fault = .document cause) ∨ Escape loader files path fault)
      (fun _ => True) (loader.load files path).1.result := by
  rw [result_load, expected]
  split
  · exact .error (.inr (.lookup ‹_›))
  · exact .error (.inl ⟨_, rfl⟩)
  · rename_i file hlookup
    split
    · rename_i hfile
      split
      · exact .ok trivial
      · rename_i hfresh
        refine (ends_valueOf hfile).imp (fun fault hfault => ?_) fun _ h => h
        exact hfault.imp (fun ⟨cause, hcause, _⟩ => ⟨cause, hcause⟩) (.read hlookup hfresh)
    · exact .error (.inl ⟨_, rfl⟩)

/-- A load gives a value or reports its document exactly if nothing escapes. -/
theorem reports_iff_not_escape (hreaders : loader.readers.Lawful) :
    ((∃ value, (loader.load files path).1.result = .ok value) ∨
        ∃ cause, (loader.load files path).1.result = .error (.document cause)) ↔
      ¬ ∃ fault, Escape loader files path fault := by
  constructor
  · rintro hends ⟨fault, hescape⟩
    have hload := result_load_of_escape hescape
    rcases hends with ⟨value, hvalue⟩ | ⟨cause, hcause⟩
    · rw [hload] at hvalue
      cases hvalue
    · rw [hload] at hcause
      cases hcause
      exact Bool.noConfusion (hescape.foreign hreaders)
  · intro hnone
    have hends := ends_load loader files path
    cases hload : (loader.load files path).1.result with
    | ok value => exact .inl ⟨value, rfl⟩
    | error fault =>
        rw [hload] at hends
        rcases hends.of_error with ⟨cause, rfl⟩ | hescape
        · exact .inr ⟨cause, rfl⟩
        · exact absurd ⟨fault, hescape⟩ hnone

end Loader

/-! ## Checking several documents -/

namespace Check

/-- What a check says of one document by what its load gave. -/
def verdict (calls : Interpretation) (schema : Value) (document : Path) :
    Except Fault Value → Except Fault CheckResult
  | .ok value => (judge calls schema document value).result
  | .error (.document cause) =>
    .ok ((CheckResult.unchecked document).addError (.str cause.message))
  | .error fault => .error fault

variable (calls : Interpretation) (files : System)

theorem result_checkDocument (schema : Value) (loader : Loader) (document : Path) :
    (checkDocument calls files schema loader document).1.result =
      verdict calls schema document (loader.load files document).1.result := by
  unfold checkDocument
  dsimp only
  split <;> rename_i hload <;> rw [hload]
  · rfl
  · rfl
  · rename_i hother
    unfold verdict
    split
    · rename_i hfault
      cases hfault
    · rename_i hfault
      cases hfault
      exact absurd rfl (hother _)
    · rename_i hfault
      cases hfault
      rfl

theorem snd_checkDocument (schema : Value) (loader : Loader) (document : Path) :
    (checkDocument calls files schema loader document).2 = (loader.load files document).2 := rfl

theorem result_checkEach_cons (schema : Value) (loader : Loader) (document : Path)
    (rest : List Path) :
    (checkEach calls files schema loader (document :: rest)).1.result =
      (do
        let result ← (checkDocument calls files schema loader document).1.result
        let results ←
          (checkEach calls files schema (loader.load files document).2 rest).1.result
        return result :: results) := by
  rw [checkEach, ← snd_checkDocument calls files schema]
  dsimp only
  cases hfirst : (checkDocument calls files schema loader document).1.result with
  | error fault => exact Outcome.result_bind_of_error hfirst _
  | ok result => exact (Outcome.result_bind_of_ok hfirst _).trans (Outcome.result_bind _ _)

/-- Every document gets the verdict on its own load, up to one that ends the check. -/
theorem result_checkEach (schema : Value) (loader : Loader) (documents : List Path) :
    (checkEach calls files schema loader documents).1.result =
      documents.mapM fun document =>
        verdict calls schema document (loader.load files document).1.result := by
  induction documents generalizing loader with
  | nil => rfl
  | cons document rest ih =>
      rw [result_checkEach_cons, result_checkDocument, ih, List.mapM_cons]
      -- The rest is loaded by the loader that has read the first, which gives the same.
      simp only [Loader.result_load_snd_load]

theorem result_checkDocuments (modules : Modules) (loader : Loader) (documents : List Path)
    (reference : Value) :
    (checkDocuments calls files modules loader documents reference).1.result =
      (schemaOf modules reference).result >>= fun schema =>
        documents.mapM fun document =>
          verdict calls schema document (loader.load files document).1.result := by
  unfold checkDocuments
  dsimp only
  split <;> rename_i schema hschema <;> rw [hschema]
  · exact Outcome.result_bind_of_error hschema _
  · rw [Outcome.result_bind, hschema]
    exact result_checkEach calls files schema loader documents

/-- Each load gives a value or reports its document, except where a fault escapes. A check records
what is reported as the document's own error and goes on, until a fault escapes. -/
theorem checkDocuments_reports_unless_escape (modules : Modules) (loader : Loader)
    (hreaders : loader.readers.Lawful) (documents : List Path) (reference : Value) :
    (∀ path,
      ((∃ value, (loader.load files path).1.result = .ok value) ∨
          ∃ cause, (loader.load files path).1.result = .error (.document cause)) ↔
        ¬ ∃ fault, loader.Escape files path fault) ∧
      (∀ path fault, loader.Escape files path fault →
        (loader.load files path).1.result = .error fault ∧
          fault.category.covered .library = false) ∧
      (checkDocuments calls files modules loader documents reference).1.result =
        (schemaOf modules reference).result >>= fun schema =>
          documents.mapM fun document =>
            verdict calls schema document (loader.load files document).1.result := by
  refine ⟨fun path => Loader.reports_iff_not_escape hreaders, fun path fault hescape => ?_, ?_⟩
  · exact ⟨Loader.result_load_of_escape hescape, hescape.foreign hreaders⟩
  · exact result_checkDocuments calls files modules loader documents reference

/-- Does a reading break off with a fault? -/
def breaksOffWith (fault : Fault) : Except Refusal Value → Bool
  | .error (.brokenOff other) => other == fault
  | _ => false

theorem eq_error_of_breaksOffWith {fault : Fault} {reading : Except Refusal Value}
    (h : breaksOffWith fault reading = true) : reading = .error (.brokenOff fault) := by
  unfold breaksOffWith at h
  split at h
  · rw [eq_of_beq h]
  · cases h

/-- A document with the text `!!bool x`. -/
def untrue : Tree := .file [33, 33, 98, 111, 111, 108, 32, 120]

/-- A directory with that document, and one with a document that may not be entered. -/
def refused : Tree :=
  .directory .full
    [("a.yaml", untrue), ("d", .directory ⟨true, false⟩ [("b.yaml", .file [])])]

theorem escape_untrue :
    (Loader.new .null true).Escape refused (.ofText "a.yaml") (.unknownKey "'x'") := by
  have hbroken : breaksOffWith (.unknownKey "'x'") (Readers.standard.yaml
      (Text.unifyNewlines ['!', '!', 'b', 'o', 'o', 'l', ' ', 'x'])) = true := by decide +kernel
  have hread : Loader.BreaksOff .standard (.ofText "a.yaml") untrue (.unknownKey "'x'") :=
    .yaml rfl rfl (eq_error_of_breaksOffWith hbroken)
  have hfile : (System.ofWorking refused).lookup (.ofText "a.yaml") = .ok (some untrue) := rfl
  exact .read hfile rfl hread

/-- No value of the tag is written so, and the refusal ends the load; so does a directory that may
not be entered. -/
theorem checkDocuments_reports_unless_escape_refused :
    (Loader.new .null true).readers.Lawful ∧
      (Loader.new .null true).Escape refused (.ofText "a.yaml") (.unknownKey "'x'") ∧
      ((Loader.new .null true).load refused (.ofText "a.yaml")).1.result =
        .error (.unknownKey "'x'") ∧
      ((Loader.new .null true).load refused (.ofText "d/b.yaml")).1.result =
        .error (.permissionDenied (Text.quoted "d/b.yaml")) := by
  have hreaders : (Loader.new .null true).readers.Lawful := Readers.standard_lawful
  have hreports := checkDocuments_reports_unless_escape standard refused []
    (Loader.new .null true) hreaders [] .null
  have hdenied : (System.ofWorking refused).lookup (.ofText "d/b.yaml") =
      .error (.permissionDenied (Text.quoted "d/b.yaml")) := rfl
  have hclosed : (Loader.new .null true).Escape refused (.ofText "d/b.yaml")
      (.permissionDenied (Text.quoted "d/b.yaml")) := .lookup hdenied
  exact ⟨hreaders, escape_untrue, (hreports.2.1 _ _ escape_untrue).1,
    (hreports.2.1 _ _ hclosed).1⟩

end Check

end Conformance
