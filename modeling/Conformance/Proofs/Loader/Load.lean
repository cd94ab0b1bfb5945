import Conformance.Loader
import Conformance.Proofs.Ending

/-! # One load

What a load gives is decided by the files, and where they hold a file by the value that the loader
has kept for the path, if it has kept one. What it leaves kept for a path is what it had, else what
the load has read from that path.
-/

namespace Conformance

open Files (System Tree Path)

theorem Document.valueOf_file (readers : Readers) (path : Path) (bytes : List UInt8) :
    valueOf readers path (.file bytes) = parse readers path bytes := rfl

namespace Loader

/-- What a load gives when a value may be remembered for the path. -/
def expected (readers : Readers) (files : System) (remembered : Option Value) (path : Path) :
    Except Fault Value :=
  match files.lookup path with
  | .error fault => .error fault
  | .ok none => .error (.document (.notFound path.text))
  | .ok (some tree) =>
    if tree.isFile then
      match remembered with
      | some value => .ok value
      | none => Document.valueOf readers path tree
    else .error (.document (.notFile path.text))

theorem expected_eq_bind (readers : Readers) (files : System) (remembered : Option Value)
    (path : Path) :
    expected readers files remembered path =
      (Document.fileAt files path).bind fun file =>
        match remembered with
        | some value => .ok value
        | none => Document.valueOf readers path file := by
  unfold expected Document.fileAt
  cases files.lookup path with
  | error fault => rfl
  | ok found =>
      cases found with
      | none => rfl
      | some tree => cases hfile : tree.isFile <;> simp [bind, Except.bind, pure, Except.pure, hfile]

variable {readers : Readers} {files : System} {path : Path}

/-- A value that was read may be remembered as long as the file is there. -/
theorem expected_of_read {value : Value} (h : expected readers files none path = .ok value) :
    expected readers files (some value) path = .ok value := by
  unfold expected at h ⊢
  split at h
  · cases h
  · cases h
  · split at h
    · next hfile => exact if_pos hfile
    · cases h

theorem result_load (loader : Loader) (files : System) (path : Path) :
    (loader.load files path).1.result =
      expected loader.readers files (loader.find? path) path := by
  rw [expected_eq_bind, load]
  cases Document.fileAt files path with
  | error fault => rfl
  | ok file =>
      cases loader.find? path with
      | some value => rfl
      | none =>
          cases hread : Document.valueOf loader.readers path file <;>
            simp [hread, Except.bind, announce, Outcome.log, Outcome.bind, Outcome.ofExcept]

/-- A load keeps what it gives, unless the value was kept already. -/
theorem snd_load (loader : Loader) (files : System) (path : Path) :
    (loader.load files path).2 =
      match loader.find? path, expected loader.readers files (loader.find? path) path with
      | none, .ok value => loader.keep path value
      | _, _ => loader := by
  rw [expected_eq_bind, load]
  cases Document.fileAt files path with
  | error fault => cases loader.find? path <;> rfl
  | ok file =>
      cases loader.find? path with
      | some value => rfl
      | none =>
          cases hread : Document.valueOf loader.readers path file <;> simp [hread, Except.bind]

/-! ## What is read -/

inductive BreaksOff (readers : Readers) (path : Path) : Tree → Fault → Prop
  | json {bytes : List UInt8} {text : List Char} {fault : Fault}
      (htext : Text.decodeUtf8 bytes = .ok text) (hsuffix : Document.isJson path = true)
      (hread : readers.json (Text.unifyNewlines text) = .error (.brokenOff fault)) :
      BreaksOff readers path (.file bytes) fault
  | yaml {bytes : List UInt8} {text : List Char} {fault : Fault}
      (htext : Text.decodeUtf8 bytes = .ok text) (hsuffix : Document.isJson path = false)
      (hread : readers.yaml (Text.unifyNewlines text) = .error (.brokenOff fault)) :
      BreaksOff readers path (.file bytes) fault

theorem BreaksOff.isFile {tree : Tree} {fault : Fault}
    (h : BreaksOff readers path tree fault) : tree.isFile = true := by
  cases h <;> rfl

theorem BreaksOff.foreign {tree : Tree} {fault : Fault} (h : BreaksOff readers path tree fault)
    (hreaders : readers.Lawful) : fault.category.covered .library = false := by
  cases h with
  | json _ _ hread => exact hreaders.json_foreign hread
  | yaml _ _ hread => exact hreaders.yaml_foreign hread

theorem valueOf_of_breaksOff {tree : Tree} {fault : Fault} (h : BreaksOff readers path tree fault) :
    Document.valueOf readers path tree = .error fault := by
  cases h with
  | json htext hsuffix hread =>
      simp only [Document.valueOf_file, Document.parse, htext, Document.readText]
      rw [if_pos hsuffix, hread]
      rfl
  | yaml htext hsuffix hread =>
      simp only [Document.valueOf_file, Document.parse, htext, Document.readText]
      rw [if_neg (Bool.eq_false_iff.1 hsuffix), hread]
      rfl

/-- A refusal that does not break off the reading is a fault of the document. -/
theorem ends_toFault {may : Fault → Prop} {invalid : String → DocumentFault}
    {reading : Except Refusal Value} (hmalformed : ∀ problem, may (.document (invalid problem)))
    (hbroken : ∀ fault, reading = .error (.brokenOff fault) → may fault) :
    Ends may (fun _ => True) (reading.mapError (Refusal.toFault invalid)) := by
  cases reading with
  | ok value => exact .ok trivial
  | error refusal =>
      cases refusal with
      | malformed problem => exact .error (hmalformed problem)
      | brokenOff fault => exact .error (hbroken fault rfl)

/-- A file that gives no value is reported by a fault of documents, though not as no file, unless
its reader breaks off. -/
theorem ends_valueOf {tree : Tree} (hfile : tree.isFile = true) :
    Ends (fun fault =>
        (∃ cause, fault = .document cause ∧ ∀ text, cause ≠ .notFile text) ∨
          BreaksOff readers path tree fault)
      (fun _ => True) (Document.valueOf readers path tree) := by
  cases tree with
  | pipe => cases hfile
  | directory access entries => cases hfile
  | unreadable fault => exact .error (.inl ⟨_, rfl, by simp⟩)
  | file bytes =>
      rw [Document.valueOf_file]
      unfold Document.parse
      split
      · exact .error (.inl ⟨_, rfl, by simp⟩)
      rename_i text htext
      unfold Document.readText
      split
      · rename_i hsuffix
        exact ends_toFault (fun _ => .inl ⟨_, rfl, by simp⟩)
          fun fault hread => .inr (.json htext hsuffix hread)
      · rename_i hsuffix
        exact ends_toFault (fun _ => .inl ⟨_, rfl, by simp⟩)
          fun fault hread => .inr (.yaml htext (Bool.eq_false_iff.2 hsuffix) hread)

/-! ## What is kept -/

theorem find?_of_not_keeps {loader : Loader} (h : loader.keeps.truthy = false) (path : Path) :
    loader.find? path = none := by
  simp [find?, h]

theorem find?_clear (loader : Loader) (path : Path) : loader.clear.find? path = none := by
  unfold find? clear
  split <;> rfl

theorem find?_keep {loader : Loader} (h : loader.keeps.truthy = true) (path read : Path)
    (value : Value) :
    (loader.keep read value).find? path =
      if read = path then some value else loader.find? path := by
  by_cases hpath : read = path <;> simp [find?, keep, h, hpath]

theorem keeps_keep (loader : Loader) (path : Path) (value : Value) :
    (loader.keep path value).keeps = loader.keeps := by
  unfold keep
  split <;> rfl

theorem readers_keep (loader : Loader) (path : Path) (value : Value) :
    (loader.keep path value).readers = loader.readers := by
  unfold keep
  split <;> rfl

theorem readers_load (loader : Loader) (files : System) (path : Path) :
    (loader.load files path).2.readers = loader.readers := by
  rw [snd_load]
  split
  · exact readers_keep loader path _
  · rfl

theorem keeps_load (loader : Loader) (files : System) (path : Path) :
    (loader.load files path).2.keeps = loader.keeps := by
  rw [snd_load]
  split
  · exact keeps_keep loader path _
  · rfl

/-- A kept value stays; beside it a load keeps only what it has read itself. -/
theorem find?_load {loader : Loader} (h : loader.keeps.truthy = true) (files : System)
    (path read : Path) :
    (loader.load files read).2.find? path =
      (loader.find? path).or
        (if read = path then (loader.load files read).1.result.toOption else none) := by
  rw [result_load, snd_load]
  by_cases hpath : read = path
  · subst hpath
    cases hfound : loader.find? read with
    | some value => simp [hfound]
    | none =>
        cases expected loader.readers files none read <;> simp [find?_keep h, hfound, Except.toOption]
  · rw [if_neg hpath, Option.or_none]
    split
    · rw [find?_keep h, if_neg hpath]
    · rfl

/-- Loads change nothing for each other while the files stay. -/
theorem result_load_snd_load (loader : Loader) (files : System) (path read : Path) :
    ((loader.load files read).2.load files path).1.result =
      (loader.load files path).1.result := by
  rw [result_load, result_load, readers_load]
  cases hkeeps : loader.keeps.truthy with
  | false =>
      rw [find?_of_not_keeps hkeeps, find?_of_not_keeps (by rw [keeps_load, hkeeps])]
  | true =>
      rw [find?_load hkeeps, result_load]
      by_cases hpath : read = path
      · subst hpath
        cases hfound : loader.find? read with
        | some value => rfl
        | none =>
            cases hread : expected loader.readers files none read with
            | error fault => simpa [Except.toOption] using hread
            | ok value => simpa [Except.toOption] using expected_of_read hread
      · rw [if_neg hpath, Option.or_none]

end Loader

end Conformance
