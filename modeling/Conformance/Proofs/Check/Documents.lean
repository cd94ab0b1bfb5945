import Conformance.Check
import Conformance.Proofs.Check.Search
import Conformance.Proofs.Files.Place
import Conformance.Proofs.Loader.Load
import Conformance.Proofs.Outcome
import Conformance.Proofs.Readers

/-! # What is found

A path that leads to a regular file stands for itself. A path that leads to a directory stands for
all below it that is named like a document, whatever it is: directories and pipes are found as
well, and reported later as no files. Paths that lead nowhere, or to a pipe, stand for nothing.
-/

namespace Conformance

open Files (Path System Tree)

namespace Files

def IsFile (files : System) (path : Path) : Prop :=
  ∃ tree, files.lookup path = .ok (some tree) ∧ tree.isFile = true

def LiesBelow (files : System) (directory place : Path) (inner : Tree) : Prop :=
  ∃ tree names, files.lookup directory = .ok (some tree) ∧ Tree.Lies inner tree names ∧
    place = directory.extend names

def EndsIn (place : Path) (ending : String) : Prop :=
  ∃ name, place.names.getLast? = some name ∧ ending.toList <:+ name.toList

/-- A path leads to what lies there, if it can be looked up at all. -/
theorem LiesBelow.lookup {files : System} {inner : Tree} {directory place : Path} {found : Option Tree}
    (h : LiesBelow files directory place inner) (hfiles : files.Lawful)
    (hplace : files.lookup place = .ok found) : found = some inner := by
  obtain ⟨tree, names, hdirectory, hlies, rfl⟩ := h
  exact System.lookup_extend hfiles hdirectory hlies hplace

end Files

namespace Check

open Files (EndsIn IsFile LiesBelow)

theorem hasDocumentName_iff {place : Path} :
    hasDocumentName place = true ↔ ∃ ending ∈ endings, EndsIn place ending := by
  unfold hasDocumentName EndsIn
  cases place.names.getLast? with
  | none => simp
  | some name => simp [isDocumentName]

/-- What a path stands for that leads to something found. -/
def documentsIn (path : Path) : Option Tree → List Path
  | none => []
  | some tree =>
    if tree.isFile then [path] else (tree.pathsBelow path).filter hasDocumentName

theorem result_documentsAt (files : System) (path : Path) :
    (documentsAt files path).result = (files.lookup path).map (documentsIn path) := by
  unfold documentsAt
  cases files.lookup path with
  | error fault => rfl
  | ok found =>
      cases found with
      | none => rfl
      | some tree => cases tree <;> rfl

/-- A place is among those that a path stands for. -/
def StandsFor (files : System) (path place : Path) : Prop :=
  ∃ found, files.lookup path = .ok found ∧ place ∈ documentsIn path found

theorem mem_documentsIn {path place : Path} {tree : Tree} :
    place ∈ documentsIn path (some tree) ↔
      place = path ∧ tree.isFile = true ∨
        (∃ inner names, Tree.Lies inner tree names ∧ place = path.extend names) ∧
          hasDocumentName place = true := by
  rw [← Tree.mem_pathsBelow]
  cases tree with
  | file bytes => simp [documentsIn, Tree.isFile, Tree.pathsBelow]
  | unreadable fault => simp [documentsIn, Tree.isFile, Tree.pathsBelow]
  | pipe => simp [documentsIn, Tree.isFile, Tree.pathsBelow]
  | directory access entries => simp [documentsIn, Tree.isFile]

theorem standsFor_iff {files : System} {path place : Path} :
    StandsFor files path place ↔
      place = path ∧ IsFile files path ∨
        (∃ inner, LiesBelow files path place inner) ∧ hasDocumentName place = true := by
  unfold StandsFor IsFile LiesBelow
  cases hlookup : files.lookup path with
  | error fault => simp
  | ok found =>
      cases found with
      | none => simp [documentsIn]
      | some tree => simp [mem_documentsIn]

/-! ## What several paths stand for -/

theorem allDocumentsAt_cons_eq_ok_iff {files : System} {path : Path} {rest documents : List Path} :
    (allDocumentsAt files (path :: rest)).result = .ok documents ↔
      ∃ found others, files.lookup path = .ok found ∧
        (allDocumentsAt files rest).result = .ok others ∧
          documents = documentsIn path found ++ others := by
  rw [allDocumentsAt, Outcome.bind_eq_bind, Outcome.result_bind_eq_ok]
  simp only [Outcome.bind_eq_bind, Outcome.result_bind_eq_ok, Outcome.pure_eq_pure, Outcome.pure,
    result_documentsAt, Except.ok.injEq]
  cases files.lookup path with
  | error fault => simp [Except.map]
  | ok found => simp [Except.map, eq_comm]

/-- The search answers exactly if every path can be looked up. -/
theorem allDocumentsAt_answers_iff {files : System} {paths : List Path} :
    (∃ documents, (allDocumentsAt files paths).result = .ok documents) ↔
      ∀ path ∈ paths, ∃ found, files.lookup path = .ok found := by
  induction paths with
  | nil => exact ⟨fun _ => by simp, fun _ => ⟨[], rfl⟩⟩
  | cons path rest ih =>
      simp only [allDocumentsAt_cons_eq_ok_iff, List.forall_mem_cons, ← ih]
      constructor
      · rintro ⟨documents, found, others, hfound, hothers, -⟩
        exact ⟨⟨found, hfound⟩, others, hothers⟩
      · rintro ⟨⟨found, hfound⟩, others, hothers⟩
        exact ⟨_, found, others, hfound, hothers, rfl⟩

theorem mem_allDocumentsAt {files : System} {paths documents : List Path} {place : Path}
    (h : (allDocumentsAt files paths).result = .ok documents) :
    place ∈ documents ↔ ∃ path ∈ paths, StandsFor files path place := by
  induction paths generalizing documents with
  | nil =>
      cases h
      simp
  | cons path rest ih =>
      obtain ⟨found, others, hfound, hothers, rfl⟩ := allDocumentsAt_cons_eq_ok_iff.mp h
      have hhere : StandsFor files path place ↔ place ∈ documentsIn path found := by
        simp [StandsFor, hfound]
      simp only [List.mem_append, List.mem_cons, exists_eq_or_imp, ih hothers, hhere]

theorem findDocuments_eq_ok_iff {files : System} {paths documents : List Path} :
    (findDocuments files paths).result = .ok documents ↔
      ∃ found, (allDocumentsAt files paths).result = .ok found ∧ documents = ascending found := by
  rw [findDocuments, Outcome.bind_eq_bind, Outcome.result_bind_eq_ok]
  simp [Outcome.pure_eq_pure, Outcome.pure, eq_comm]

theorem mem_findDocuments {files : System} {paths documents : List Path} {place : Path}
    (h : (findDocuments files paths).result = .ok documents) :
    place ∈ documents ↔ ∃ path ∈ paths, StandsFor files path place := by
  obtain ⟨found, hfound, rfl⟩ := findDocuments_eq_ok_iff.mp h
  rw [mem_ascending, mem_allDocumentsAt hfound]

/-- The search answers exactly if every path can be looked up. -/
theorem findDocuments_answers_iff {files : System} {paths : List Path} :
    (∃ documents, (findDocuments files paths).result = .ok documents) ↔
      ∀ path ∈ paths, ∃ found, files.lookup path = .ok found := by
  rw [← allDocumentsAt_answers_iff]
  constructor
  · rintro ⟨documents, hdocuments⟩
    obtain ⟨found, hfound, -⟩ := findDocuments_eq_ok_iff.mp hdocuments
    exact ⟨found, hfound⟩
  · rintro ⟨found, hfound⟩
    exact ⟨_, findDocuments_eq_ok_iff.mpr ⟨found, hfound, rfl⟩⟩

theorem findDocuments_map_answers_iff {files : System} {texts : List String} :
    (∃ documents, (findDocuments files (texts.map .ofText)).result = .ok documents) ↔
      ∀ text ∈ texts, ∃ found, files.lookup (.ofText text) = .ok found := by
  rw [findDocuments_answers_iff, List.forall_mem_map]

/-- A file is found under its own path, and below a directory what is named like a document. -/
theorem mem_findDocuments_map {files : System} {texts : List String} {documents : List Path}
    {place : Path} (h : (findDocuments files (texts.map .ofText)).result = .ok documents) :
    place ∈ documents ↔
      (∃ text ∈ texts, place = .ofText text ∧ IsFile files place) ∨
        (∃ text ∈ texts, ∃ inner, LiesBelow files (.ofText text) place inner) ∧
          ∃ ending ∈ endings, EndsIn place ending := by
  rw [mem_findDocuments h, ← hasDocumentName_iff]
  simp only [List.mem_map, exists_exists_and_eq_and, standsFor_iff]
  constructor
  · rintro ⟨text, htext, ⟨rfl, hfile⟩ | ⟨hbelow, hname⟩⟩
    · exact .inl ⟨text, htext, rfl, hfile⟩
    · exact .inr ⟨⟨text, htext, hbelow⟩, hname⟩
  · rintro (⟨text, htext, rfl, hfile⟩ | ⟨⟨text, htext, hbelow⟩, hname⟩)
    · exact ⟨text, htext, .inl ⟨rfl, hfile⟩⟩
    · exact ⟨text, htext, .inr ⟨hbelow, hname⟩⟩

/-! ## Files and other finds -/

theorem valueOf_ne_notFile {readers : Readers} (hreaders : readers.Lawful) {tree : Tree}
    (hfile : tree.isFile = true) (path : Path) (text : String) :
    Document.valueOf readers path tree ≠ .error (.document (.notFile text)) := by
  intro hread
  have hends := @Loader.ends_valueOf readers path tree hfile
  rw [hread] at hends
  rcases hends.of_error with ⟨cause, hcause, hother⟩ | hbroken
  · cases hcause
    exact hother text rfl
  · exact Bool.noConfusion (hbroken.foreign hreaders)

/-- A load complains that a place is no file exactly if it leads to something else. -/
theorem result_load_eq_notFile_iff {loader : Loader} (hreaders : loader.readers.Lawful)
    {files : System} {inner : Tree} {place : Path} (h : files.lookup place = .ok (some inner)) :
    (loader.load files place).1.result = .error (.document (.notFile place.text)) ↔
      inner.isFile = false := by
  rw [Loader.result_load, Loader.expected, h]
  cases hfile : inner.isFile with
  | false => simp [hfile]
  | true =>
      cases loader.find? place with
      | some value => simp [hfile]
      | none => simp [hfile, valueOf_ne_notFile hreaders hfile]

/-- What is found: the regular files that are named, and all below the named directories whose name
ends like a document's. What is found there need not be a file, and then it is reported as none. -/
theorem findDocuments_exactly {files : System} (hfiles : files.Lawful) (texts : List String) :
    ((∃ documents, (findDocuments files (texts.map .ofText)).result = .ok documents) ↔
        ∀ text ∈ texts, ∃ found, files.lookup (.ofText text) = .ok found) ∧
      ∀ documents, (findDocuments files (texts.map .ofText)).result = .ok documents →
        ∀ place,
          (place ∈ documents ↔
            (∃ text ∈ texts, place = .ofText text ∧ IsFile files place) ∨
              (∃ text ∈ texts, ∃ inner, LiesBelow files (.ofText text) place inner) ∧
                ∃ ending ∈ endings, EndsIn place ending) ∧
          (place ∈ documents → ∀ (loader : Loader) (found : Option Tree),
            loader.readers.Lawful → files.lookup place = .ok found →
              ((loader.load files place).1.result = .error (.document (.notFile place.text)) ↔
                ∃ text ∈ texts, ∃ inner, LiesBelow files (.ofText text) place inner ∧
                  inner.isFile = false)) := by
  refine ⟨findDocuments_map_answers_iff, fun documents hdocuments place => ?_⟩
  refine ⟨mem_findDocuments_map hdocuments, fun hplace loader found hreaders hfound => ?_⟩
  constructor
  · intro hreport
    have hway := (mem_findDocuments_map hdocuments).mp hplace
    rcases hway with ⟨-, -, -, tree, htree, hfile⟩ | ⟨⟨text, htext, inner, hbelow⟩, -⟩
    · rw [result_load_eq_notFile_iff hreaders htree, hfile] at hreport
      cases hreport
    · obtain rfl := hbelow.lookup hfiles hfound
      exact ⟨text, htext, inner, hbelow, (result_load_eq_notFile_iff hreaders hfound).mp hreport⟩
  · rintro ⟨text, htext, inner, hbelow, hother⟩
    obtain rfl := hbelow.lookup hfiles hfound
    exact (result_load_eq_notFile_iff hreaders hfound).mpr hother

/-- A directory and a pipe that are named like documents, and a file that is not. -/
def shelf : Tree :=
  .directory .full
    [("d", .directory .full
      [("old.yaml", .empty), ("feed.json", .pipe), ("notes.txt", .file [])])]

theorem lawful_shelf : (System.ofWorking shelf).Lawful := by
  refine System.lawful_ofWorking (.directory (by decide) (by simp [Files.Tree.IsName]) ?_)
  simp only [List.mem_singleton, forall_eq]
  refine .directory (by decide) (by simp [Files.Tree.IsName]) ?_
  simp only [List.forall_mem_cons]
  exact ⟨Files.Tree.lawful_empty, .pipe, .file [], by simp⟩

/-- The pipe is found below the directory, and then it is reported as no file. -/
theorem findDocuments_exactly_shelf :
    (System.ofWorking shelf).Lawful ∧ Readers.standard.Lawful ∧
      ∃ documents,
        (findDocuments shelf (["d", "/work/d//notes.txt"].map .ofText)).result = .ok documents ∧
        Path.ofText "d/feed.json" ∈ documents ∧ Path.ofText "/work/d/notes.txt" ∈ documents ∧
          ((Loader.new .null true).load shelf (.ofText "d/feed.json")).1.result =
            .error (.document (.notFile "d/feed.json")) := by
  obtain ⟨hanswers, hexactly⟩ := findDocuments_exactly lawful_shelf ["d", "/work/d//notes.txt"]
  obtain ⟨documents, hdocuments⟩ := hanswers.mpr (by
    simp only [List.forall_mem_cons]
    exact ⟨⟨_, rfl⟩, ⟨_, rfl⟩, by simp⟩)
  have hbelow : LiesBelow shelf (.ofText "d") (.ofText "d/feed.json") .pipe :=
    ⟨_, ["feed.json"], rfl, .entry rfl (by simp), by decide⟩
  have hends : EndsIn (.ofText "d/feed.json") ".json" := ⟨"feed.json", rfl, by decide⟩
  have hpipe : Path.ofText "d/feed.json" ∈ documents :=
    (hexactly documents hdocuments _).1.mpr
      (.inr ⟨⟨"d", by simp, .pipe, hbelow⟩, ".json", by simp [endings], hends⟩)
  refine ⟨lawful_shelf, Readers.standard_lawful, documents, hdocuments, hpipe, ?_, ?_⟩
  · exact (hexactly documents hdocuments _).1.mpr
      (.inl ⟨"/work/d//notes.txt", by simp, by decide, .file [], rfl, rfl⟩)
  · exact ((hexactly documents hdocuments _).2 hpipe _ (some .pipe) Readers.standard_lawful
      rfl).mpr ⟨"d", by simp, .pipe, hbelow, rfl⟩

end Check

end Conformance
