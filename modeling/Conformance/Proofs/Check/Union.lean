import Conformance.Proofs.Check.Documents

/-! # Searches as operations on sets of paths

A path of a lawful tree has no slash in a name, so its parts tell it apart from the others. Hence
what is found is strictly ascending, and is given by its members: a search depends only on the set
of the paths that are named, and takes unions to unions.
-/

namespace Conformance

open Files (Path System)

namespace Files

/-- No name has a slash, as in the paths of what lies in lawful trees. -/
def Path.Proper (path : Path) : Prop := ∀ name ∈ path.names, '/' ∉ name.toList

namespace Path

theorem proper_ofText (text : String) : (ofText text).Proper := by
  intro name hname
  obtain ⟨chars, hchars, rfl⟩ := List.mem_map.mp hname
  rw [String.toList_ofList]
  exact Text.not_mem_of_mem_splitOn (List.mem_of_mem_filter hchars)

theorem Proper.extend {path : Path} {names : List String} (h : path.Proper)
    (hnames : ∀ name ∈ names, '/' ∉ name.toList) : (path.extend names).Proper := by
  intro name hname
  rcases List.mem_append.mp hname with hname | hname
  · exact h name hname
  · exact hnames name hname

/-- Only the part of a root has a slash. -/
theorem Proper.names_eq {path : Path} (h : path.Proper) :
    path.names = path.parts.filter fun part => '/' ∉ part.toList := by
  have hnames : (path.names.filter fun part => '/' ∉ part.toList) = path.names :=
    List.filter_eq_self.mpr fun name hname => decide_eq_true (h name hname)
  unfold parts
  cases path.root with
  | here => exact hnames.symm
  | top => rw [List.filter_cons_of_neg (by simp [Root.text]), hnames]
  | special => rw [List.filter_cons_of_neg (by simp [Root.text]), hnames]

theorem Proper.eq_of_parts {path other : Path} (h : path.Proper) (hother : other.Proper)
    (hparts : path.parts = other.parts) : path = other := by
  have hnames : path.names = other.names := by rw [h.names_eq, hother.names_eq, hparts]
  obtain ⟨root, names⟩ := path
  obtain ⟨root', names'⟩ := other
  cases hnames
  cases root <;> cases root' <;> simp [parts, Root.text] at hparts ⊢

end Path

theorem LiesBelow.proper {files : System} {inner : Tree} {directory place : Path}
    (h : LiesBelow files directory place inner) (hfiles : files.Lawful)
    (hdirectory : directory.Proper) : place.Proper := by
  obtain ⟨tree, names, hlookup, hlies, rfl⟩ := h
  refine hdirectory.extend fun name hname => ?_
  obtain ⟨-, -, -, hslash, -⟩ := (hfiles.lookup hlookup).isName_of_lies hlies name hname
  exact hslash

end Files

namespace Check

open Files (LiesBelow)

/-- Each path has smaller parts than those after it. -/
def Increases (paths : List Path) : Prop := paths.Pairwise fun a b => a.parts < b.parts

theorem Ascends.increases {paths : List Path} (h : Ascends paths)
    (hproper : ∀ path ∈ paths, path.Proper) : Increases paths := by
  refine List.Pairwise.imp_of_mem (fun ha hb hab => ?_) h
  refine lt_of_le_of_ne hab.1 fun hparts => hab.2 ?_
  exact (hproper _ ha).eq_of_parts (hproper _ hb) hparts

theorem Increases.nodup {paths : List Path} (h : Increases paths) : paths.Nodup := by
  refine List.Pairwise.imp (fun hlt => ?_) h
  rintro rfl
  exact lt_irrefl _ hlt

/-- Strictly ascending paths are given by their members. -/
theorem Increases.eq_of_mem_iff {paths others : List Path} (h : Increases paths)
    (hothers : Increases others) (hmem : ∀ path, path ∈ paths ↔ path ∈ others) :
    paths = others := by
  have hperm := (List.perm_ext_iff_of_nodup h.nodup hothers.nodup).mpr hmem
  refine List.Perm.eq_of_pairwise (fun a b _ _ hab hba => ?_) h hothers hperm
  exact absurd hba (lt_asymm hab)

theorem proper_of_mem_findDocuments {files : System} {texts : List String} {documents : List Path}
    (hfiles : files.Lawful)
    (h : (findDocuments files (texts.map .ofText)).result = .ok documents) :
    ∀ place ∈ documents, place.Proper := by
  intro place hplace
  have hway := (mem_findDocuments_map h).mp hplace
  rcases hway with ⟨text, -, rfl, -⟩ | ⟨⟨text, -, inner, hbelow⟩, -⟩
  · exact Path.proper_ofText text
  · exact hbelow.proper hfiles (Path.proper_ofText text)

theorem increases_of_findDocuments {files : System} {texts : List String} {documents : List Path}
    (hfiles : files.Lawful)
    (h : (findDocuments files (texts.map .ofText)).result = .ok documents) :
    Increases documents :=
  (ascends_of_findDocuments h).increases (proper_of_mem_findDocuments hfiles h)

/-- A search depends on nothing but the set of the paths. -/
theorem findDocuments_of_mem_iff {files : System} {texts others : List String}
    {documents : List Path} (hfiles : files.Lawful)
    (h : (findDocuments files (texts.map .ofText)).result = .ok documents)
    (hsame : ∀ path, path ∈ others.map Path.ofText ↔ path ∈ texts.map Path.ofText) :
    (findDocuments files (others.map .ofText)).result = .ok documents := by
  have hanswers := findDocuments_answers_iff.mp ⟨documents, h⟩
  obtain ⟨found, hfound⟩ := findDocuments_answers_iff.mpr fun path hpath =>
    hanswers path ((hsame path).mp hpath)
  rw [hfound]
  have hincreases := increases_of_findDocuments hfiles hfound
  have heq := hincreases.eq_of_mem_iff (increases_of_findDocuments hfiles h) fun place => by
    simp only [mem_findDocuments hfound, mem_findDocuments h, hsame]
  rw [heq]

/-- Where every path can be looked up, searches give strictly ascending paths. The search for two
lists of paths together gives the union of what it gives for each, and repeating, reordering or
respelling the paths changes nothing. -/
theorem findDocuments_append {files : System} {texts others : List String} (hfiles : files.Lawful)
    (htexts : ∀ text ∈ texts, ∃ found, files.lookup (.ofText text) = .ok found)
    (hothers : ∀ text ∈ others, ∃ found, files.lookup (.ofText text) = .ok found) :
    ∃ documents documents' union,
      (findDocuments files (texts.map .ofText)).result = .ok documents ∧
        (findDocuments files (others.map .ofText)).result = .ok documents' ∧
        (findDocuments files ((texts ++ others).map .ofText)).result = .ok union ∧
        Increases documents ∧ Increases documents' ∧ Increases union ∧
        (∀ place, place ∈ union ↔ place ∈ documents ∨ place ∈ documents') ∧
        ∀ respelled : List String,
          (∀ path, path ∈ respelled.map Path.ofText ↔ path ∈ texts.map Path.ofText) →
            (findDocuments files (respelled.map .ofText)).result = .ok documents := by
  obtain ⟨documents, hdocuments⟩ := findDocuments_map_answers_iff.mpr htexts
  obtain ⟨documents', hdocuments'⟩ := findDocuments_map_answers_iff.mpr hothers
  obtain ⟨union, hunion⟩ := findDocuments_map_answers_iff.mpr
    (List.forall_mem_append.mpr ⟨htexts, hothers⟩)
  refine ⟨documents, documents', union, hdocuments, hdocuments', hunion,
    increases_of_findDocuments hfiles hdocuments, increases_of_findDocuments hfiles hdocuments',
    increases_of_findDocuments hfiles hunion, fun place => ?_, fun respelled hsame => ?_⟩
  · rw [mem_findDocuments hdocuments, mem_findDocuments hdocuments', mem_findDocuments hunion,
      List.map_append]
    simp only [List.mem_append, or_and_right, exists_or]
  · exact findDocuments_of_mem_iff hfiles hdocuments hsame

/-- A directory, a file in it that is named as well, and both in other words. -/
theorem findDocuments_append_shelf :
    (System.ofWorking shelf).Lawful ∧
      ∃ documents union,
        (findDocuments shelf (["d", "d//notes.txt"].map .ofText)).result = .ok documents ∧
        (findDocuments shelf (["d", "d//notes.txt", "d/./"].map .ofText)).result = .ok union ∧
        Increases union ∧ (∀ place ∈ documents, place ∈ union) ∧
        (findDocuments shelf (["d/./notes.txt", "d//", "d"].map .ofText)).result =
          .ok documents := by
  have htexts : ∀ text ∈ ["d", "d//notes.txt"],
      ∃ found, (System.ofWorking shelf).lookup (.ofText text) = .ok found := by
    simp only [List.forall_mem_cons]
    exact ⟨⟨_, rfl⟩, ⟨_, rfl⟩, by simp⟩
  have hothers : ∀ text ∈ ["d/./"],
      ∃ found, (System.ofWorking shelf).lookup (.ofText text) = .ok found := by
    simp only [List.forall_mem_cons]
    exact ⟨⟨_, rfl⟩, by simp⟩
  obtain ⟨documents, documents', union, hdocuments, -, hunion, -, -, hincreases, hmem,
      hrespelled⟩ :=
    findDocuments_append lawful_shelf htexts hothers
  refine ⟨lawful_shelf, documents, union, hdocuments, hunion, hincreases,
    fun place hplace => (hmem place).mpr (.inl hplace), hrespelled _ fun path => ?_⟩
  have hnotes : Path.ofText "d/./notes.txt" = Path.ofText "d//notes.txt" := by decide
  have hslash : Path.ofText "d//" = Path.ofText "d" := by decide
  simp only [List.map_cons, List.map_nil, hnotes, hslash, List.mem_cons, List.not_mem_nil]
  tauto

end Check

end Conformance
