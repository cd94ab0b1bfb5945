import Conformance.Proofs.Check.Documents

/-! # How what is found is read

The search goes by how a name ends, the loader by its suffix. An ending is the suffix of every
longer name, but a name that is an ending as a whole has no suffix. Hence all that is found by an
ending is read as that ending says, except a file whose whole name is that of JSON.
-/

namespace Conformance

open Files (Path System Tree)

/-- The last point of a name starts its suffix, unless it starts the name. -/
theorem Files.Path.suffixOf_append {stem extension : List Char} (hpoint : '.' ∉ extension)
    (hne : extension ≠ []) :
    suffixOf (stem ++ '.' :: extension) = if stem = [] then [] else '.' :: extension := by
  have hchars : ∀ c ∈ extension.reverse, (c != '.') = true := by
    intro c hc
    rw [List.mem_reverse] at hc
    exact bne_iff_ne.mpr (ne_of_mem_of_not_mem hc hpoint)
  have hlast : ((stem ++ '.' :: extension).reverse.takeWhile (· != '.')).reverse = extension := by
    rw [List.reverse_append, List.reverse_cons, List.append_assoc,
      List.takeWhile_append_of_pos hchars]
    simp
  unfold suffixOf
  simp only [hlast]
  cases stem with
  | nil => simp
  | cons c stem =>
      have hlonger : extension.length < stem.length + (extension.length + 1) := by omega
      simp [hne, hlonger]

namespace Check

open Files (EndsIn LiesBelow)

theorem exists_extension {ending : String} (h : ending ∈ endings) :
    ∃ extension, ending.toList = '.' :: extension ∧ '.' ∉ extension ∧ extension ≠ [] := by
  simp only [endings, List.mem_cons, List.not_mem_nil, or_false] at h
  rcases h with rfl | rfl | rfl <;> exact ⟨_, rfl, by decide, by decide⟩

/-- The ending of a document's name is its suffix, unless it is the whole name. -/
theorem suffix_of_endsIn {place : Path} {ending : String} (hending : ending ∈ endings)
    (hends : EndsIn place ending) :
    place.suffix = if place.names.getLast? = some ending then "" else ending := by
  obtain ⟨name, hlast, stem, hstem⟩ := hends
  obtain ⟨extension, hextension, hpoint, hne⟩ := exists_extension hending
  have hwhole : name = ending ↔ stem = [] := by
    rw [← String.toList_inj, ← hstem, List.append_left_eq_self]
  simp only [Path.suffix, hlast, Option.some.injEq, hwhole, ← hstem, hextension,
    Path.suffixOf_append hpoint hne]
  split
  · rfl
  · rw [← hextension, String.ofList_toList]

/-- Only one of the endings is that of JSON. -/
theorem isJson_iff_of_suffix {place : Path} {ending : String} (hending : ending ∈ endings)
    (hsuffix : place.suffix = ending) : Document.isJson place = true ↔ ending = ".json" := by
  unfold Document.isJson
  rw [hsuffix]
  simp only [endings, List.mem_cons, List.not_mem_nil, or_false] at hending
  rcases hending with rfl | rfl | rfl <;> decide

theorem isJson_iff_of_endsIn {place : Path} {ending : String} (hending : ending ∈ endings)
    (hends : EndsIn place ending) :
    Document.isJson place = true ↔ ending = ".json" ∧ place.names.getLast? ≠ some ".json" := by
  have hsuffix := suffix_of_endsIn hending hends
  split at hsuffix
  · rename_i hwhole
    have hnone : Document.isJson place = false := by
      unfold Document.isJson
      rw [hsuffix]
      rfl
    rw [hnone, hwhole]
    simp
  · rename_i hlonger
    rw [isJson_iff_of_suffix hending hsuffix]
    refine ⟨?_, And.left⟩
    rintro rfl
    exact ⟨rfl, hlonger⟩

/-- A text below a directory is found by the ending of its name and read as that ending says, except
that a text with no name but the ending of JSON is read as YAML. -/
theorem load_found_by_ending {files : System} {inner : Tree} {directory ending : String} {place : Path}
    {bytes : List UInt8} {text : List Char} {loader : Loader}
    (hbelow : LiesBelow files (.ofText directory) place inner) (hending : ending ∈ endings)
    (hends : EndsIn place ending) (hplace : files.lookup place = .ok (some (.file bytes)))
    (htext : Text.decodeUtf8 bytes = .ok text) (hfresh : loader.find? place = none) :
    (∃ documents, (findDocuments files [.ofText directory]).result = .ok documents ∧
        place ∈ documents) ∧
      (loader.load files place).1.result =
        if ending = ".json" ∧ place.names.getLast? ≠ some ".json" then
          (loader.readers.json (Text.unifyNewlines text)).mapError
            (Refusal.toFault (.invalidJson place.text))
        else
          (loader.readers.yaml (Text.unifyNewlines text)).mapError
            (Refusal.toFault (.invalidYaml place.text)) := by
  have hsearched := hbelow
  obtain ⟨tree, -, hdirectory, -, -⟩ := hsearched
  obtain ⟨documents, hdocuments⟩ :
      ∃ documents, (findDocuments files [.ofText directory]).result = .ok documents :=
    findDocuments_answers_iff.mpr (by simp [hdirectory])
  have hstands : StandsFor files (.ofText directory) place :=
    standsFor_iff.mpr (.inr ⟨⟨inner, hbelow⟩, hasDocumentName_iff.mpr ⟨ending, hending, hends⟩⟩)
  constructor
  · exact ⟨documents, hdocuments, (mem_findDocuments hdocuments).mpr ⟨_, by simp, hstands⟩⟩
  · rw [Loader.result_load, Loader.expected, hplace, hfresh]
    simp only [Tree.isFile, if_true, Document.valueOf_file, Document.parse, htext,
      Document.readText, isJson_iff_of_endsIn hending hends]

/-- A number in a file that has no name but an ending. -/
def bare : Tree :=
  .directory .full [("d", .directory .full [(".json", .file [49, 101, 53])])]

/-- The file is found as one of JSON and read as YAML. -/
theorem load_found_by_ending_bare :
    (∃ documents, (findDocuments bare [.ofText "d"]).result = .ok documents ∧
        Path.ofText "d/.json" ∈ documents) ∧
      ((Loader.new .null true).load bare (.ofText "d/.json")).1.result =
        Yaml.read "d/.json" ['1', 'e', '5'] := by
  have hbelow : LiesBelow bare (.ofText "d") (.ofText "d/.json") (.file [49, 101, 53]) :=
    ⟨_, [".json"], rfl, .entry rfl (by simp), by decide⟩
  have hends : EndsIn (.ofText "d/.json") ".json" := ⟨".json", rfl, by decide⟩
  have hdecoded : Text.decodeUtf8 [49, 101, 53] = .ok ['1', 'e', '5'] := rfl
  have hfresh : (Loader.new .null true).find? (.ofText "d/.json") = none := rfl
  have hread := load_found_by_ending hbelow (by simp [endings]) hends rfl hdecoded hfresh
  have hwhole : (Path.ofText "d/.json").names.getLast? = some ".json" := rfl
  have htext : (Path.ofText "d/.json").text = "d/.json" := by decide
  have hnewlines : Text.unifyNewlines ['1', 'e', '5'] = ['1', 'e', '5'] := rfl
  rw [hwhole, if_neg (by simp), htext, hnewlines] at hread
  have hyaml : (Loader.new .null true).readers.yaml = Yaml.value := rfl
  refine ⟨hread.1, hread.2.trans ?_⟩
  rw [hyaml, Yaml.read]

end Check

end Conformance
