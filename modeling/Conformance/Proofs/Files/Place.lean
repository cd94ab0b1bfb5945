import Conformance.Files.Tree

/-! # Places in a file tree

What lies below a tree, and by which names one comes to it. The search of a tree lists exactly the
paths of what lies below; in a tree whose entries are named as file systems name them, such a path
leads back to what was found under it.
-/

namespace Conformance.Files

namespace Path

/-- The path that goes on by further names. -/
def extend (path : Path) (names : List String) : Path := { path with names := path.names ++ names }

theorem extend_child (path : Path) (name : String) (names : List String) :
    (path.child name).extend names = path.extend (name :: names) := by
  simp [extend, child]

theorem mem_intercalate {c : Char} {separator : String} {names : List String}
    (hc : c ∉ separator.toList) :
    c ∈ (separator.intercalate names).toList ↔ ∃ name ∈ names, c ∈ name.toList := by
  induction names with
  | nil => simp
  | cons first rest ih =>
      cases rest with
      | nil => simp
      | cons second rest =>
          rw [String.intercalate_cons_cons]
          simp only [String.toList_append, List.mem_append, ih, hc, or_false, List.mem_cons,
            exists_eq_or_imp]

/-- The characters of a path's spelling, apart from those that the spelling brings with it. -/
theorem mem_text {path : Path} {c : Char} (hslash : c ≠ '/') (hpoint : c ≠ '.') :
    c ∈ path.text.toList ↔ ∃ name ∈ path.names, c ∈ name.toList := by
  have hroot : c ∉ path.root.text.toList := by
    cases path.root <;> simp [Root.text, hslash]
  unfold text
  split
  · next h => simp [h.2, hpoint]
  · simp only [String.toList_append, List.mem_append, hroot, false_or]
    exact mem_intercalate (by simpa using hslash)

end Path

namespace Tree

/-- A tree lies below another, at the end of a way of names that can be seen: every directory on the
way may be listed, and all but the last one entered. -/
inductive Lies (inner : Tree) : Tree → List String → Prop
  | entry {access : Access} {entries : List (String × Tree)} {name : String}
      (hlist : access.list = true) (h : (name, inner) ∈ entries) :
      Lies inner (.directory access entries) [name]
  | deeper {access : Access} {entries : List (String × Tree)} {name : String} {outer : Tree}
      {names : List String} (hlist : access.list = true) (henter : access.enter = true)
      (h : (name, outer) ∈ entries) (hinner : Lies inner outer names) :
      Lies inner (.directory access entries) (name :: names)

theorem mem_entriesBelow {place path : Path} {enter : Bool} {entries : List (String × Tree)} :
    place ∈ entriesBelow enter path entries ↔
      ∃ e ∈ entries, place = path.child e.1 ∨
        enter = true ∧ place ∈ e.2.pathsBelow (path.child e.1) := by
  induction entries with
  | nil => simp [entriesBelow]
  | cons e rest ih =>
      obtain ⟨name, tree⟩ := e
      simp only [entriesBelow, List.mem_cons, List.mem_append, ih, exists_eq_or_imp, or_assoc]
      cases enter <;> simp

/-- The search lists the paths of all that lies below, and no others. -/
theorem mem_pathsBelow {place path : Path} (tree : Tree) :
    place ∈ tree.pathsBelow path ↔
      ∃ inner names, Lies inner tree names ∧ place = path.extend names := by
  cases tree with
  | directory access entries =>
      cases hlist : access.list with
      | false =>
          refine ⟨fun h => ?_, fun ⟨inner, names, hlies, _⟩ => ?_⟩
          · simp [pathsBelow, hlist] at h
          · cases hlies <;> simp [hlist] at *
      | true =>
          rw [pathsBelow, if_pos hlist, mem_entriesBelow]
          constructor
          · rintro ⟨⟨name, inner⟩, hmem, rfl | ⟨henter, hplace⟩⟩
            · exact ⟨inner, [name], .entry hlist hmem, rfl⟩
            · obtain ⟨found, names, hlies, rfl⟩ := (mem_pathsBelow inner).mp hplace
              exact ⟨found, name :: names, .deeper hlist henter hmem hlies,
                Path.extend_child path name names⟩
          · rintro ⟨inner, names, hlies, rfl⟩
            cases hlies with
            | entry _ hmem => exact ⟨_, hmem, .inl rfl⟩
            | @deeper _ _ name outer names _ henter hmem hinner =>
                refine ⟨(name, outer), hmem, .inr ⟨henter, ?_⟩⟩
                exact (mem_pathsBelow outer).mpr
                  ⟨inner, names, hinner, (Path.extend_child path name names).symm⟩
  | _ =>
      refine ⟨fun h => ?_, fun ⟨inner, names, hlies, _⟩ => nomatch hlies⟩
      simp [pathsBelow] at h
termination_by sizeOf tree
decreasing_by
  all_goals
    have hlt := List.sizeOf_lt_of_mem hmem
    simp only [Prod.mk.sizeOf_spec] at hlt
    simp only [Tree.directory.sizeOf_spec]
    omega

/-! ## Trees as file systems hold them -/

/-- A name that a directory can give to an entry. -/
def IsName (name : String) : Prop :=
  name ≠ "" ∧ name ≠ "." ∧ name ≠ ".." ∧ '/' ∉ name.toList ∧ '\x00' ∉ name.toList

/-- Every directory tells its entries apart by names. -/
inductive Lawful : Tree → Prop
  | file (bytes : List UInt8) : Lawful (.file bytes)
  | unreadable (fault : ReadFault) : Lawful (.unreadable fault)
  | pipe : Lawful .pipe
  | directory {access : Access} {entries : List (String × Tree)}
      (hdistinct : (entries.map (·.1)).Nodup) (hnames : ∀ e ∈ entries, IsName e.1)
      (hinner : ∀ e ∈ entries, Lawful e.2) : Lawful (.directory access entries)

theorem lawful_empty : empty.Lawful := .directory (by simp) (by simp) (by simp)

theorem child?_of_mem {access : Access} {entries : List (String × Tree)} {name : String}
    {tree : Tree} (hdistinct : (entries.map (·.1)).Nodup) (h : (name, tree) ∈ entries) :
    child? (.directory access entries) name = some tree := by
  induction entries with
  | nil => cases h
  | cons e rest ih =>
      obtain ⟨hfresh, hrest⟩ := List.nodup_cons.mp hdistinct
      rcases List.mem_cons.mp h with rfl | h
      · simp [child?]
      · have hne : e.1 ≠ name := by
          rintro rfl
          exact hfresh (List.mem_map.mpr ⟨_, h, rfl⟩)
        have hfound := ih hrest h
        simpa [child?, hne] using hfound

theorem mem_of_child? {access : Access} {entries : List (String × Tree)} {name : String}
    {tree : Tree} (h : child? (.directory access entries) name = some tree) :
    (name, tree) ∈ entries := by
  obtain ⟨e, hfound, rfl⟩ := Option.map_eq_some_iff.mp h
  have hname := List.find?_some hfound
  obtain rfl : e.1 = name := by simpa using hname
  exact List.mem_of_find?_eq_some hfound

theorem Lawful.child? {tree inner : Tree} {name : String} (h : tree.Lawful)
    (hchild : tree.child? name = some inner) : inner.Lawful := by
  cases h with
  | directory _ _ hinner => exact hinner _ (mem_of_child? hchild)
  | _ => cases hchild

theorem Lawful.isName_of_lies {tree inner : Tree} {names : List String} (h : tree.Lawful)
    (hlies : Lies inner tree names) : ∀ name ∈ names, IsName name := by
  induction hlies with
  | entry _ hmem =>
      cases h with
      | directory _ hnames _ => simpa using hnames _ hmem
  | deeper _ _ hmem _ ih =>
      cases h with
      | directory _ hnames hinner =>
          exact List.forall_mem_cons.mpr ⟨hnames _ hmem, ih (hinner _ hmem)⟩

end Tree

open Files.Tree (Lies)

/-- What lies below is found by following its names, unless one of them is too long to be followed
or names something in a directory that may not be entered. -/
theorem follow_of_lies {tree inner : Tree} {names : List String} (h : tree.Lawful)
    (hlies : Lies inner tree names) (above : List Tree) :
    follow above tree names = .found inner ∨ follow above tree names = .tooLong ∨
      follow above tree names = .denied := by
  induction hlies generalizing above with
  | @entry access entries name _ hmem =>
      cases h with
      | directory hdistinct hnames _ =>
          obtain ⟨-, -, hup, -⟩ := hnames _ hmem
          simp only [follow, Tree.child?_of_mem hdistinct hmem, hup, if_false]
          split
          · exact .inr (.inr rfl)
          split
          · exact .inr (.inl rfl)
          · exact .inl rfl
  | deeper _ henter hmem _ ih =>
      cases h with
      | directory hdistinct hnames hinner =>
          obtain ⟨-, -, hup, -⟩ := hnames _ hmem
          simp only [follow, Tree.child?_of_mem hdistinct hmem, hup, henter, if_false,
            Bool.not_true, Bool.false_eq_true]
          split
          · exact .inr (.inl rfl)
          · exact ih (hinner _ hmem) _

/-- Where names lead on to depends only on the place that the names before them lead to. -/
theorem follow_append {above : List Tree} {here tree : Tree} {names : List String}
    (h : follow above here names = .found tree) :
    ∃ outer, ∀ rest, follow above here (names ++ rest) = follow outer tree rest := by
  fun_induction follow above here names with
  | case1 above here =>
      cases h
      exact ⟨above, fun rest => rfl⟩
  | case3 names access entries henter ih =>
      obtain ⟨outer, houter⟩ := ih h
      exact ⟨outer, fun rest => by simpa [follow, henter] using houter rest⟩
  | case4 names access entries henter parent above ih =>
      obtain ⟨outer, houter⟩ := ih h
      exact ⟨outer, fun rest => by simpa [follow, henter] using houter rest⟩
  | case6 above name names access entries henter hup hshort inner hchild ih =>
      rw [hchild] at h
      obtain ⟨outer, houter⟩ := ih h
      exact ⟨outer, fun rest => by simpa [follow, henter, hup, hshort, hchild] using houter rest⟩
  | case7 above name names access entries henter hup hshort hchild =>
      rw [hchild] at h
      cases h
  | case2 => cases h
  | case5 => cases h
  | case8 => cases h

theorem Tree.Lawful.follow {above : List Tree} {here tree : Tree} {names : List String}
    (habove : ∀ outer ∈ above, outer.Lawful) (hhere : here.Lawful)
    (h : follow above here names = .found tree) : tree.Lawful := by
  fun_induction Files.follow above here names with
  | case1 above here =>
      cases h
      exact hhere
  | case3 names access entries henter ih => exact ih (by simp) hhere h
  | case4 names access entries henter parent above ih =>
      obtain ⟨hparent, habove⟩ := List.forall_mem_cons.mp habove
      exact ih habove hparent h
  | case6 above name names access entries henter hup hshort inner hchild ih =>
      rw [hchild] at h
      exact ih (List.forall_mem_cons.mpr ⟨hhere, habove⟩) (hhere.child? hchild) h
  | case7 above name names access entries henter hup hshort hchild =>
      rw [hchild] at h
      cases h
  | case2 => cases h
  | case5 => cases h
  | case8 => cases h

/-! ## Systems -/

namespace System

def Lawful (files : System) : Prop := files.top.Lawful

theorem lawful_ofWorking {tree : Tree} (h : tree.Lawful) : (ofWorking tree).Lawful :=
  .directory (by simp) (by simp [Tree.IsName]) (by simpa using h)

theorem lawful_descend {above : List Tree} {here : Tree} {names : List String}
    (habove : ∀ outer ∈ above, outer.Lawful) (hhere : here.Lawful) :
    (∀ outer ∈ (descend above here names).1, outer.Lawful) ∧
      (descend above here names).2.Lawful := by
  induction names generalizing above here with
  | nil => exact ⟨habove, hhere⟩
  | cons name names ih =>
      refine ih (List.forall_mem_cons.mpr ⟨hhere, habove⟩) ?_
      cases hchild : here.child? name with
      | none => exact Tree.lawful_empty
      | some inner => exact hhere.child? hchild

theorem lawful_start {files : System} (h : files.Lawful) (path : Path) :
    (∀ outer ∈ (files.start path).1, outer.Lawful) ∧ (files.start path).2.Lawful := by
  unfold start
  split
  · exact lawful_descend (by simp) h
  · exact ⟨by simp, h⟩
  · exact ⟨by simp, h⟩

/-- A path that can be looked up leads where its names lead. -/
theorem reach_of_lookup {files : System} {path : Path} {found : Option Tree}
    (hname : '\x00' ∉ path.text.toList) (h : files.lookup path = .ok found) :
    (∃ tree, files.reach path = .found tree ∧ found = some tree) ∨
      files.reach path = .absent ∧ found = none := by
  rw [lookup, if_neg (by simpa using hname)] at h
  split at h
  · cases h
  split at h
  · rename_i tree hreach
    cases h
    exact .inl ⟨tree, hreach, rfl⟩
  · rename_i hreach
    cases h
    exact .inr ⟨hreach, rfl⟩
  · cases h
  · cases h

theorem not_mem_of_lookup {files : System} {tree : Tree} {path : Path}
    (h : files.lookup path = .ok (some tree)) : '\x00' ∉ path.text.toList := by
  intro hname
  rw [lookup, if_pos (by simpa using hname)] at h
  cases h

theorem reach_of_found {files : System} {tree : Tree} {path : Path}
    (h : files.lookup path = .ok (some tree)) : files.reach path = .found tree := by
  obtain ⟨found, hreach, hfound⟩ | ⟨-, hfound⟩ := reach_of_lookup (not_mem_of_lookup h) h
  · cases hfound
    exact hreach
  · cases hfound

theorem Lawful.lookup {files : System} {tree : Tree} {path : Path} (hfiles : files.Lawful)
    (h : files.lookup path = .ok (some tree)) : tree.Lawful :=
  Tree.Lawful.follow (lawful_start hfiles path).1 (lawful_start hfiles path).2 (reach_of_found h)

/-- The path of what lies below a directory leads to it, if it can be looked up. -/
theorem lookup_extend {files : System} {tree inner : Tree} {path : Path} {names : List String}
    {found : Option Tree} (hfiles : files.Lawful) (hpath : files.lookup path = .ok (some tree))
    (hlies : Lies inner tree names) (hplace : files.lookup (path.extend names) = .ok found) :
    found = some inner := by
  have htree := hfiles.lookup hpath
  have hname : '\x00' ∉ (path.extend names).text.toList := by
    have hbefore := not_mem_of_lookup hpath
    rw [Path.mem_text (by decide) (by decide)] at hbefore ⊢
    rintro ⟨name, hmem, hchar⟩
    rcases List.mem_append.mp hmem with hmem | hmem
    · exact hbefore ⟨name, hmem, hchar⟩
    · obtain ⟨-, -, -, -, hfree⟩ := htree.isName_of_lies hlies name hmem
      exact hfree hchar
  obtain ⟨outer, houter⟩ := follow_append (reach_of_found hpath)
  have hwhole : files.reach (path.extend names) = follow outer tree names := houter names
  have hfound := reach_of_lookup hname hplace
  rw [hwhole] at hfound
  rcases follow_of_lies htree hlies outer with hinner | hlong | hdenied
  · simpa [hinner] using hfound
  · simp [hlong] at hfound
  · simp [hdenied] at hfound

end System

end Conformance.Files
