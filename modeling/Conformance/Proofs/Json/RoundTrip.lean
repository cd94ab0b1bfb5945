import Conformance.Proofs.Json.Atom
import Conformance.Proofs.Value.Keys
import Mathlib.Data.List.Forall2

/-! # Values in JSON are read back

What is written for a value is read as that value, at every depth of indentation and whatever
follows, as long as it does not go on with a number. This holds of values without doubles whose
records have texts as keys: atoms by themselves, lists and records from their parts. Each call of a
reader needs two units of fuel for a character at most.
-/

namespace Conformance.Json

/-- Values without doubles, with distinct texts as the keys of records, and with integers of a
limited number of digits. -/
inductive Portable (limit : Nat) : Value → Prop
  | null : Portable limit .null
  | bool (b : Bool) : Portable limit (.bool b)
  | int {n : Int} (h : (Nat.toDigits 10 n.natAbs).length ≤ limit) : Portable limit (.int n)
  | str (s : String) : Portable limit (.str s)
  | list {items : List Value} (h : ∀ item ∈ items, Portable limit item) :
      Portable limit (.list items)
  | dict {entries : Value.Entries} {names : List String}
      (hkeys : entries.map (·.1) = names.map .str) (hnames : names.Nodup)
      (h : ∀ e ∈ entries, Portable limit e.2) : Portable limit (.dict entries)

/-- A character at which a value may start, so that none is skipped and no list is taken as empty
before it. -/
def Opens (c : Char) : Prop := isSpace c = false ∧ c ≠ ']' ∧ c ≠ '\ufeff'

instance (c : Char) : Decidable (Opens c) := inferInstanceAs (Decidable (_ ∧ _))

/-- A text that is read as a value whatever follows. -/
structure ReadsAs (text : List Char) (value : Value) : Prop where
  opens : ∃ c more, text = c :: more ∧ Opens c
  read : ∀ fuel rest, 2 * text.length ≤ fuel → Closed rest →
    readValue fuel (text ++ rest) = .ok (value, rest)

/-- The first character takes one call. -/
theorem ReadsAs.of_cons {c : Char} {more : List Char} {value : Value} (hopens : Opens c)
    (h : ∀ fuel rest, 2 * more.length < fuel → Closed rest →
      readValue (fuel + 1) (c :: (more ++ rest)) = .ok (value, rest)) :
    ReadsAs (c :: more) value where
  opens := ⟨c, more, rfl, hopens⟩
  read fuel rest hfuel hrest := by
    rw [List.length_cons] at hfuel
    obtain ⟨fuel, rfl⟩ : ∃ m, fuel = m + 1 := Nat.exists_eq_succ_of_ne_zero (by omega)
    exact h fuel rest (by omega) hrest

theorem skipSpace_cons {c : Char} (h : isSpace c = false) (rest : List Char) :
    skipSpace (c :: rest) = c :: rest := by
  simp [skipSpace, h]

theorem skipSpace_newLine (level : Nat) (text : List Char) :
    skipSpace (newLine level ++ text) = skipSpace text := by
  have hspace : ∀ c ∈ newLine level, isSpace c = true := by
    intro c hc
    rcases List.mem_cons.1 hc with rfl | hc
    · rfl
    · rw [List.eq_of_mem_replicate hc]
      rfl
  exact List.dropWhile_append_of_pos hspace

theorem closed_newLine (level : Nat) (text : List Char) : Closed (newLine level ++ text) := by
  intro c hc
  cases hc
  decide

theorem closed_comma (text : List Char) : Closed (',' :: text) := by
  intro c hc
  cases hc
  decide

theorem readValue_plain (fuel : Nat) {c : Char} (hquote : c ≠ '"') (hbracket : c ≠ '[')
    (hbrace : c ≠ '{') (rest : List Char) :
    readValue (fuel + 1) (c :: rest) = readPlain (c :: rest) := by
  unfold readValue
  split <;> simp_all

theorem readsAs_of_plain {c : Char} {more : List Char} {value : Value} (hopens : Opens c)
    (hquote : c ≠ '"') (hbracket : c ≠ '[') (hbrace : c ≠ '{')
    (hread : ∀ rest, Closed rest → readPlain (c :: more ++ rest) = .ok (value, rest)) :
    ReadsAs (c :: more) value :=
  .of_cons hopens fun fuel rest _ hrest =>
    (readValue_plain fuel hquote hbracket hbrace _).trans (hread rest hrest)

theorem readsAs_null : ReadsAs ['n', 'u', 'l', 'l'] .null :=
  readsAs_of_plain (by decide) (by decide) (by decide) (by decide) fun _ _ => rfl

theorem readsAs_true : ReadsAs ['t', 'r', 'u', 'e'] (.bool true) :=
  readsAs_of_plain (by decide) (by decide) (by decide) (by decide) fun _ _ => rfl

theorem readsAs_false : ReadsAs ['f', 'a', 'l', 's', 'e'] (.bool false) :=
  readsAs_of_plain (by decide) (by decide) (by decide) (by decide) fun _ _ => rfl

theorem opens_of_isDigit {d : Char} (h : d.isDigit = true) : Opens d := by
  have hne : ∀ c : Char, c.isDigit = false → d ≠ c := fun c hc => ne_of_isDigit h hc
  refine ⟨?_, hne ']' rfl, hne '\ufeff' rfl⟩
  simp [isSpace, hne ' ' rfl, hne '\t' rfl, hne '\n' rfl, hne '\r' rfl]

theorem readsAs_integer {n : Int} (h : (Nat.toDigits 10 n.natAbs).length ≤ digitLimit) :
    ReadsAs (writeInteger n) (.int n) := by
  have hread : ∀ rest, Closed rest → readPlain (writeInteger n ++ rest) = .ok (.int n, rest) :=
    fun rest hrest => readPlain_writeInteger h hrest
  obtain ⟨d, more, hcons, hd⟩ := toDigits_append_eq n.natAbs []
  rw [List.append_nil] at hcons
  rw [writeInteger_eq_append, hcons] at hread ⊢
  by_cases hnegative : n < 0
  · rw [if_pos hnegative] at hread ⊢
    exact readsAs_of_plain (by decide) (by decide) (by decide) (by decide) hread
  · rw [if_neg hnegative] at hread ⊢
    exact readsAs_of_plain (opens_of_isDigit hd) (ne_of_isDigit hd rfl) (ne_of_isDigit hd rfl)
      (ne_of_isDigit hd rfl) hread

theorem readsAs_text (s : String) : ReadsAs (writeText s.toList) (.str s) := by
  rw [writeText, List.cons_append]
  refine .of_cons (by decide) fun fuel rest hfuel _ => ?_
  have hlength : s.toList.length < fuel := by
    have hle := length_le_flatMap_writeChar s.toList
    rw [List.length_append] at hfuel
    omega
  rw [List.append_assoc, List.singleton_append, readValue, readString_flatMap_writeChar hlength]
  rfl

/-! ## Parts between brackets -/

/-- Parts with the commas between them, each on a line of its own. -/
def joined (level : Nat) (parts : List (List Char)) : List Char :=
  List.intercalate (',' :: newLine level) parts

theorem joined_singleton (level : Nat) (part : List Char) : joined level [part] = part := by
  simp [joined, List.intercalate]

theorem joined_cons_cons (level : Nat) (part next : List Char) (parts : List (List Char)) :
    joined level (part :: next :: parts) =
      part ++ ',' :: (newLine level ++ joined level (next :: parts)) := by
  simp [joined, List.intercalate]

theorem joined_cons_eq (level : Nat) (c : Char) (part : List Char) (parts : List (List Char)) :
    ∃ more, joined level ((c :: part) :: parts) = c :: more := by
  cases parts with
  | nil => exact ⟨part, joined_singleton level _⟩
  | cons next parts => exact ⟨_, joined_cons_cons level _ next parts⟩

/-- Parts are found behind the blanks before the first of them. -/
theorem skipSpace_joined {c : Char} (hc : isSpace c = false) (level outer : Nat)
    (part : List Char) (parts : List (List Char)) (rest : List Char) :
    skipSpace (newLine outer ++ (joined level ((c :: part) :: parts) ++ rest)) =
      joined level ((c :: part) :: parts) ++ rest := by
  obtain ⟨more, hcons⟩ := joined_cons_eq level c part parts
  rw [skipSpace_newLine, hcons, List.cons_append, skipSpace_cons hc]

theorem joined_ne {c d : Char} (hc : c ≠ d) (level : Nat) (part : List Char)
    (parts : List (List Char)) (rest more : List Char) :
    joined level ((c :: part) :: parts) ++ rest ≠ d :: more := by
  obtain ⟨_, hcons⟩ := joined_cons_eq level c part parts
  rw [hcons, List.cons_append]
  exact fun h => hc (List.cons.inj h).1

theorem enclose_cons (opening closing : Char) (level : Nat) (part : List Char)
    (parts : List (List Char)) :
    enclose opening closing level (part :: parts) =
      opening :: (newLine (level + 1) ++ (joined (level + 1) (part :: parts) ++
        (newLine level ++ [closing]))) := by
  simp [enclose, joined]

/-- A reader of several things up to a closing character: how it takes the last of them, and how
one that a comma follows. -/
structure ReadsParts (reader : Nat → List Char → Reading (List β × List Char)) (closing : Char)
    (Part : List Char → β → Prop) : Prop where
  opens : ∀ {part x}, Part part x → ∃ c more, part = c :: more ∧ isSpace c = false
  last : ∀ {part x fuel}, Part part x → 2 * part.length ≤ fuel → ∀ outer rest,
    reader (fuel + 1) (part ++ (newLine outer ++ closing :: rest)) = .ok ([x], rest)
  more : ∀ {part x fuel}, Part part x → 2 * part.length ≤ fuel → ∀ next,
    reader (fuel + 1) (part ++ ',' :: next) =
      (reader fuel (skipSpace next)).map fun (xs, rest) => (x :: xs, rest)

theorem ReadsParts.joined {reader : Nat → List Char → Reading (List β × List Char)}
    {closing : Char} {Part : List Char → β → Prop} (hreader : ReadsParts reader closing Part)
    {parts : List (List Char)} {xs : List β} (h : List.Forall₂ Part parts xs)
    (hparts : parts ≠ []) {fuel level : Nat} (hfuel : 2 * (joined level parts).length + 1 ≤ fuel)
    (outer : Nat) (rest : List Char) :
    reader fuel (joined level parts ++ (newLine outer ++ closing :: rest)) = .ok (xs, rest) := by
  induction h generalizing fuel with
  | nil => exact absurd rfl hparts
  | @cons part x parts xs hpart hrest ih =>
      obtain ⟨fuel, rfl⟩ : ∃ m, fuel = m + 1 := Nat.exists_eq_succ_of_ne_zero (by omega)
      cases hrest with
      | nil =>
          rw [joined_singleton] at hfuel ⊢
          exact hreader.last hpart (by omega) outer rest
      | @cons next x' parts xs' hnext hrest =>
          rw [joined_cons_cons] at hfuel ⊢
          simp only [List.length_append, List.length_cons] at hfuel
          have hothers := ih (by simp) (show 2 * _ + 1 ≤ fuel by omega)
          obtain ⟨c, more, rfl, hc⟩ := hreader.opens hnext
          rw [List.append_assoc, List.cons_append, List.append_assoc,
            hreader.more hpart (by omega), skipSpace_joined hc, hothers]
          rfl

theorem readsParts_readItems : ReadsParts readItems ']' ReadsAs where
  opens h := by
    obtain ⟨c, more, hcons, hc⟩ := h.opens
    exact ⟨c, more, hcons, hc.1⟩
  last h hfuel outer rest := by
    rw [readItems, h.read _ _ hfuel (closed_newLine outer _)]
    simp only [bind, Except.bind, skipSpace_newLine]
    rfl
  more h hfuel next := by
    rw [readItems, h.read _ _ hfuel (closed_comma next)]
    simp only [bind, Except.bind, skipSpace_cons (show isSpace ',' = false from rfl)]
    cases readItems _ (skipSpace next) <;> rfl

theorem readValue_bracket (fuel : Nat) {text : List Char}
    (h : ∀ more, skipSpace text ≠ ']' :: more) :
    readValue (fuel + 1) ('[' :: text) =
      (readItems fuel (skipSpace text)).map fun (items, rest) => (.list items, rest) := by
  rw [readValue]
  split
  · exact absurd ‹_› (h _)
  · rfl

theorem readsAs_list {parts : List (List Char)} {items : List Value}
    (h : List.Forall₂ ReadsAs parts items) (level : Nat) :
    ReadsAs (enclose '[' ']' level parts) (.list items) := by
  cases h with
  | nil => exact .of_cons (by decide) fun _ _ _ _ => rfl
  | @cons part item parts items hpart hparts =>
      rw [enclose_cons]
      refine .of_cons (by decide) fun fuel rest hfuel _ => ?_
      simp only [List.length_append, List.length_cons, List.length_nil] at hfuel
      simp only [List.append_assoc, List.singleton_append]
      obtain ⟨c, more, rfl, hc⟩ := hpart.opens
      have hskip := skipSpace_joined hc.1 (level + 1) (level + 1) more parts
        (newLine level ++ ']' :: rest)
      rw [readValue_bracket fuel (by rw [hskip]; exact joined_ne hc.2.1 _ _ _ _), hskip,
        readsParts_readItems.joined (.cons hpart hparts) (by simp) (by omega)]
      rfl

/-! ## Records -/

/-- A part of a record: its key, a colon and the text of its value. -/
def IsEntry (P : List Char → Value → Prop) (part : List Char) (entry : Value × Value) : Prop :=
  ∃ s text, entry.1 = .str s ∧ part = writeText s.toList ++ ':' :: ' ' :: text ∧ P text entry.2

theorem IsEntry.eq_cons {P : List Char → Value → Prop} {part : List Char} {entry : Value × Value}
    (h : IsEntry P part entry) : ∃ more, part = '"' :: more := by
  obtain ⟨s, text, -, rfl, -⟩ := h
  exact ⟨_, rfl⟩

theorem IsEntry.imp {P Q : List Char → Value → Prop} (h : ∀ text value, P text value → Q text value)
    (part : List Char) (entry : Value × Value) (hentry : IsEntry P part entry) :
    IsEntry Q part entry := by
  obtain ⟨s, text, hkey, hpart, htext⟩ := hentry
  exact ⟨s, text, hkey, hpart, h _ _ htext⟩

/-- Going on behind an entry. -/
def afterEntry (fuel : Nat) (entry : Value × Value) :
    List Char → Reading (Value.Entries × List Char)
  | '}' :: rest => .ok ([entry], rest)
  | ',' :: rest =>
    (readEntries fuel (skipSpace rest)).map fun (entries, rest) => (entry :: entries, rest)
  | rest => stop .comma rest

theorem readEntries_append {fuel : Nat} {part : List Char} {entry : Value × Value}
    (h : IsEntry ReadsAs part entry) (hfuel : 2 * part.length ≤ fuel) {rest : List Char}
    (hrest : Closed rest) :
    readEntries (fuel + 1) (part ++ rest) = afterEntry fuel entry (skipSpace rest) := by
  obtain ⟨key, value⟩ := entry
  obtain ⟨s, text, rfl, rfl, htext⟩ := h
  obtain ⟨c, more, rfl, hc⟩ := htext.opens
  have hlength : s.toList.length < fuel := by
    have hle := length_le_flatMap_writeChar s.toList
    simp only [writeText, List.length_append, List.length_cons] at hfuel
    omega
  have hvalue : readValue fuel (c :: (more ++ rest)) = .ok (value, rest) :=
    htext.read fuel rest (by simp only [List.length_append, List.length_cons] at hfuel ⊢; omega)
      hrest
  have hblank : skipSpace (' ' :: c :: (more ++ rest)) = c :: (more ++ rest) :=
    skipSpace_cons hc.1 _
  simp only [writeText, List.cons_append, List.append_assoc, List.nil_append]
  rw [readEntries, readString_flatMap_writeChar hlength]
  simp only [bind, Except.bind, skipSpace_cons (show isSpace ':' = false from rfl), hblank, hvalue]
  rfl

theorem readsParts_readEntries : ReadsParts readEntries '}' (IsEntry ReadsAs) where
  opens h := by
    obtain ⟨more, hcons⟩ := h.eq_cons
    exact ⟨'"', more, hcons, rfl⟩
  last h hfuel outer rest := by
    rw [readEntries_append h hfuel (closed_newLine outer _), skipSpace_newLine]
    rfl
  more h hfuel next := by
    rw [readEntries_append h hfuel (closed_comma next), skipSpace_cons rfl]
    rfl

theorem readValue_brace (fuel : Nat) {text : List Char}
    (h : ∀ more, skipSpace text ≠ '}' :: more) :
    readValue (fuel + 1) ('{' :: text) =
      (readEntries fuel (skipSpace text)).map fun (entries, rest) =>
        (.dict (Value.ofPairs entries), rest) := by
  rw [readValue]
  split
  · exact absurd ‹_› (h _)
  · rfl

theorem readsAs_dict {parts : List (List Char)} {entries : Value.Entries}
    (h : List.Forall₂ (IsEntry ReadsAs) parts entries)
    (hdistinct : entries.Pairwise fun a b => Value.equal a.1 b.1 = false) (level : Nat) :
    ReadsAs (enclose '{' '}' level parts) (.dict entries) := by
  cases h with
  | nil => exact .of_cons (by decide) fun _ _ _ _ => rfl
  | @cons part entry parts entries hpart hparts =>
      rw [enclose_cons]
      refine .of_cons (by decide) fun fuel rest hfuel _ => ?_
      simp only [List.length_append, List.length_cons, List.length_nil] at hfuel
      simp only [List.append_assoc, List.singleton_append]
      obtain ⟨more, rfl⟩ := hpart.eq_cons
      have hskip := skipSpace_joined (show isSpace '"' = false from rfl) (level + 1) (level + 1)
        more parts (newLine level ++ '}' :: rest)
      rw [readValue_brace fuel (by rw [hskip]; exact joined_ne (by decide) _ _ _ _), hskip,
        readsParts_readEntries.joined (.cons hpart hparts) (by simp) (by omega)]
      simp only [Except.map, Value.ofPairs_of_pairwise hdistinct]

theorem texts_of_keys {entries : Value.Entries} {names : List String}
    (h : entries.map (·.1) = names.map .str) : ∀ e ∈ entries, ∃ s, e.1 = .str s := by
  intro e he
  have hmem : e.1 ∈ names.map .str := h ▸ List.mem_map_of_mem he
  obtain ⟨s, -, hs⟩ := List.mem_map.1 hmem
  exact ⟨s, hs.symm⟩

theorem distinct_of_keys {entries : Value.Entries} {names : List String}
    (h : entries.map (·.1) = names.map .str) (hnames : names.Nodup) :
    entries.Pairwise fun a b => Value.equal a.1 b.1 = false := by
  rw [← List.pairwise_map (f := fun e : Value × Value => e.1)
    (R := fun a b => Value.equal a b = false), h, List.pairwise_map]
  exact hnames.imp fun {a b} hne => beq_eq_false_iff_ne.2 hne

/-! ## Values -/

section Parts

variable {P : List Char → Value → Prop} {level : Nat}

theorem exists_writeItems {items : List Value}
    (h : ∀ item ∈ items, ∃ text, write level item = .ok text ∧ P text item) :
    ∃ parts, writeItems level items = .ok parts ∧ List.Forall₂ P parts items := by
  induction items with
  | nil => exact ⟨[], rfl, .nil⟩
  | cons item items ih =>
      obtain ⟨hitem, hitems⟩ := List.forall_mem_cons.1 h
      obtain ⟨text, hwrite, hread⟩ := hitem
      obtain ⟨parts, hparts, hreads⟩ := ih hitems
      exact ⟨text :: parts, by rw [writeItems, hwrite, hparts]; rfl, .cons hread hreads⟩

theorem exists_writeEntries {entries : Value.Entries} (htexts : ∀ e ∈ entries, ∃ s, e.1 = .str s)
    (h : ∀ e ∈ entries, ∃ text, write level e.2 = .ok text ∧ P text e.2) :
    ∃ parts, writeEntries level entries = .ok parts ∧ List.Forall₂ (IsEntry P) parts entries := by
  induction entries with
  | nil => exact ⟨[], rfl, .nil⟩
  | cons entry entries ih =>
      obtain ⟨key, value⟩ := entry
      obtain ⟨⟨s, hkey⟩, hkeys⟩ := List.forall_mem_cons.1 htexts
      obtain ⟨⟨text, hwrite, hread⟩, hentries⟩ := List.forall_mem_cons.1 h
      obtain ⟨parts, hparts, hreads⟩ := ih hkeys hentries
      dsimp only at hkey hwrite hread
      subst hkey
      exact ⟨(writeText s.toList ++ ':' :: ' ' :: text) :: parts,
        by rw [writeEntries, hwrite, hparts]; rfl, .cons ⟨s, text, rfl, rfl, hread⟩ hreads⟩

end Parts

/-- A value is written at any depth, and the text is read as the value unless an integer in it is
too long. -/
theorem exists_write {limit : Nat} {value : Value} (h : Portable limit value) (level : Nat) :
    ∃ text, write level value = .ok text ∧ (limit ≤ digitLimit → ReadsAs text value) := by
  induction h generalizing level with
  | null => exact ⟨_, rfl, fun _ => readsAs_null⟩
  | bool b =>
      cases b with
      | true => exact ⟨_, rfl, fun _ => readsAs_true⟩
      | false => exact ⟨_, rfl, fun _ => readsAs_false⟩
  | int h => exact ⟨_, rfl, fun hlimit => readsAs_integer (Nat.le_trans h hlimit)⟩
  | str s => exact ⟨_, rfl, fun _ => readsAs_text s⟩
  | list _ ih =>
      obtain ⟨parts, hparts, hreads⟩ :=
        exists_writeItems fun item hitem => ih item hitem (level + 1)
      exact ⟨_, by rw [write, hparts]; rfl, fun hlimit =>
        readsAs_list (hreads.imp fun _ _ hread => hread hlimit) level⟩
  | dict hkeys hnames _ ih =>
      obtain ⟨parts, hparts, hreads⟩ :=
        exists_writeEntries (P := fun text value => limit ≤ digitLimit → ReadsAs text value)
          (texts_of_keys hkeys) fun e he => ih e he (level + 1)
      exact ⟨_, by rw [write, hparts]; rfl, fun hlimit =>
        readsAs_dict (hreads.imp (IsEntry.imp fun _ _ hread => hread hlimit))
          (distinct_of_keys hkeys hnames) level⟩

theorem ReadsAs.readDocument_eq {text : List Char} {value : Value} (h : ReadsAs text value) :
    readDocument text = .ok value := by
  have hread := h.read (2 * text.length + 2) [] (by omega) (by simp [Closed])
  obtain ⟨c, more, rfl, hc⟩ := h.opens
  rw [List.append_nil] at hread
  unfold readDocument
  split
  · exact absurd (List.cons.inj ‹_›).1 hc.2.2
  · rw [skipSpace_cons hc.1, hread]
    rfl

/-- A portable value has a text, and reading gives it back. -/
theorem exists_writeDocument {limit : Nat} {value : Value} (h : Portable limit value) :
    ∃ text, writeDocument value = .ok text ∧
      (limit ≤ digitLimit → ∀ source, read source text.toList = .ok value) := by
  obtain ⟨text, hwrite, hread⟩ := exists_write h 0
  refine ⟨String.ofList text, by rw [writeDocument, hwrite]; rfl, fun hlimit source => ?_⟩
  rw [String.toList_ofList, read, Json.value, (hread hlimit).readDocument_eq]
  rfl

/-- The text of a record is never empty, whatever the record holds. -/
theorem ne_empty_of_writeDocument_dict {entries : Value.Entries} {text : String}
    (h : writeDocument (.dict entries) = .ok text) : text ≠ "" := by
  rw [writeDocument, write] at h
  cases hparts : writeEntries 1 entries with
  | error fault =>
      rw [hparts] at h
      cases h
  | ok parts =>
      rw [hparts] at h
      cases h
      cases parts with
      | nil => simp [enclose]
      | cons part parts => simp [enclose_cons]

end Conformance.Json
