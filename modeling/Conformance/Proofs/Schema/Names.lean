import Conformance.Proofs.Schema.Relaxation
import Conformance.Proofs.Value.Data

/-! # Names and keys

A record's keys are looked up among the declared names, and the names among the keys, both by
equality. Names are texts and whole numbers, so what equals one is of its kind, except that a truth
value equals the number it counts as. A record that is accepted without extra members therefore
has its keys and the names it needs in common up to strict equality, unless a key is a truth value.
-/

namespace Conformance.Schema

open Value (Atom Level)

/-- A text, or a whole number that is no truth value. -/
def IsName (name : Value) : Prop :=
  name.kind? = some .string ∨
    name.kind? = some .number ∧ ∃ n, name.number? = some (.int n)

/-- A truth value as a key, and the whole number it counts as. -/
def CountsAs (key name : Value) : Prop :=
  ∃ b, key = .bool b ∧ name.number? = some (.int (if b then 1 else 0))

theorem strictlyEqual_of_atom {left right : Value} {x : Atom} {kind : Kind}
    (hleft : Value.atom? left = some x) (hright : Value.atom? right = some x)
    (hkind : left.kind? = some kind) (hsame : right.kind? = some kind) :
    strictlyEqual left right = true := by
  simp [strictlyEqual, hkind, hsame, Value.equal_of_atom hleft hright]

section Names

variable {key name : Value} (hname : IsName name)

include hname

theorem IsName.exists_kind : ∃ kind, name.kind? = some kind ∧ kind ≠ .boolean := by
  rcases hname with hkind | ⟨hkind, -⟩
  · exact ⟨.string, hkind, nofun⟩
  · exact ⟨.number, hkind, nofun⟩

/-- Whichever of the two is looked up, a key that equals a name has its atom. -/
theorem IsName.exists_atom
    (h : Value.equal key name = true ∨ Value.equal name key = true) :
    ∃ x, Value.atom? key = some x ∧ Value.atom? name = some x := by
  obtain ⟨kind, hkind, -⟩ := hname.exists_kind
  have hhashable := Value.hashable_of_kind hkind
  have hleaf := Value.not_node_of_kind hkind
  rcases h with h | h
  · exact Value.exists_atom_of_equal hhashable hleaf h
  · rw [Value.equal_of_not_node hhashable hleaf, Value.atomEqual_eq_true_iff] at h
    obtain ⟨x, hatom, hkey⟩ := h
    exact ⟨x, hkey, hatom⟩

/-- A key that equals a name does so strictly, from either side, or is a truth value that counts
as the name. -/
theorem IsName.strict_or_counts
    (h : Value.equal key name = true ∨ Value.equal name key = true) :
    strictlyEqual key name = true ∧ strictlyEqual name key = true ∨ CountsAs key name := by
  obtain ⟨kind, hkind, hne⟩ := hname.exists_kind
  obtain ⟨x, hkey, hatom⟩ := hname.exists_atom h
  rcases (Level.whole hkey hatom).kinds with hsame | ⟨htruth, hnumber⟩ | ⟨-, htruth⟩
  · left
    have hkeyKind := hsame.trans hkind
    exact ⟨strictlyEqual_of_atom hkey hatom hkeyKind hkind,
      strictlyEqual_of_atom hatom hkey hkind hkeyKind⟩
  · right
    obtain ⟨b, rfl⟩ := Value.eq_bool_of_kind htruth
    obtain ⟨n, hn⟩ : ∃ n, name.number? = some (.int n) := by
      rcases hname with htext | ⟨-, hwhole⟩
      · simp [hnumber] at htext
      · exact hwhole
    have hequal := Value.equal_of_atom hkey hatom
    rw [Value.equal_of_numbers rfl hn, Value.Number.equal_int, decide_eq_true_iff] at hequal
    exact ⟨b, rfl, by rw [hn, hequal]⟩
  · rw [hkind] at htruth
    exact absurd (Option.some.inj htruth) hne

/-- No truth value strictly equals a name. -/
theorem IsName.not_strictlyEqual_bool (b : Bool) : strictlyEqual (.bool b) name = false := by
  obtain ⟨kind, hkind, hne⟩ := hname.exists_kind
  have hbool : (Value.bool b).kind? = some .boolean := rfl
  simp [strictlyEqual, hbool, hkind, hne]

end Names

/-! ## Accepted records -/

/-- The keys of a record that is accepted without extra members strictly equal a declared name or
are truth values that count as one, and there is such a key for every name that must not be absent.
The truth values are the only keys that strictly equal no name. -/
theorem validateObject_matches_names {calls : Interpretation}
    {value members allowExtraMembers matcher : Value} {known : Value.Entries}
    (hknown : entriesOf? members = some known) (hnames : ∀ d ∈ known, IsName d.1)
    (hclosed : allowExtraMembers.truthy = false)
    (hpassed :
      (validateObject calls value (.objectSchema members allowExtraMembers matcher)).Passed) :
    ∃ entries, value.entries? = some entries ∧
      (∀ e ∈ entries, ∃ d ∈ known, strictlyEqual e.1 d.1 = true ∨ CountsAs e.1 d.1) ∧
      (∀ d ∈ known, ¬ OptionalMember d.2 →
        ∃ e ∈ entries, strictlyEqual d.1 e.1 = true ∨ CountsAs e.1 d.1) ∧
      ∀ e ∈ entries, (∃ d ∈ known, strictlyEqual e.1 d.1 = true) ↔ ∀ b, e.1 ≠ .bool b := by
  obtain ⟨entries, known', hentries, hknown', hdeclared, -, hall⟩ := passed_validateObject.mp hpassed
  cases hknown.symm.trans hknown'
  have hkeys : ∀ e ∈ entries, ∃ d ∈ known, strictlyEqual e.1 d.1 = true ∨ CountsAs e.1 d.1 := by
    intro e he
    obtain ⟨-, d, hd, hequal⟩ := (declared_iff_names hknown).mp (hdeclared hclosed) e he
    exact ⟨d, hd, ((hnames d hd).strict_or_counts (.inl hequal)).imp_left And.left⟩
  refine ⟨entries, hentries, hkeys, ?_, ?_⟩
  · intro d hd hneeded
    cases hfound : entries.find? fun e => Value.equal d.1 e.1 with
    | none =>
        have habsent : memberValue entries d.1 = .missing := by
          simp [memberValue, Value.find?, hfound]
        exact absurd ((passed_missing_iff calls).mp (habsent ▸ hall d hd)) hneeded
    | some e =>
        have hequal : Value.equal d.1 e.1 = true := by simpa using List.find?_some hfound
        exact ⟨e, List.mem_of_find?_eq_some hfound,
          ((hnames d hd).strict_or_counts (.inr hequal)).imp_left And.right⟩
  · intro e he
    constructor
    · rintro ⟨d, hd, hstrict⟩ b hkey
      rw [hkey, (hnames d hd).not_strictlyEqual_bool b] at hstrict
      cases hstrict
    · intro hplain
      obtain ⟨d, hd, hstrict | ⟨b, hkey, -⟩⟩ := hkeys e he
      · exact ⟨d, hd, hstrict⟩
      · exact absurd hkey (hplain b)

/-- A numbered text, a rate, a numbered switch, and a note if there is one. -/
def portMembers : Value.Entries :=
  [(.int 1, .str "string"), (.str "rate", .str "number"), (.int 2, .str "boolean"),
    (.str "note",
      .complexSchema (.str "string") .null .null .null .null .null (.bool true) (.bool false))]

/-- The text stands under a truth value, the switch under a double. -/
def portEntries : Value.Entries :=
  [(.str "rate", .int 9600), (.bool true, .str "serial"),
    (.float (.ofUnits false (2 * Binary64.one) 1), .bool false)]

theorem validateObject_matches_names_port :
    (∀ d ∈ portMembers, IsName d.1) ∧
      (validateObject standard (.dict portEntries)
        (.objectSchema (.dict portMembers) (.bool false) .null)).Passed ∧
      (∀ e ∈ portEntries, ∃ d ∈ portMembers,
        strictlyEqual e.1 d.1 = true ∨ CountsAs e.1 d.1) ∧
      (∃ e ∈ portEntries, strictlyEqual (.int 2) e.1 = true ∨ CountsAs e.1 (.int 2)) ∧
      ¬ ∃ d ∈ portMembers, strictlyEqual (.bool true) d.1 = true := by
  have hnames : ∀ d ∈ portMembers, IsName d.1 := by
    simp [portMembers, IsName, Value.kind?, Value.number?]
  have hpassed : (validateObject standard (.dict portEntries)
      (.objectSchema (.dict portMembers) (.bool false) .null)).Passed := by
    decide +kernel
  obtain ⟨entries, hentries, hkeys, hneeded, hstrict⟩ :=
    validateObject_matches_names rfl hnames rfl hpassed
  cases hentries
  refine ⟨hnames, hpassed, hkeys, ?_, ?_⟩
  · exact hneeded (.int 2, .str "boolean") (by simp [portMembers]) (by simp [OptionalMember])
  · rw [hstrict (.bool true, .str "serial") (by simp [portEntries])]
    exact fun hplain => hplain true rfl

/-- A truth value as the only key is accepted for the name one, although they are not strictly
equal from either side. -/
theorem validateObject_takes_truth_for_one :
    IsName (.int 1) ∧ ¬ OptionalMember (.str "string") ∧
      (validateObject standard (.dict [(.bool true, .str "x")])
        (.objectSchema (.dict [(.int 1, .str "string")]) (.bool false) .null)).Passed ∧
      (¬ ∃ d ∈ [(Value.int 1, Value.str "string")], strictlyEqual (.bool true) d.1 = true) ∧
      ¬ ∃ e ∈ [(Value.bool true, Value.str "x")], strictlyEqual (.int 1) e.1 = true := by
  refine ⟨.inr ⟨rfl, 1, rfl⟩, nofun, by decide +kernel, by decide +kernel, by decide +kernel⟩

end Conformance.Schema
