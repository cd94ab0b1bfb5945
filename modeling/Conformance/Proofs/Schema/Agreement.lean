import Conformance.Proofs.Schema.Place
import Conformance.Proofs.Schema.Totality
import Conformance.Proofs.Value.Equivalence

/-! # Equal data get equal verdicts

A schema without predicates, whose bounds are numbers, cannot tell equivalent values apart: a
number may be an integer or a double, a text may be a member of an enumeration, and the keys of a
record may stand in any order. Every check and every comparison with a part of the schema has the
same outcome for both. All that is asked of the declared names is that a key is looked for among
them and not within a text, as it is when they are the keys of a mapping.
-/

namespace Conformance.Schema

open Value (Alike Equivalent Keyed Matched WellKeyed)

/-- A part of a record, if the record has it, is no predicate. -/
def uncalled (record : Value) (name : String) : Bool :=
  (record.part? name).all fun part => !part.isCallable

/-- The bounds of a record on numbers are numbers or absent. -/
def isBounded (number : Value) : Bool :=
  (number.part? "min").all isBound && (number.part? "max").all isBound

/-- The schema itself holds no predicate and bounds numbers by numbers. -/
def Plain : Value → Prop
  | .complexSchema _ array object _ string number _ _ =>
    uncalled array "matcher" = true ∧ uncalled object "matcher" = true ∧
      uncalled string "matcher" = true ∧ uncalled number "value" = true ∧
      isBounded number = true
  | _ => True

/-- A single text or bytes, of which only texts or bytes can be a part. -/
def isStretch (members : Value) : Bool :=
  match members.layer with
  | .bytes _ => true
  | members => members.text?.isSome

/-- Keys are looked for among declared names, never within a text. -/
def Lists : Value → Prop
  | .complexSchema _ _ (.objectSchema members allowExtraMembers _) _ _ _ _ _ =>
    allowExtraMembers.truthy = false → isStretch members = false
  | _ => True

/-- The members of an object are a mapping, if they are of the type that is declared for them. -/
theorem lists_of_mapping {scalar array members allowExtraMembers matcher enumeration string number
    optional nullable : Value} {entries : Value.Entries} (h : entriesOf? members = some entries) :
    Lists (.complexSchema scalar array (.objectSchema members allowExtraMembers matcher) enumeration
      string number optional nullable) := by
  intro _
  cases members <;> first | rfl | cases h

theorem not_callable_of_uncalled {record part : Value} {name : String}
    (h : uncalled record name = true) (hpart : record.part? name = some part) :
    part.isCallable = false := by
  simpa [uncalled, hpart] using h

theorem callMatcher_of_not_callable {matcher : Value} (calls : Interpretation) (value : Value)
    (h : matcher.isCallable = false) :
    callMatcher calls matcher value = .fail (.type (.notCallable matcher.typeLabel)) := by
  cases matcher <;> first | rfl | cases h

theorem callMatcher_agree {matcher : Value} (calls : Interpretation) (value value' : Value)
    (h : matcher.isCallable = false) :
    callMatcher calls matcher value = callMatcher calls matcher value' := by
  rw [callMatcher_of_not_callable calls value h, callMatcher_of_not_callable calls value' h]

theorem passesMatcher_agree {matcher : Value} (calls : Interpretation) (value value' : Value)
    (h : matcher.isCallable = false) :
    passesMatcher calls matcher value = passesMatcher calls matcher value' := by
  rw [passesMatcher, passesMatcher, callMatcher_agree calls value value' h]

/-! ## Scalars -/

theorem text?_agree {value value' : Value} (hkind : value.kind? = some .string)
    (hkind' : value'.kind? = some .string) (hequal : Value.equal value value' = true) :
    ∃ s, value.text? = some s ∧ value'.text? = some s := by
  obtain ⟨s, hs⟩ := Value.text?_of_kind hkind
  obtain ⟨t, ht⟩ := Value.text?_of_kind hkind'
  rw [equal_of_texts hs ht, beq_iff_eq] at hequal
  exact ⟨s, hs, hequal ▸ ht⟩

theorem number?_agree {value value' : Value} (hkind : value.kind? = some .number)
    (hkind' : value'.kind? = some .number) (hequal : Value.equal value value' = true) :
    ∃ a b, value.number? = some a ∧ value'.number? = some b ∧ a.equal b = true := by
  obtain ⟨a, ha⟩ := Value.number?_of_kind hkind
  obtain ⟨b, hb⟩ := Value.number?_of_kind hkind'
  exact ⟨a, b, ha, hb, Value.equal_of_numbers ha hb ▸ hequal⟩

theorem equal_agree {value value' : Value} {kind : Kind} (hkind : value.kind? = some kind)
    (hkind' : value'.kind? = some kind) (hequal : Value.equal value value' = true)
    (other : Value) : Value.equal value other = Value.equal value' other :=
  Value.equal_left_congr (Value.hashable_of_kind hkind) (Value.hashable_of_kind hkind') hequal
    other

theorem validateString_agree {value value' string : Value} (calls : Interpretation)
    (hkind : value.kind? = some .string) (hkind' : value'.kind? = some .string)
    (hequal : Value.equal value value' = true) (hstring : uncalled string "matcher" = true) :
    validateString calls value string = validateString calls value' string := by
  obtain ⟨s, hs, hs'⟩ := text?_agree hkind hkind' hequal
  unfold validateString Value.part
  cases hpart : string.part? "matcher" with
  | none => rfl
  | some matcher =>
      have hcallable := not_callable_of_uncalled hstring hpart
      have hcall := callMatcher_agree calls value value' hcallable
      have hsearch : ∀ p, searchPattern p value = searchPattern p value' := by
        intro p
        unfold searchPattern
        rw [hs, hs']
        cases p.source <;> rfl
      simp only [Outcome.bind_eq_bind, Outcome.liftM_eq_ofExcept, Outcome.ofExcept_ok,
        Outcome.bind_pure_left, hcall, hsearch, equal_agree hkind hkind' hequal]

section Numbers

variable {value value' : Value} {a b : Value.Number}

theorem outside_agree {bound : Value} (comparison : Value.Comparison)
    (ha : value.number? = some a) (hb : value'.number? = some b) (hequal : a.equal b = true)
    (hbound : isBound bound = true) :
    outside comparison value bound = outside comparison value' bound := by
  unfold outside
  cases hnull : bound.isNull with
  | true => rfl
  | false =>
      obtain ⟨c, hc⟩ := Option.isSome_iff_exists.mp (by simpa [isBound, hnull] using hbound)
      obtain ⟨hleft, hright⟩ := Value.Number.less_of_equal hequal c
      rw [Value.compare_of_numbers comparison ha hc, Value.compare_of_numbers comparison hb hc]
      cases comparison <;> simp [Value.Comparison.apply, hleft, hright]

theorem minus_agree (ha : value.number? = some a) (hb : value'.number? = some b)
    (hequal : a.equal b = true) (x : Binary64) :
    (value.minus x).map Binary64.abs = (value'.minus x).map Binary64.abs := by
  have hdistance : ∀ {value : Value} {a : Value.Number}, value.number? = some a →
      (value.minus x).map Binary64.abs =
        (a.distance? x).elim (.error (.overflow .integerToDouble)) .ok := by
    intro value a ha
    unfold Value.minus Value.Number.toDouble Value.Number.distance?
    cases hdouble : a.toDouble? <;>
      simp [ha, hdouble, bind, Except.bind, pure, Except.pure, Except.map]
  rw [hdistance ha, hdistance hb, Value.Number.distance?_of_equal hequal]

/-- Order, wholeness and distance are the same for equal numbers, so a record on numbers admits
both or none. -/
theorem admitsNumber_agree {number : Value} (ha : value.number? = some a)
    (hb : value'.number? = some b) (hequal : a.equal b = true)
    (hbounded : isBounded number = true) :
    admitsNumber value number = admitsNumber value' number := by
  rw [isBounded, Bool.and_eq_true] at hbounded
  have hbounds : outsideBounds value number = outsideBounds value' number := by
    unfold outsideBounds Value.part
    cases hmin : number.part? "min" with
    | none => rfl
    | some min =>
        have hbelow := outside_agree .below ha hb hequal (by simpa [hmin] using hbounded.1)
        cases hmax : number.part? "max" with
        | none => simp only [bind, Except.bind, hbelow]
        | some max =>
            have habove := outside_agree .above ha hb hequal (by simpa [hmax] using hbounded.2)
            simp only [bind, Except.bind, hbelow, habove]
  unfold admitsNumber
  rw [hbounds, isIntegral_of_number ha, isIntegral_of_number hb,
    Value.Number.isIntegral_of_equal hequal]

theorem matchesLiteral_agree {literal number : Value}
    (hliteral : Value.equal value literal = Value.equal value' literal)
    (ha : value.number? = some a) (hb : value'.number? = some b) (hequal : a.equal b = true) :
    matchesLiteral value literal number = matchesLiteral value' literal number := by
  cases literal
  case float x =>
    -- Only the distance goes into the comparison with the tolerance.
    have hdistance : ∀ subject : Value,
        matchesLiteral subject (.float x) number =
          if x.isInteger then .ok (Value.equal subject (.float x))
          else ((subject.minus x).map Binary64.abs).bind fun distance =>
            (number.part "epsilon").bind fun epsilon =>
              Value.compare .below (.float distance) epsilon := by
      intro subject
      cases hminus : subject.minus x <;>
        simp [matchesLiteral, hminus, bind, Except.bind, Except.map]
    rw [hdistance, hdistance, hliteral, minus_agree ha hb hequal]
  all_goals exact congrArg Except.ok hliteral

end Numbers

theorem validateNumber_agree {value value' number : Value} (calls : Interpretation)
    (hkind : value.kind? = some .number) (hkind' : value'.kind? = some .number)
    (hequal : Value.equal value value' = true) (hnumber : uncalled number "value" = true)
    (hbounded : isBounded number = true) :
    validateNumber calls value number = validateNumber calls value' number := by
  obtain ⟨a, b, ha, hb, hnumbers⟩ := number?_agree hkind hkind' hequal
  unfold validateNumber
  rw [admitsNumber_agree ha hb hnumbers hbounded]
  unfold Value.part
  cases hpart : number.part? "value" with
  | none => rfl
  | some literal =>
      have hcallable := not_callable_of_uncalled hnumber hpart
      have hcall := callMatcher_agree calls value value' hcallable
      have hliteral := equal_agree hkind hkind' hequal literal
      simp only [Outcome.bind_eq_bind, Outcome.liftM_eq_ofExcept, Outcome.ofExcept_ok,
        Outcome.bind_pure_left, hcall, matchesLiteral_agree hliteral ha hb hnumbers]

/-- Equal scalars of one kind meet the constraints of a scalar alike. -/
theorem validateScalar_agree
    {value value' scalar array object enumeration string number optional nullable : Value}
    {kind : Kind} (calls : Interpretation) (h : Equivalent value value')
    (htag : tag? scalar = some kind)
    (hplain : Plain
      (.complexSchema scalar array object enumeration string number optional nullable)) :
    validateScalar calls value
        (.complexSchema scalar array object enumeration string number optional nullable) =
      validateScalar calls value'
        (.complexSchema scalar array object enumeration string number optional nullable) := by
  obtain ⟨-, -, hstring, hnumber, hbounded⟩ := hplain
  rw [validateScalar_of_tag calls htag, validateScalar_of_tag calls htag, ← h.kind?_eq]
  by_cases hkind : value.kind? = some kind
  · rw [if_pos hkind, if_pos hkind]
    cases h with
    | closed hclosed => rfl
    | scalar hleft hright hequal =>
        cases hkind.symm.trans hleft
        cases kind with
        | string => rw [validateString_agree calls hleft hright hequal hstring]
        | number => rw [validateNumber_agree calls hleft hright hequal hnumber hbounded]
        | boolean => rfl
    | _ => cases hkind
  · rw [if_neg hkind, if_neg hkind]

theorem strictlyEqual_agree {value value' : Value} (h : Equivalent value value')
    (hvalue : WellKeyed value) (hvalue' : WellKeyed value') (option : Value) :
    strictlyEqual value option = strictlyEqual value' option := by
  unfold strictlyEqual
  rw [← h.kind?_eq, h.equal_eq hvalue hvalue']
  cases hkind : value.kind? with
  | some kind => rfl
  | none => simp only [sameType, h.typeName_eq hkind]

theorem validateEnum_agree {value value' : Value} (h : Equivalent value value')
    (hvalue : WellKeyed value) (hvalue' : WellKeyed value') (options : Value) :
    validateEnum value options = validateEnum value' options := by
  unfold validateEnum
  rw [funext (strictlyEqual_agree h hvalue hvalue')]

/-! ## Lists -/

theorem checkArray_agree {value value' array : Value} (calls : Interpretation)
    (h : Equivalent value value') (harray : uncalled array "matcher" = true) :
    checkArray calls value array = checkArray calls value' array := by
  unfold checkArray
  rcases h.items? with ⟨hitems, hitems'⟩ | ⟨xs, ys, hitems, hitems', halike⟩
  · rw [hitems, hitems']
  · rw [hitems, hitems']
    cases array
    case arraySchema itemType length minLength maxLength matcher =>
      have hcallable : matcher.isCallable = false := not_callable_of_uncalled harray rfl
      simp only [admitsArray_eq_andThen, halike.length_eq,
        passesMatcher_agree calls value value' hcallable]
    all_goals rfl

theorem all_items_agree {test : Value → Outcome Bool} {xs ys : List Value} (h : Alike xs ys)
    (htest : ∀ x ∈ xs, ∀ y ∈ ys, Equivalent x y → test x = test y) :
    Outcome.all test xs = Outcome.all test ys := by
  obtain ⟨hlength, hitems⟩ := h
  induction xs generalizing ys with
  | nil => rw [List.length_eq_zero_iff.mp hlength.symm]
  | cons x xs ih =>
      cases ys with
      | nil => cases hlength
      | cons y ys =>
          rw [Outcome.all_cons, Outcome.all_cons,
            htest x List.mem_cons_self y List.mem_cons_self (hitems 0 x y rfl rfl),
            ih (fun x' hx y' hy => htest x' (List.mem_cons_of_mem x hx) y'
              (List.mem_cons_of_mem y hy)) (Nat.succ.inj hlength) fun i => hitems (i + 1)]

/-! ## Records -/

/-- Is a key among some values? Equal keys are, or are not, alike. -/
theorem any_equal_congr (items : List Value) {key key' : Value}
    (hkey : Value.unhashable? key = none) (hkey' : Value.unhashable? key' = none)
    (hequal : Value.equal key key' = true) :
    (items.any fun item => Value.equal item key) = items.any fun item => Value.equal item key' := by
  simp only [Value.equal_right_congr hkey hkey' hequal]

/-- Whether a key is among declared names that are no single text is the same fault for every key,
or an answer for every key, and equal keys get the same one. -/
theorem contains_of_not_stretch {members : Value} (h : isStretch members = false) :
    (∃ fault, ∀ key, members.contains key = .error fault) ∨
      ∃ test : Value → Bool,
        (∀ key, Value.unhashable? key = none → members.contains key = .ok (test key)) ∧
        ∀ key key', Value.unhashable? key = none → Value.unhashable? key' = none →
          Value.equal key key' = true → test key = test key' := by
  have hrecord : ∀ entries : Value.Entries, ∀ key key', Value.unhashable? key = none →
      Value.unhashable? key' = none → Value.equal key key' = true →
      (Value.find? entries key).isSome = (Value.find? entries key').isSome := by
    intro entries key key' hkey hkey' hequal
    rw [Value.find?_congr hkey hkey' hequal]
  have hlookup : ∀ (entries : Value.Entries) (key : Value), Value.unhashable? key = none →
      (Value.lookup entries key).map (·.isSome) = .ok (Value.find? entries key).isSome := by
    intro entries key hkey
    rw [Value.lookup, hkey]
    rfl
  unfold isStretch at h
  unfold Value.contains
  generalize members.layer = container at h ⊢
  cases container
  case list items => exact .inr ⟨_, fun _ _ => rfl, fun _ _ => any_equal_congr items⟩
  case listSubtype items => exact .inr ⟨_, fun _ _ => rfl, fun _ _ => any_equal_congr items⟩
  case tuple items => exact .inr ⟨_, fun _ _ => rfl, fun _ _ => any_equal_congr items⟩
  case set items =>
    refine .inr ⟨_, fun key hkey => ?_, fun _ _ => any_equal_congr items⟩
    simp only [hkey]
    rfl
  case dict entries => exact .inr ⟨_, hlookup entries, hrecord entries⟩
  case orderedDict entries => exact .inr ⟨_, hlookup entries, hrecord entries⟩
  case str s => cases h
  case bytes b => cases h
  case member m =>
    left
    cases htext : (Value.member m).text? with
    | some s => simp [htext] at h
    | none => exact ⟨_, fun key => by simp only [htext]; rfl⟩
  all_goals exact .inl ⟨_, fun _ => rfl⟩

/-- The order of the keys does not decide whether all of them are declared. -/
theorem declared_agree {members : Value} {es fs : Value.Entries} (h : Matched es fs)
    (hes : Keyed es) (hfs : Keyed fs) (hmembers : isStretch members = false) :
    declared members es = declared members fs := by
  rcases contains_of_not_stretch hmembers with ⟨fault, hfault⟩ | ⟨test, htest, hcongr⟩
  · have hdeclared : ∀ entries : Value.Entries,
        declared members entries = if entries.isEmpty then .ok true else .error fault := by
      intro entries
      cases entries with
      | nil => rfl
      | cons e entries =>
          rw [declared, hfault]
          rfl
    have hlength := h.length_eq hes hfs
    rw [hdeclared, hdeclared]
    cases es <;> cases fs <;> first | rfl | cases hlength
  · have hdeclared : ∀ entries : Value.Entries, (∀ e ∈ entries, Value.unhashable? e.1 = none) →
        declared members entries = .ok (entries.all fun e => test e.1) := by
      intro entries hentries
      induction entries with
      | nil => rfl
      | cons e entries ih =>
          obtain ⟨name, member⟩ := e
          rw [declared, htest name (hentries (name, member) List.mem_cons_self),
            ih fun e' he' => hentries e' (List.mem_cons_of_mem _ he'), List.all_cons]
          cases test name <;> rfl
    rw [hdeclared es hes.1, hdeclared fs hfs.1,
      h.all_eq fun e he f hf hequal => hcongr e.1 f.1 (hes.1 e he) (hfs.1 f hf) hequal]

theorem checkObject_agree {value value' object : Value} (calls : Interpretation)
    (h : Equivalent value value') (hvalue : WellKeyed value) (hvalue' : WellKeyed value')
    (hobject : uncalled object "matcher" = true)
    (hlists : ∀ members allowExtraMembers matcher,
      object = .objectSchema members allowExtraMembers matcher →
      allowExtraMembers.truthy = false → isStretch members = false) :
    checkObject calls value object = checkObject calls value' object := by
  unfold checkObject
  rcases h.entries? with ⟨hentries, hentries'⟩ | ⟨es, fs, hentries, hentries', hmatched⟩
  · rw [hentries, hentries']
  · rw [hentries, hentries']
    have hes := (hvalue.of_mapping (Value.mapping?_of_entries hentries).1).1
    have hfs := (hvalue'.of_mapping (Value.mapping?_of_entries hentries').1).1
    cases object
    case objectSchema members allowExtraMembers matcher =>
      have hcallable : matcher.isCallable = false := not_callable_of_uncalled hobject rfl
      simp only [admitsObject, passesMatcher_agree calls value value' hcallable]
      cases hextra : allowExtraMembers.truthy with
      | true => rfl
      | false =>
          rw [declared_agree hmatched hes hfs (hlists _ _ _ rfl hextra)]
    all_goals rfl

theorem memberValue_agree {es fs : Value.Entries} (h : Matched es fs) (hes : Keyed es)
    (hfs : Keyed fs) {name : Value} (hname : Value.unhashable? name = none) :
    Equivalent (memberValue es name) (memberValue fs name) := by
  unfold memberValue
  rcases h.find? hes hfs hname with ⟨hx, hy⟩ | ⟨x, y, hx, hy, hequivalent⟩
  · rw [hx, hy]
    exact .closed rfl
  · rw [hx, hy]
    exact hequivalent

section Whole

variable {value value' : Value} (calls : Interpretation) (h : Equivalent value value')
  (hvalue : WellKeyed value) (hvalue' : WellKeyed value')

include h hvalue hvalue'

/-- What a schema asks of a value itself it asks alike of an equivalent one. -/
theorem check_agree {schema : Value} (hplain : Plain schema) (hlists : Lists schema) :
    check calls value schema = check calls value' schema := by
  have htag : validateSimple value schema = validateSimple value' schema := by
    rw [validateSimple, validateSimple, h.kind?_eq]
  cases schema
  case complexSchema scalar array object enumeration string number optional nullable =>
    rw [check, check]
    cases hkind : aggregation
        (.complexSchema scalar array object enumeration string number optional nullable) with
    | error fault =>
        obtain ⟨other, hfault⟩ := exists_inferAggregation_error hkind
        exact Outcome.bind_of_error hfault _ _
    | ok kind =>
        obtain ⟨-, hconstrained⟩ := aggregation_eq_ok_iff.mp hkind
        rw [inferAggregation_of_ok hkind, Outcome.bind_pure_left, Outcome.bind_pure_left,
          h.isNull_eq, h.isMissing_eq]
        have harray := hplain.1
        have hobject := hplain.2.1
        cases kind with
        | scalar =>
            obtain ⟨tag, htag, -⟩ := hconstrained
            rw [validateScalar_agree calls h htag hplain]
        | array => rw [checkArray_agree calls h harray]
        | object =>
            have hnames : ∀ members allowExtraMembers matcher,
                object = .objectSchema members allowExtraMembers matcher →
                allowExtraMembers.truthy = false → isStretch members = false := by
              rintro members allowExtraMembers matcher rfl
              exact hlists
            rw [checkObject_agree calls h hvalue hvalue' hobject hnames]
        | enumeration => rw [validateEnum_agree h hvalue hvalue']
  all_goals simp only [check, htag]

/-- The parts that are handed on are equivalent as well, and go to the same schemas. -/
theorem all_children_agree {schema : Value} (hschema : WellKeyed schema)
    (hparts : ∀ part ∈ parts schema, ∀ member member', Equivalent member member' →
      WellKeyed member → WellKeyed member' →
      validate calls member part = validate calls member' part) :
    Outcome.all (fun q => validate calls q.1 q.2) (children value schema) =
      Outcome.all (fun q => validate calls q.1 q.2) (children value' schema) := by
  cases schema
  case complexSchema scalar array object enumeration string number optional nullable =>
    have hnames := (wellKeyed_memberSchemas hschema).1.1
    rw [children, children, h.isNull_eq, h.isMissing_eq]
    split
    · rfl
    · split
      · rw [Outcome.all_flatMap, Outcome.all_flatMap]
        apply Outcome.all_congr
        intro itemType hitem
        have hpart := hparts itemType (List.mem_append_left _ hitem)
        rw [Outcome.all_map, Outcome.all_map]
        rcases h.items? with ⟨hitems, hitems'⟩ | ⟨xs, ys, hitems, hitems', halike⟩
        · rw [hitems, hitems']
        · rw [hitems, hitems']
          have hxs := hvalue.of_sequence (Value.sequence?_of_items hitems).1
          have hys := hvalue'.of_sequence (Value.sequence?_of_items hitems').1
          exact all_items_agree halike fun x hx y hy hxy => hpart x y hxy (hxs x hx) (hys y hy)
      · rcases h.entries? with ⟨hentries, hentries'⟩ | ⟨es, fs, hentries, hentries', hmatched⟩
        · rw [hentries, hentries']
        · have hes := hvalue.of_mapping (Value.mapping?_of_entries hentries).1
          have hfs := hvalue'.of_mapping (Value.mapping?_of_entries hentries').1
          rw [hentries, hentries', Outcome.all_map, Outcome.all_map]
          apply Outcome.all_congr
          intro d hd
          have hmember := memberValue_agree hmatched hes.1 hfs.1 (hnames d hd)
          have hpart := hparts d.2 (List.mem_append_right _ (List.mem_map.mpr ⟨d, hd, rfl⟩))
          exact hpart _ _ hmember (wellKeyed_memberValue hes.2 d.1)
            (wellKeyed_memberValue hfs.2 d.1)
      · rfl
  all_goals rfl

end Whole

/-- Against a schema without predicates, whose bounds are numbers and whose declared names are no
single text, validation of equivalent values is one and the same run. -/
theorem validate_equivalent (calls : Interpretation) {value value' schema : Value}
    (h : Equivalent value value') (hvalue : WellKeyed value) (hvalue' : WellKeyed value')
    (hschema : WellKeyed schema) (hplain : Every Plain schema) (hlists : Every Lists schema) :
    validate calls value schema = validate calls value' schema := by
  induction schema using induction_on_parts generalizing value value' with
  | step schema ih =>
      rw [validate_eq_andThen, validate_eq_andThen calls value' schema,
        check_agree calls h hvalue hvalue' hplain.root hlists.root,
        all_children_agree calls h hvalue hvalue' hschema fun part hpart member member' hmember
          hkeyed hkeyed' => ih part hpart hmember hkeyed hkeyed'
            (wellKeyed_of_mem_parts hschema hpart) (hplain.part hpart) (hlists.part hpart)]

def two : Binary64 := .ofUnits false (2 * Binary64.one) 1

def oneAsDouble : Binary64 := .ofUnits false Binary64.one 1

def atMostTwo : Value :=
  .complexSchema (.str "number") .null .null .null .null
    (.numberSchema .null .null (.float two) (.bool true) (.float defaultEpsilon)) (.bool false)
    (.bool false)

def pairing : Value :=
  .complexSchema .null .null
    (.objectSchema (.dict [(.int 1, atMostTwo), (.str "b", .str "string")]) (.bool false) .null)
    .null .null .null (.bool false) (.bool false)

def pair : Value := .dict [(.int 1, .int 2), (.str "b", .str "a")]

/-- The same in another order, with doubles for integers and a member of an enumeration. -/
def respelled : Value :=
  .dict [(.str "b", .member ⟨"Mode", "A", .text, .text "a"⟩), (.float oneAsDouble, .float two)]

theorem equivalent_pair : Equivalent pair respelled := by
  have hone : Value.equal (.int 1) (.float oneAsDouble) = true := by decide +kernel
  have hdifferent : Value.equal (.int 1) (.str "b") = false := by decide
  have hdifferent' : Value.equal (.str "b") (.float oneAsDouble) = false := by decide
  have hsame : Value.equal (.str "b") (.str "b") = true := by decide
  have htwo : Equivalent (.int 2) (.float two) := .scalar rfl rfl (by decide +kernel)
  have htext : Equivalent (.str "a") (.member ⟨"Mode", "A", .text, .text "a"⟩) :=
    .scalar rfl rfl (by decide)
  refine .dict ?_ ?_ ?_ <;>
    simp [hone, hdifferent, hdifferent', hsame, htwo, htext]

theorem wellKeyed_pair : WellKeyed pair ∧ WellKeyed respelled := by
  have hkeyed : Keyed [(.int 1, .int 2), (.str "b", .str "a")] := by decide
  have hkeyed' : Keyed [(.str "b", .member ⟨"Mode", "A", .text, .text "a"⟩),
      (.float oneAsDouble, .float two)] := by decide
  have hflat : WellKeyed (.int 2) ∧ WellKeyed (.str "a") ∧
      WellKeyed (.member ⟨"Mode", "A", .text, .text "a"⟩) ∧ WellKeyed (.float two) :=
    ⟨.of_flat trivial rfl, .of_flat trivial rfl, .of_flat trivial rfl, .of_flat trivial rfl⟩
  exact ⟨.intro hkeyed (by simp [pair, Value.components, hflat]),
    .intro hkeyed' (by simp [respelled, Value.components, hflat])⟩

theorem wellKeyed_pairing : WellKeyed pairing := by
  have hnull : WellKeyed .null := .of_flat trivial rfl
  have hbool : ∀ b, WellKeyed (.bool b) := fun _ => .of_flat trivial rfl
  have hfloat : ∀ x, WellKeyed (.float x) := fun _ => .of_flat trivial rfl
  have htext : ∀ s, WellKeyed (.str s) := fun _ => .of_flat trivial rfl
  have hbounds : WellKeyed
      (.numberSchema .null .null (.float two) (.bool true) (.float defaultEpsilon)) :=
    .intro trivial (by simp [Value.components, hnull, hbool, hfloat])
  have hnumber : WellKeyed atMostTwo :=
    .intro trivial (by simp [atMostTwo, Value.components, hnull, hbool, htext, hbounds])
  have hkeyed : Keyed [(.int 1, atMostTwo), (.str "b", .str "string")] := by decide
  have hmembers : WellKeyed (.dict [(.int 1, atMostTwo), (.str "b", .str "string")]) :=
    .intro hkeyed (by simp [Value.components, hnumber, htext])
  have hobject : WellKeyed (.objectSchema
      (.dict [(.int 1, atMostTwo), (.str "b", .str "string")]) (.bool false) .null) :=
    .intro trivial (by simp [Value.components, hnull, hbool, hmembers])
  exact .intro trivial (by simp [pairing, Value.components, hnull, hbool, hobject])

theorem plain_pairing : Every Plain pairing ∧ Every Lists pairing := by
  have hparts : parts pairing = [atMostTwo, .str "string"] := rfl
  have hnone : ∀ part ∈ [atMostTwo, .str "string"], parts part = [] := by
    simp [atMostTwo, parts, itemTypes, declarations]
  constructor
  · refine .intro ⟨rfl, rfl, rfl, rfl, rfl⟩ fun part hpart => .intro ?_ ?_
    · rw [hparts] at hpart
      simp only [List.mem_cons, List.not_mem_nil, or_false] at hpart
      rcases hpart with rfl | rfl
      · exact ⟨rfl, rfl, rfl, rfl, rfl⟩
      · trivial
    · simp [hnone part (hparts ▸ hpart)]
  · refine .intro (lists_of_mapping rfl) fun part hpart => .intro ?_ ?_
    · rw [hparts] at hpart
      simp only [List.mem_cons, List.not_mem_nil, or_false] at hpart
      rcases hpart with rfl | rfl <;> trivial
    · simp [hnone part (hparts ▸ hpart)]

theorem validate_equivalent_pair :
    Equivalent pair respelled ∧ WellKeyed pair ∧ WellKeyed respelled ∧ WellKeyed pairing ∧
      Every Plain pairing ∧ Every Lists pairing ∧
      validate standard pair pairing = validate standard respelled pairing := by
  obtain ⟨hpair, hrespelled⟩ := wellKeyed_pair
  obtain ⟨hplain, hlists⟩ := plain_pairing
  exact ⟨equivalent_pair, hpair, hrespelled, wellKeyed_pairing, hplain, hlists,
    validate_equivalent standard equivalent_pair hpair hrespelled wellKeyed_pairing hplain hlists⟩

end Conformance.Schema
