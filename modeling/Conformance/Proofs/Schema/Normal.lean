import Conformance.Proofs.Schema.Container
import Conformance.Proofs.Schema.Scalar
import Conformance.Proofs.Value.Keys

/-! # Normal schemas

A schema can say one thing in several ways: a kind by its tag or by a structured schema, a scalar
without constraints by an empty record of constraints, an exact length by a least and a greatest
one. `normal` picks one way at every depth. Validation against a schema and against its normal form
is the same run: the same result, the same calls and the same log.
-/

namespace Conformance.Schema

open Value (Number)

/-- The structured schema that asks for a kind and nothing else. -/
def scalarOf (tag : Value) : Value :=
  .complexSchema tag .null .null .null .null .null (.bool false) (.bool false)

/-- A record of constraints on texts that has no matcher is left out. -/
def normalString : Value → Value
  | .stringSchema .null => .null
  | string => string

/-- A record of constraints on numbers that constrains nothing is left out. -/
def normalNumber : Value → Value
  | .numberSchema .null .null .null isInteger epsilon =>
    if isInteger.truthy then .numberSchema .null .null .null isInteger epsilon else .null
  | number => number

def integer? (value : Value) : Option Int :=
  match value.number? with
  | some (.int n) => some n
  | _ => none

/-- A length that an array is bounded by, if it is an integer or absent. -/
def limit? (bound : Value) : Option (Option Int) :=
  if bound.isNull then some none else (integer? bound).map some

/-- An exact length with the bounds beside it: as two bounds, where all of them are integers. -/
structure Lengths where
  exact : Value
  least : Value
  greatest : Value

def Lengths.normal (lengths : Lengths) : Lengths :=
  match integer? lengths.exact, limit? lengths.least, limit? lengths.greatest with
  | some n, some least, some greatest =>
    ⟨.null, .int (max n (least.getD n)), .int (min n (greatest.getD n))⟩
  | _, _, _ => lengths

mutual

/-- The normal form of a schema, at every depth. -/
def normal (schema : Value) : Value :=
  match schema with
  | .complexSchema scalar array object enumeration string number optional nullable =>
    .complexSchema scalar (normalArray array) (normalObject object) enumeration
      (normalString string) (normalNumber number) optional nullable
  | schema => if isSimple schema then scalarOf schema else schema
termination_by structural schema

def normalArray (array : Value) : Value :=
  match array with
  | .arraySchema itemType length minLength maxLength matcher =>
    let lengths := Lengths.normal ⟨length, minLength, maxLength⟩
    .arraySchema (normal itemType) lengths.exact lengths.least lengths.greatest matcher
  | array => array
termination_by structural array

def normalObject (object : Value) : Value :=
  match object with
  | .objectSchema members allowExtraMembers matcher =>
    .objectSchema (normalMembers members) allowExtraMembers matcher
  | object => object
termination_by structural object

def normalMembers (members : Value) : Value :=
  match members with
  | .dict declared => .dict (normalEntries declared)
  | .orderedDict declared => .orderedDict (normalEntries declared)
  | members => members
termination_by structural members

def normalEntries (declared : List (Value × Value)) : List (Value × Value) :=
  match declared with
  | [] => []
  | (name, schema) :: rest => (name, normal schema) :: normalEntries rest
termination_by structural declared

end

/-- A tag, or a structured schema that satisfies the contract. -/
def Lawful (schema : Value) : Prop :=
  isSimple schema = true ∨ ∃ kind, aggregation schema = .ok kind

/-! ## Nested schemas -/

theorem normalEntries_eq_map (declared : Value.Entries) :
    normalEntries declared = declared.map fun e => (e.1, normal e.2) := by
  induction declared with
  | nil => rw [normalEntries, List.map_nil]
  | cons e declared ih =>
      obtain ⟨name, schema⟩ := e
      rw [normalEntries, ih, List.map_cons]

theorem entriesOf?_normalMembers (members : Value) :
    entriesOf? (normalMembers members) =
      (entriesOf? members).map fun declared => declared.map fun e => (e.1, normal e.2) := by
  cases members <;> simp [normalMembers, entriesOf?, normalEntries_eq_map]

theorem normalMembers_of_none {members : Value} (h : entriesOf? members = none) :
    normalMembers members = members := by
  cases members
  case dict => cases h
  case orderedDict => cases h
  all_goals simp [normalMembers]

theorem typeLabel_normalMembers (members : Value) :
    (normalMembers members).typeLabel = members.typeLabel := by
  cases members <;> rw [normalMembers] <;> first | rfl | simp

theorem itemTypes_normalArray (array : Value) :
    itemTypes (normalArray array) = (itemTypes array).map normal := by
  cases array <;> simp [normalArray, itemTypes]

theorem declarations_normalObject (object : Value) :
    declarations (normalObject object) =
      (declarations object).map fun e => (e.1, normal e.2) := by
  cases object
  case objectSchema members allowExtraMembers matcher =>
    rw [normalObject, declarations, declarations, entriesOf?_normalMembers]
    cases entriesOf? members <;> simp
  all_goals simp [normalObject, declarations]

theorem isNull_normalArray (array : Value) : (normalArray array).isNull = array.isNull := by
  cases array <;> simp [normalArray, Value.isNull]

theorem isNull_normalObject (object : Value) : (normalObject object).isNull = object.isNull := by
  cases object <;> simp [normalObject, Value.isNull]

theorem number?_of_integer {value : Value} {n : Int} (h : integer? value = some n) :
    value.number? = some (.int n) := by
  unfold integer? at h
  split at h
  · next m hm =>
      cases h
      exact hm
  · cases h

/-- Is a size on the wrong side of a limit? -/
def beyondLimit (comparison : Value.Comparison) (size : Nat) : Option Int → Bool
  | none => false
  | some n => comparison.apply (fun a b : Int => decide (a < b)) size n

theorem outside_of_limit (comparison : Value.Comparison) (size : Nat) {bound : Value}
    {limit : Option Int} (h : limit? bound = some limit) :
    outside comparison (.int size) bound = .ok (beyondLimit comparison size limit) := by
  unfold limit? at h
  split at h
  · next hnull =>
      cases h
      simp [outside, hnull, beyondLimit]
  · obtain ⟨n, hn, rfl⟩ := Option.map_eq_some_iff.mp h
    rw [outside_of_number rfl (number?_of_integer hn)]
    cases comparison <;> simp [beyondLimit, Value.Comparison.apply, Number.less_int]

/-- A size is `n` and within both limits exactly when it is within the limits closed up to `n`. -/
theorem within_limits_iff (size : Nat) (n : Int) (least greatest : Option Int) :
    (decide ((size : Int) = n) && !beyondLimit .below size least
        && !beyondLimit .above size greatest) =
      (!beyondLimit .below size (some (max n (least.getD n)))
        && !beyondLimit .above size (some (min n (greatest.getD n)))) := by
  rw [Bool.eq_iff_iff]
  cases least <;> cases greatest <;>
    simp [beyondLimit, Value.Comparison.apply] <;> omega

theorem admitsLength_normal (size : Nat) (lengths : Lengths) :
    admitsLength size lengths.normal.exact lengths.normal.least lengths.normal.greatest =
      admitsLength size lengths.exact lengths.least lengths.greatest := by
  unfold Lengths.normal
  split
  · next n least greatest hn hleast hgreatest =>
      have hnumber := number?_of_integer hn
      have hlimit : ∀ n : Int, limit? (.int n) = some (some n) := fun _ => rfl
      have hequal : Value.equal (.int size) lengths.exact = decide ((size : Int) = n) := by
        rw [Value.equal_of_numbers rfl hnumber, Number.equal_int]
      rw [admitsLength_of_answers (outside_of_limit .below size hleast)
          (outside_of_limit .above size hgreatest), hequal, isNull_of_number hnumber,
        Bool.false_or, within_limits_iff,
        admitsLength_of_answers (outside_of_limit .below size (hlimit _))
          (outside_of_limit .above size (hlimit _))]
      rfl
  · rfl

/-! ## The contract -/

theorem normalString_eq_or (string : Value) :
    normalString string = .null ∨ normalString string = string := by
  unfold normalString
  split
  · exact .inl rfl
  · exact .inr rfl

theorem normalNumber_eq_or (number : Value) :
    normalNumber number = .null ∨ normalNumber number = number := by
  unfold normalNumber
  split
  · split
    · exact .inr rfl
    · exact .inl rfl
  · exact .inr rfl

theorem isNull_normalString {string : Value} (h : string.isNull = true) :
    (normalString string).isNull = true := by
  rcases normalString_eq_or string with hnull | hsame
  · rw [hnull]
    rfl
  · rwa [hsame]

theorem isNull_normalNumber {number : Value} (h : number.isNull = true) :
    (normalNumber number).isNull = true := by
  rcases normalNumber_eq_or number with hnull | hsame
  · rw [hnull]
    rfl
  · rwa [hsame]

theorem scalarContract_normal {scalar string number : Value}
    (h : ScalarContract scalar string number) :
    ScalarContract scalar (normalString string) (normalNumber number) := by
  obtain ⟨kind, htag, hstring, hnumber⟩ := h
  refine ⟨kind, htag, ?_, ?_⟩
  · rcases normalString_eq_or string with hnull | hsame
    · rw [hnull]
      exact fun hset => absurd hset (by decide)
    · rwa [hsame]
  · rcases normalNumber_eq_or number with hnull | hsame
    · rw [hnull]
      exact fun hset => absurd hset (by decide)
    · rwa [hsame]

/-- Leaving out constraints that constrain nothing keeps the contract. -/
theorem aggregation_normal
    {scalar array object enumeration string number optional nullable : Value} {kind : Aggregation}
    (h : aggregation
      (.complexSchema scalar array object enumeration string number optional nullable) = .ok kind) :
    aggregation
        (normal (.complexSchema scalar array object enumeration string number optional nullable)) =
      .ok kind := by
  obtain ⟨hpresent, hconstrained⟩ := aggregation_eq_ok_iff.mp h
  rw [normal]
  refine aggregation_eq_ok_iff.mpr ⟨?_, ?_⟩
  · rw [← hpresent]
    simp only [present, isNull_normalArray, isNull_normalObject]
  · cases kind with
    | scalar => exact scalarContract_normal hconstrained
    | array => exact hconstrained.imp isNull_normalString isNull_normalNumber
    | object => exact hconstrained.imp isNull_normalString isNull_normalNumber
    | enumeration => exact hconstrained.imp isNull_normalString isNull_normalNumber

theorem tag?_of_simple {schema : Value} (h : isSimple schema = true) :
    ∃ kind, tag? schema = some kind := Option.isSome_iff_exists.mp h

theorem aggregation_scalarOf {tag : Value} (h : isSimple tag = true) :
    aggregation (scalarOf tag) = .ok .scalar := by
  obtain ⟨kind, hkind⟩ := tag?_of_simple h
  refine aggregation_eq_ok_iff.mpr ⟨?_, kind, hkind, ?_, ?_⟩
  · rw [present, isNull_of_tag hkind]
    rfl
  · exact fun hset => absurd hset (by decide)
  · exact fun hset => absurd hset (by decide)

section Checks

variable (calls : Interpretation) (value : Value)

theorem checkArray_normal (array : Value) :
    checkArray calls value (normalArray array) = checkArray calls value array := by
  cases array
  case arraySchema itemType length minLength maxLength matcher =>
    have hlength := fun size => admitsLength_normal size ⟨length, minLength, maxLength⟩
    simp only [normalArray, checkArray, admitsArray_eq_andThen, hlength]
  all_goals simp [normalArray]

theorem contains_normalMembers (members key : Value) :
    (normalMembers members).contains key = members.contains key := by
  cases hmembers : entriesOf? members with
  | none => rw [normalMembers_of_none hmembers]
  | some declared =>
      have hnormal := entriesOf?_normalMembers members
      rw [hmembers, Option.map_some] at hnormal
      rw [contains_of_mapping hnormal, contains_of_mapping hmembers, Value.lookup, Value.lookup,
        Value.find?_map_values]
      cases Value.unhashable? key <;> simp [Except.map]

theorem declared_normalMembers (members : Value) (entries : Value.Entries) :
    declared (normalMembers members) entries = declared members entries := by
  induction entries with
  | nil => rfl
  | cons e entries ih =>
      obtain ⟨name, member⟩ := e
      rw [declared, declared, contains_normalMembers, ih]

theorem enumerable_normalMembers (members : Value) :
    enumerable (normalMembers members) = enumerable members := by
  rw [enumerable, enumerable, entriesOf?_normalMembers, typeLabel_normalMembers]
  cases entriesOf? members <;> rfl

theorem checkObject_normal (object : Value) :
    checkObject calls value (normalObject object) = checkObject calls value object := by
  cases object
  case objectSchema members allowExtraMembers matcher =>
    simp only [normalObject, checkObject, admitsObject, declared_normalMembers,
      enumerable_normalMembers]
  all_goals simp [normalObject]

theorem validateString_normal (string : Value) (hset : string.isNull = false) :
    (if (normalString string).isNull then Outcome.pure true
      else validateString calls value (normalString string)) =
      validateString calls value string := by
  unfold normalString
  split
  · rfl
  · rw [hset]
    rfl

theorem admitsNumber_of_free {isInteger epsilon : Value} (h : isInteger.truthy = false) :
    admitsNumber value (.numberSchema .null .null .null isInteger epsilon) = .ok true := by
  rw [admitsNumber_eq_ok_true_iff]
  exact ⟨fun htruthy => absurd (htruthy.symm.trans h) (by simp), rfl, rfl⟩

theorem validateNumber_normal (number : Value) (hset : number.isNull = false) :
    (if (normalNumber number).isNull then Outcome.pure true
      else validateNumber calls value (normalNumber number)) =
      validateNumber calls value number := by
  unfold normalNumber
  split
  · split
    · rfl
    · next hfree =>
        rw [validateNumber_numberSchema, admitsNumber_of_free value (by simpa using hfree)]
        rfl
  · rw [hset]
    rfl

theorem validateScalar_normal
    {scalar array array' object object' enumeration string number optional nullable : Value}
    {kind : Kind} (htag : tag? scalar = some kind) :
    validateScalar calls value
        (.complexSchema scalar array' object' enumeration (normalString string)
          (normalNumber number) optional nullable) =
      validateScalar calls value
        (.complexSchema scalar array object enumeration string number optional nullable) := by
  rw [validateScalar_of_tag calls htag, validateScalar_of_tag calls htag]
  by_cases hkind : value.kind? = some kind
  · rw [if_pos hkind, if_pos hkind]
    cases kind with
    | string =>
        cases hset : string.isNull with
        | true => simp [isNull_normalString hset]
        | false => exact validateString_normal calls value string hset
    | number =>
        cases hset : number.isNull with
        | true => simp [isNull_normalNumber hset]
        | false => exact validateNumber_normal calls value number hset
    | boolean => rfl
  · rw [if_neg hkind, if_neg hkind]

theorem normal_of_simple {schema : Value} (h : isSimple schema = true) :
    normal schema = scalarOf schema := by
  cases schema
  case complexSchema => cases h
  all_goals simp [normal, h]

theorem children_of_simple {schema : Value} (h : isSimple schema = true) :
    children value schema = [] := by
  cases schema
  case complexSchema => cases h
  all_goals simp [children]

theorem children_scalarOf {tag : Value} (h : isSimple tag = true) :
    children value (scalarOf tag) = [] := by
  have haggregation := aggregation_scalarOf h
  rw [scalarOf] at haggregation ⊢
  rw [children, haggregation]
  exact ite_self []

/-- A tag asks what the structured schema of its kind asks, also of nothing and of an absent
member. -/
theorem check_scalarOf {tag : Value} (h : isSimple tag = true) :
    check calls value (scalarOf tag) = .pure (validateSimple value tag) := by
  obtain ⟨kind, hkind⟩ := tag?_of_simple h
  have haggregation := aggregation_scalarOf h
  rw [scalarOf] at haggregation
  rw [validateSimple_of_tag hkind, scalarOf, check, inferAggregation_of_ok haggregation,
    Outcome.bind_pure_left, validateScalar_of_tag calls hkind]
  by_cases hnull : value.isNull
  · simp [hnull, Value.kind?_of_null hnull, Value.isTrue]
  by_cases hmissing : value.isMissing
  · simp [hnull, hmissing, Value.kind?_of_missing hmissing, Value.isTrue]
  rw [if_neg hnull, if_neg hmissing]
  by_cases hvalue : value.kind? = some kind
  · rw [if_pos hvalue, decide_eq_true hvalue]
    cases kind <;> rfl
  · rw [if_neg hvalue, decide_eq_false hvalue]

/-- A lawful schema asks of a value itself what its normal form asks. -/
theorem check_normal {schema : Value} (h : Lawful schema) :
    check calls value (normal schema) = check calls value schema := by
  rcases h with hsimple | ⟨kind, hkind⟩
  · rw [normal_of_simple hsimple, check_scalarOf calls value hsimple,
      check_of_simple calls value hsimple]
  · obtain ⟨scalar, array, object, enumeration, string, number, optional, nullable, rfl⟩ :=
      complex_of_aggregation_eq_ok hkind
    have hnormal := aggregation_normal hkind
    rw [normal] at hnormal
    obtain ⟨-, hconstrained⟩ := aggregation_eq_ok_iff.mp hkind
    rw [normal, check, check, inferAggregation_of_ok hnormal, inferAggregation_of_ok hkind,
      Outcome.bind_pure_left, Outcome.bind_pure_left]
    cases kind with
    | scalar =>
        obtain ⟨tag, htag, -⟩ := hconstrained
        rw [validateScalar_normal calls value htag]
    | array => rw [checkArray_normal]
    | object => rw [checkObject_normal]
    | enumeration => rfl

/-- The normal form hands on the same parts of a value, each to the normal form of its schema. -/
theorem children_normal {schema : Value} (h : Lawful schema) :
    children value (normal schema) = (children value schema).map fun q => (q.1, normal q.2) := by
  rcases h with hsimple | ⟨kind, hkind⟩
  · rw [normal_of_simple hsimple, children_of_simple value hsimple, children_scalarOf value hsimple,
      List.map_nil]
  · obtain ⟨scalar, array, object, enumeration, string, number, optional, nullable, rfl⟩ :=
      complex_of_aggregation_eq_ok hkind
    have hnormal := aggregation_normal hkind
    rw [normal] at hnormal
    rw [normal, children, children, hnormal, hkind]
    split
    · rfl
    · cases kind with
      | array =>
          simp [itemTypes_normalArray, List.flatMap_map, List.map_flatMap, Function.comp_def]
      | object => cases value.entries? <;> simp [declarations_normalObject]
      | scalar => rfl
      | enumeration => rfl

end Checks

/-- Against a schema whose contract holds at every depth and against its normal form, validation is
one and the same run. -/
theorem validate_normal (calls : Interpretation) (value : Value) {schema : Value}
    (h : Every Lawful schema) :
    validate calls value (normal schema) = validate calls value schema := by
  induction schema using induction_on_parts generalizing value with
  | step schema ih =>
      rw [validate_eq_andThen, validate_eq_andThen calls value schema,
        check_normal calls value h.root, children_normal value h.root, Outcome.all_map]
      congr 1
      apply Outcome.all_congr
      intro q hq
      have hpart := mem_parts_of_mem_children hq
      exact ih q.2 hpart q.1 (h.part hpart)

def remark : Value :=
  .complexSchema (.str "string") .null .null .null (.stringSchema .null) .null (.bool false)
    (.bool true)

/-- Two remarks, where up to five would be let through by the other bounds. -/
def remarks : Value :=
  .complexSchema .null (.arraySchema remark (.int 2) .null (.int 5) .null) .null .null .null .null
    (.bool false) (.bool false)

def review : Value :=
  .complexSchema .null .null
    (.objectSchema (.dict [(.str "grade", .str "number"), (.str "remarks", remarks)])
      (.bool false) .null)
    .null .null .null (.bool false) (.bool false)

theorem lawful_review : Every Lawful review := by
  have htag : Every Lawful (.str "number") := .intro (.inl rfl) (by simp [parts])
  have hremark : Every Lawful remark :=
    .intro (.inr ⟨.scalar, rfl⟩) (by simp [remark, parts, itemTypes, declarations])
  have hremarks : Every Lawful remarks := by
    refine .intro (.inr ⟨.array, rfl⟩) ?_
    simpa [remarks, parts, itemTypes, declarations] using hremark
  refine .intro (.inr ⟨.object, rfl⟩) ?_
  simpa [review, parts, itemTypes, declarations, entriesOf?] using ⟨htag, hremarks⟩

theorem validate_normal_review :
    Every Lawful review ∧
      normal remarks =
        .complexSchema .null
          (.arraySchema
            (.complexSchema (.str "string") .null .null .null .null .null (.bool false)
              (.bool true))
            .null (.int 2) (.int 2) .null)
          .null .null .null .null (.bool false) (.bool false) ∧
      validate standard
          (.dict [(.str "grade", .int 1), (.str "remarks", .list [.null, .str "late"])])
          (normal review) =
        validate standard
          (.dict [(.str "grade", .int 1), (.str "remarks", .list [.null, .str "late"])])
          review :=
  ⟨lawful_review, rfl, validate_normal standard _ lawful_review⟩

end Conformance.Schema
