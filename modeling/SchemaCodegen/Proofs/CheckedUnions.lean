import SchemaCodegen.Proofs.WrittenTypes

/-!
# Unions that pass their check

A union passes its check exactly if it has a key, and arms that all have a field of that name. In Dart it
has a constructor for each arm then, which takes each field of the base and of the arm once: the key has
the value of the arm by default, and all else must be given unless it may be null.
-/

namespace SchemaCodegen

theorem Variant.has_iff {arm : Variant} {name : String} :
    arm.has name = true ↔ name ∈ arm.fields.map (·.name) := by
  simp [Variant.has]

namespace Model

/-- Whether the arms of a union are told apart by a key: it is named, there are arms, and all of them
have a field of that name. -/
structure IsTagged (model : Model) (key : String) : Prop where
  named : model.unionKey = some key
  isText : key ≠ ""
  hasArms : model.arms ≠ []
  each : ∀ arm ∈ model.arms, key ∈ arm.fields.map (·.name)

theorem IsTagged.isUnion {model : Model} {key : String} (tagged : model.IsTagged key) :
    model.isUnion = true := by
  have hasArms := tagged.hasArms
  rw [arms] at hasArms
  rw [Model.isUnion]
  cases variants : model.variants with
  | none => exact absurd (by rw [variants]; rfl) hasArms
  | some _ => rfl

/-- A union passes its check with the key by which its arms are told apart. -/
theorem checkUnion_eq_ok_iff {model : Model} {key : String} :
    model.checkUnion = .ok key ↔ model.IsTagged key := by
  unfold checkUnion
  cases isKey : model.unionKey.filter (· ≠ "") with
  | none =>
    refine ⟨nofun, fun tagged => ?_⟩
    simp [tagged.named, tagged.isText] at isKey
  | some named =>
    obtain ⟨isNamed, isText⟩ := Option.filter_eq_some_iff.mp isKey
    have hasKey : (∀ arm ∈ model.arms, arm.has named = true) ↔
        ∀ arm ∈ model.arms, named ∈ arm.fields.map (·.name) :=
      forall₂_congr fun _ _ => Variant.has_iff
    dsimp only
    constructor
    · intro passes
      split at passes
      · cases passes
      next inhabited =>
        split at passes
        · cases passes
        next allHave =>
          cases passes
          rw [List.find?_eq_none] at allHave
          refine ⟨isNamed, of_decide_eq_true isText, by simpa using inhabited, hasKey.mp ?_⟩
          simpa using allHave
    · intro tagged
      obtain rfl : named = key := Option.some.inj (isNamed.symm.trans tagged.named)
      have allHave : model.arms.find? (!·.has named) = none := by
        rw [List.find?_eq_none]
        simpa using hasKey.mpr tagged.each
      rw [if_neg (by simpa using tagged.hasArms), allHave]

end Model

namespace Dart

/-! ## Parameters -/

/-- What a parameter is by default, if that is said. -/
def Parameter.default? (parameter : Parameter) : Option (List String) :=
  parameter.annotations.findSome? fun tag => if tag.name = "Default" then tag.arguments else none

/-- Whether a parameter never holds null where its type has none: it must be given, its type has null, or it
has a default. -/
def Parameter.IsNullSafe (parameter : Parameter) : Prop :=
  parameter.required = true ∨ (∃ type, parameter.type = some (type ++ "?")) ∨
    parameter.type = some "dynamic" ∨ parameter.default?.isSome = true

/-- Whether a parameter of an arm is that of a field: the key may be left out, as it has the value of the
arm by default, and all else may be left out if it may be null. -/
structure Parameter.Takes (key : String) (value : Bool) (field : Field) (parameter : Parameter) :
    Prop where
  name : parameter.name = identifier field.name
  ofKey : field.name = key → parameter.required = false ∧
    parameter.type = some (nullableType field.type false) ∧ parameter.default? = some [truth value]
  ofOther : field.name ≠ key → (parameter.required = true ↔ field.nullable = false) ∧
    parameter.type = some (nullableType field.type field.nullable) ∧ parameter.default? = none

/-- The annotation of a JSON key says nothing of a default. -/
theorem noDefault_jsonKey (config : Config) (field : Field) :
    (jsonKey config field).findSome?
      (fun tag => if tag.name = "Default" then tag.arguments else none) = none := by
  unfold jsonKey
  split <;> rfl

theorem takes_parameter {config : Config} {key : String} {value : Bool} {field : Field}
    (other : field.name ≠ key) : (parameter config field).Takes key value field where
  name := rfl
  ofKey same := absurd same other
  ofOther _ := ⟨by simp [parameter], rfl, noDefault_jsonKey config field⟩

theorem takes_discriminator {config : Config} {key : String} {value : Bool} {field : Field}
    (isKey : field.name = key) : (discriminator config value field).Takes key value field where
  name := rfl
  ofKey _ := by
    refine ⟨rfl, rfl, ?_⟩
    rw [Parameter.default?, discriminator, List.findSome?_append, noDefault_jsonKey]
    rfl
  ofOther other := absurd isKey other

/-- Whatever may be left out of a constructor has null or a default then. -/
theorem Parameter.Takes.isNullSafe {key : String} {value : Bool} {field : Field}
    {parameter : Parameter} (takes : parameter.Takes key value field) : parameter.IsNullSafe := by
  unfold IsNullSafe
  by_cases isKey : field.name = key
  · rw [(takes.ofKey isKey).2.2]
    exact .inr (.inr (.inr rfl))
  · obtain ⟨required, type, _⟩ := takes.ofOther isKey
    cases nullable : field.nullable with
    | false => exact .inl (required.mpr nullable)
    | true =>
      rw [type, nullable, nullableType]
      by_cases dynamic : typeText field.type = "dynamic"
      · simp [dynamic]
      · simp [dynamic]

/-! ## Constructors -/

section

variable {config : Config} {model : Model} {key : String} {arm : Variant}

/-- The parameters of an arm are those of its fields and of the shared ones that it does not declare. -/
theorem takes_armParameters (hasKey : arm.has key = true) :
    List.Forall₂ (fun field parameter => parameter.Takes key arm.value field) (armFields model arm)
      (armParameters config model key arm) := by
  apply List.rel_append
  · -- the arm has a field for the key, so no shared field that is left is one
    rw [List.forall₂_map_right_iff, List.forall₂_same]
    intro field isShared
    refine takes_parameter fun same => ?_
    have isFree := (List.mem_filter.mp isShared).2
    rw [same, hasKey] at isFree
    cases isFree
  · rw [List.forall₂_map_right_iff, List.forall₂_same]
    intro field _
    split
    next isKey => exact takes_discriminator isKey
    next other => exact takes_parameter other

/-- There is a default for each field that is named as the key. -/
theorem defaults_of_takes {value : Bool} {fields : List Field} {parameters : List Parameter}
    (each : List.Forall₂ (fun field parameter => parameter.Takes key value field) fields parameters) :
    parameters.filterMap (·.default?) =
      List.replicate ((fields.map (·.name)).count key) [truth value] := by
  induction each with
  | nil => rfl
  | @cons field parameter _ _ takes _ ih =>
    rw [List.filterMap_cons, ih, List.map_cons]
    by_cases isKey : field.name = key
    · rw [(takes.ofKey isKey).2.2, isKey, List.count_cons_self, List.replicate_succ]
    · rw [(takes.ofOther isKey).2.2, List.count_cons_of_ne isKey]

theorem mem_names_armFields {name : String} : name ∈ (armFields model arm).map (·.name) ↔
    name ∈ model.fields.map (·.name) ∨ name ∈ arm.fields.map (·.name) := by
  rw [armFields, List.map_append, List.mem_append]
  constructor
  · rintro (isShared | isOwn)
    · obtain ⟨field, isField, same⟩ := List.mem_map.mp isShared
      exact .inl (List.mem_map.mpr ⟨field, (List.mem_filter.mp isField).1, same⟩)
    · exact .inr isOwn
  · rintro (isShared | isOwn)
    · by_cases isOwn : name ∈ arm.fields.map (·.name)
      · exact .inr isOwn
      · obtain ⟨field, isField, rfl⟩ := List.mem_map.mp isShared
        refine .inl (List.mem_map_of_mem (List.mem_filter.mpr ⟨isField, ?_⟩))
        simpa [Variant.has] using isOwn
    · exact .inr isOwn

theorem nodup_names_armFields (base : (model.fields.map (·.name)).Nodup)
    (own : (arm.fields.map (·.name)).Nodup) : ((armFields model arm).map (·.name)).Nodup := by
  rw [armFields, List.map_append]
  refine List.nodup_append.mpr ⟨base.sublist (List.filter_sublist.map _), own, ?_⟩
  rintro name isShared other isOwn rfl
  obtain ⟨field, isField, rfl⟩ := List.mem_map.mp isShared
  have isFree := (List.mem_filter.mp isField).2
  rw [Variant.has_iff.mpr isOwn] at isFree
  cases isFree

/-- What the constructor of an arm takes. -/
structure Constructor.Covers (model : Model) (key : String) (arm : Variant) (made : Constructor) :
    Prop where
  name : made.name = arm.constructorName
  /-- Its fields are the shared ones that the arm does not declare and then its own: each name of the
  base or of the arm is there, and once only. -/
  names : ∀ name, name ∈ (armFields model arm).map (·.name) ↔
    name ∈ model.fields.map (·.name) ∨ name ∈ arm.fields.map (·.name)
  once : ((armFields model arm).map (·.name)).Nodup
  /-- There is a parameter for each of them, in order. -/
  parameters : List.Forall₂ (fun field parameter => parameter.Takes key arm.value field)
    (armFields model arm) made.parameters
  /-- Just one of them has a default, and that is the value of the arm. -/
  default : made.parameters.filterMap (·.default?) = [[truth arm.value]]
  nullSafe : ∀ parameter ∈ made.parameters, parameter.IsNullSafe

theorem covers_armConstructor (hasKey : arm.has key = true)
    (base : (model.fields.map (·.name)).Nodup) (own : (arm.fields.map (·.name)).Nodup) :
    (armConstructor config model key arm).Covers model key arm := by
  have takes := @takes_armParameters config model key arm hasKey
  have once := nodup_names_armFields base own
  have isIn : key ∈ (armFields model arm).map (·.name) :=
    mem_names_armFields.mpr (.inr (Variant.has_iff.mp hasKey))
  constructor
  case name => rfl
  case names => exact fun name => mem_names_armFields
  case once => exact once
  case parameters => exact takes
  case default =>
    have defaults := defaults_of_takes takes
    rwa [List.Nodup.count once, if_pos isIn] at defaults
  case nullSafe =>
    intro parameter isParameter
    obtain ⟨field, _, ofField⟩ := Outcome.exists_left takes isParameter
    exact ofField.isNullSafe

end

/-- A union that passes its check, where neither the base nor an arm has two fields of one name, has a
constructor for each arm behind the private one. It covers each field of the base or the arm once, and is
safe from null. -/
theorem unionClass_covers_arms {model : Model} {key : String} (passes : model.checkUnion = .ok key)
    (base : (model.fields.map (·.name)).Nodup)
    (own : ∀ arm ∈ model.arms, (arm.fields.map (·.name)).Nodup) (config : Config) :
    ∃ cls marker made, unionClass config model = .ok cls ∧ cls.constructors = marker :: made ∧
      marker.parameters = [] ∧
      List.Forall₂ (fun arm constructor => constructor.Covers model key arm) model.arms made := by
  have tagged := Model.checkUnion_eq_ok_iff.mp passes
  refine ⟨_, _, _, Outcome.bind_eq_ok.mpr ⟨key, passes, rfl⟩, rfl, rfl, ?_⟩
  rw [List.forall₂_map_right_iff, List.forall₂_same]
  intro arm isArm
  exact covers_armConstructor (Variant.has_iff.mpr (tagged.each arm isArm)) base (own arm isArm)

/-- A stay that is paid: it has an identifier of its own, which may be null. -/
def paidArm : Variant where
  name := some "paid"
  fields :=
    [{ name := "isPaid", type := .of .boolean }, { name := "fee", type := .of .float },
      { name := "id", type := .of .integer, nullable := true }]

/-- A stay that is not paid, with a key that should be allowed to be null and a field of any type. -/
def unpaidArm : Variant where
  value := false
  fields :=
    [{ name := "extra", type := .of .unknown, nullable := true },
      { name := "isPaid", type := .of .boolean, nullable := true }]

/-- Stays, paid or not; their key is a shared field, too. -/
def stayUnion : Model where
  name := "Stay"
  fields :=
    [{ name := "id", type := .of .string }, { name := "isPaid", type := .of .boolean },
      { name := "note", type := .of .string, nullable := true }]
  unionKey := some "isPaid"
  variants := some [paidArm, unpaidArm]

/-- Both constructors of stays have four parameters, and one default each. -/
theorem unionClass_covers_stay : ∃ cls marker paid unpaid, unionClass {} stayUnion = .ok cls ∧
    cls.constructors = [marker, paid, unpaid] ∧
    (armFields stayUnion paidArm).map (·.name) = ["note", "isPaid", "fee", "id"] ∧
    paid.Covers stayUnion "isPaid" paidArm ∧ paid.parameters.length = 4 ∧
    paid.parameters.filterMap (·.default?) = [["true"]] ∧
    (armFields stayUnion unpaidArm).map (·.name) = ["id", "note", "extra", "isPaid"] ∧
    unpaid.Covers stayUnion "isPaid" unpaidArm ∧ unpaid.parameters.length = 4 ∧
    unpaid.parameters.filterMap (·.default?) = [["false"]] := by
  have passes : stayUnion.checkUnion = .ok "isPaid" := by decide
  obtain ⟨cls, marker, made, formed, constructors, _, each⟩ :=
    unionClass_covers_arms passes (by decide) (by decide) {}
  obtain ⟨paid, later, ofPaid, rest, rfl⟩ := List.forall₂_cons_left_iff.mp each
  obtain ⟨unpaid, more, ofUnpaid, noMore, rfl⟩ := List.forall₂_cons_left_iff.mp rest
  obtain rfl := List.forall₂_nil_left_iff.mp noMore
  exact ⟨cls, marker, paid, unpaid, formed, constructors, by decide, ofPaid,
    ofPaid.parameters.length_eq.symm, ofPaid.default, by decide, ofUnpaid,
    ofUnpaid.parameters.length_eq.symm, ofUnpaid.default⟩

end Dart

end SchemaCodegen
