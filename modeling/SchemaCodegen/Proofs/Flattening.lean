import SchemaCodegen.Proofs.FirstOccurrences
import SchemaCodegen.Proofs.Members

/-!
# Unions as one record

The record of a union has the shared fields and then one field for each name that only arms have, as it
occurs first; a name that some arm lacks may be null. In the plain style the members of a class, the
arguments that it is made with and the keys that it writes are those of the record, in order. What the
record demands is demanded of the data of every arm exactly if the arms agree on what they demand.
-/

namespace SchemaCodegen

namespace Model

variable (model : Model)

/-! ## What the arms add -/

/-- The fields of the arms, arm by arm. -/
def ofArms : List Field := model.arms.flatMap (·.fields)

/-- The first field of a name in an arm. -/
def firstOfArms? (name : String) : Option Field := model.ofArms.find? (·.name == name)

theorem mem_names_ofArms {name : String} :
    name ∈ model.ofArms.map (·.name) ↔ ∃ arm ∈ model.arms, arm.has name = true := by
  rw [ofArms, List.map_flatMap, List.mem_flatMap]
  simp [Variant.has]

@[simp] theorem name_shared (field : Field) : (model.shared field).name = field.name := by
  unfold shared
  split <;> rfl

@[simp] theorem type_shared (field : Field) : (model.shared field).type = field.type := by
  unfold shared
  split <;> rfl

@[simp] theorem description_shared (field : Field) :
    (model.shared field).description = field.description := by
  unfold shared
  split <;> rfl

/-- A field of the record may be null if it may be so where it occurs first, or if some arm lacks it. -/
theorem nullable_shared (field : Field) : (model.shared field).nullable = true ↔
    field.nullable = true ∨ ∃ arm ∈ model.arms, arm.has field.name = false := by
  unfold shared
  split
  next everywhere =>
    rw [List.all_eq_true] at everywhere
    constructor
    · exact .inl
    · rintro (nullable | ⟨arm, isArm, lacks⟩)
      · exact nullable
      · rw [everywhere arm isArm] at lacks
        cases lacks
  next lacking =>
    have someLacks : ∃ arm ∈ model.arms, arm.has field.name = false := by simpa using lacking
    exact iff_of_true rfl (.inr someLacks)

/-- Fields are added once for each name that is not there yet, as it occurs first. -/
theorem addShared_eq (fields added : List Field) : model.addShared fields added =
    fields ++ (firsts Field.name (fields.map (·.name)) added).map model.shared := by
  induction added generalizing fields with
  | nil => exact (List.append_nil fields).symm
  | cons next rest ih =>
    have isTaken : fields.any (·.name == next.name) = true ↔ next.name ∈ fields.map (·.name) := by
      simp
    rw [addShared, firsts]
    by_cases taken : next.name ∈ fields.map (·.name)
    · rw [if_pos (isTaken.mpr taken), if_pos taken, ih]
    · rw [if_neg (fun isIn => taken (isTaken.mp isIn)), if_neg taken, ih, List.map_append,
        List.map_singleton, name_shared, List.append_assoc]
      rfl

/-- What the arms of a union add to its own fields. -/
structure Adds (more : List Field) : Prop where
  /-- There is a field for each name that an arm has and the base has not. -/
  names : ∀ name, name ∈ more.map (·.name) ↔
    (∃ arm ∈ model.arms, arm.has name = true) ∧ name ∉ model.fields.map (·.name)
  /-- It is the only one of its name. -/
  once : (more.map (·.name)).Nodup
  /-- They stand in the order in which the arms have them first. -/
  ordered : InOrder (model.ofArms.map (·.name)) (more.map (·.name))
  /-- A field is as it occurs first, but may be null also if some arm lacks it. -/
  each : ∀ field ∈ more, ∃ first, model.firstOfArms? field.name = some first ∧
    field.type = first.type ∧ field.description = first.description ∧
    (field.nullable = true ↔
      first.nullable = true ∨ ∃ arm ∈ model.arms, arm.has field.name = false)

/-- The record of a union has its own fields as they are, and then what the arms add. -/
theorem exists_flattened : ∃ more, model.flattened = model.fields ++ more ∧ model.Adds more := by
  let added := firsts Field.name (model.fields.map (·.name)) model.ofArms
  have sameNames : (added.map model.shared).map (·.name) = added.map (·.name) := by
    rw [List.map_map]
    exact List.map_congr_left fun first _ => model.name_shared first
  have ordered : InOrder (model.ofArms.map (·.name)) (added.map (·.name)) :=
    inOrder_firsts Field.name _ _
  refine ⟨added.map model.shared, model.addShared_eq _ _, ?_⟩
  constructor
  case names =>
    intro name
    rw [sameNames, mem_keys_firsts, mem_names_ofArms]
  case once =>
    rw [sameNames]
    exact ordered.nodup
  case ordered =>
    rw [sameNames]
    exact ordered
  case each =>
    intro field isField
    obtain ⟨first, isFirst, rfl⟩ := List.mem_map.mp isField
    refine ⟨first, ?_, model.type_shared first, model.description_shared first, ?_⟩
    · rw [firstOfArms?, name_shared]
      exact find?_of_mem_firsts isFirst
    · rw [nullable_shared, name_shared]

end Model

/-! ## The keys that are written -/

namespace Python

/-- The text that an expression is, if it is one. -/
def Expr.text? : Expr → Option String
  | .literal (.text text) => some text
  | _ => none

/-- The keys of the object that a function gives back, if that is all that it does. -/
def Part.keys? : Part → Option (List String)
  | .function f =>
    match f.body with
    | [.ret (.dict entries)] => entries.mapM (·.1.text?)
    | _ => none
  | _ => none

/-- The keys that a class writes itself. -/
def ClassDef.encoded? (cls : ClassDef) : Option (List String) := cls.parts.findSome? Part.keys?

theorem keys?_writeFields (fields : List Field) :
    Part.keys? (writeFields fields) = some (fields.map (·.name)) := by
  show List.mapM (fun entry : Expr × Expr => entry.1.text?) (fields.map fun f =>
    (quoted f.name, dump f.type f.nullable (.attribute (.name "self") (attributeName f.name)))) = _
  induction fields with
  | nil => rfl
  | cons field rest ih =>
    rw [List.map_cons, List.mapM_cons, ih]
    rfl

/-- In the plain style a class writes a key for each field. -/
theorem encoded_of_classesOf {config : Config} {model : Model} {classes : List ClassDef}
    (plain : config.unions.isOn = false) (serialization : config.serialization.isOn = true)
    (formed : classesOf config model = .ok classes) :
    classes.map (·.encoded?) = [some (model.flattened.map (·.name))] := by
  have noKeys : Part.keys? (readFields model model.flattened) = none := rfl
  have found := @findSome?_of_classesOf _ _ _ _ Part.keys? (fun _ => rfl) (fun _ _ _ => rfl)
    plain serialization formed
  rw [List.findSome?_cons, noKeys, List.findSome?_singleton, keys?_writeFields] at found
  exact found

end Python

namespace Dart

/-- What a text stands for up to the apostrophe that ends it: a backslash stands for the character
behind it. -/
def unescaped : List Char → List Char
  | '\'' :: _ => []
  | '\\' :: c :: rest => c :: unescaped rest
  | c :: rest => c :: unescaped rest
  | [] => []

theorem unescaped_escaped (text rest : List Char) :
    unescaped (text.flatMap escape ++ '\'' :: rest) = text := by
  induction text with
  | nil => rfl
  | cons c more ih =>
    rw [List.flatMap_cons, List.append_assoc, escape]
    split
    next => exact congrArg (c :: ·) ih
    next plain =>
      simp only [Bool.or_eq_true, decide_eq_true_eq, not_or] at plain
      rw [List.singleton_append, unescaped, ih]
      · exact plain.1.2
      · intro _ _ isBackslash
        exact absurd isBackslash plain.1.1

/-- The key on a line, which stands between apostrophes behind four blanks. -/
def key (line : String) : String := String.ofList (unescaped (line.toList.drop 5))

/-- The keys that a method writes, one a line: two lines stand before them and two after them. -/
def keys (method : List String) : List String := (method.drop 2).dropLast.dropLast.map key

/-- The keys that a class writes itself, which its second method does if it has one to read JSON, too. -/
def Class.encoded? (cls : Class) : Option (List String) :=
  match cls.methods with
  | [_, writes] => some (keys writes)
  | _ => none

theorem key_entry (name text : String) :
    key ("    " ++ literal name ++ ": " ++ text ++ ",") = name := by
  have characters : ("    " ++ literal name ++ ": " ++ text ++ ",").toList.drop 5 =
      name.toList.flatMap escape ++ '\'' :: (": " ++ text ++ ",").toList := by
    simp only [String.toList_append, literal, String.toList_ofList, List.append_assoc,
      List.cons_append, List.nil_append]
    rfl
  rw [key, characters, unescaped_escaped, String.ofList_toList]

theorem keys_writeFields (fields : List Field) : keys (writeFields fields) = fields.map (·.name) := by
  show (innerLines (writeFields fields)).map key = _
  rw [innerLines_writeFields, List.map_map]
  apply List.map_congr_left
  intro field _
  exact key_entry field.name _

/-- In the plain style a class writes a key for each field. -/
theorem encoded_of_classOf {config : Config} {model : Model} {cls : Class}
    (plain : config.unions.isOn = false) (serialization : config.serialization.isOn = true)
    (formed : classOf config model = .ok cls) :
    cls.encoded? = some (model.flattened.map (·.name)) := by
  rw [classOf, plain] at formed
  cases formed
  simp only [Class.encoded?, plainClass, methods, serialization, if_true, keys_writeFields]

end Dart

/-- The keys that a class writes itself. -/
def Declaration.encoded? : Declaration → Option (List String)
  | .dart cls => cls.encoded?
  | .python cls => cls.encoded?

/-- Whether all lists of a class run over some fields: what it declares, and where it reads and writes JSON
itself, the arguments that it is made with and the keys that it writes. -/
structure Declaration.RunsOver (config : Config) (cls : Declaration) (fields : List Field) : Prop where
  declares : cls.declared ≠ [] ∧
    ∀ names ∈ cls.declared, names = fields.map (config.language.identifier ·.name)
  decodes : config.serialization.isOn = true →
    cls.decoded? = some (fields.map (config.language.identifier ·.name))
  encodes : config.serialization.isOn = true → cls.encoded? = some (fields.map (·.name))

theorem Dart.runsOver_of_classOf {config : Config} {model : Model} {cls : Dart.Class}
    (isDart : config.language = .dart) (plain : config.unions.isOn = false)
    (formed : Dart.classOf config model = .ok cls) :
    (Declaration.dart cls).RunsOver config model.flattened := by
  have declared := Dart.declared_of_classOf formed
  rw [Dart.classFields, plain] at declared
  constructor
  case declares =>
    rw [Declaration.declared, declared, isDart]
    exact ⟨List.cons_ne_nil _ _, by simp [Language.identifier]⟩
  case decodes =>
    intro serialization
    rw [isDart]
    exact Dart.decoded_of_classOf plain serialization formed
  case encodes => exact fun serialization => Dart.encoded_of_classOf plain serialization formed

theorem Python.runsOver_of_classesOf {config : Config} {model : Model} {classes : List ClassDef}
    (isPython : config.language = .python) (plain : config.unions.isOn = false)
    (formed : Python.classesOf config model = .ok classes) :
    ∃ cls, classes = [cls] ∧ (Declaration.python cls).RunsOver config model.flattened := by
  obtain ⟨parts, _, isOne⟩ := Python.classesOf_eq_ok plain formed
  have declared := Python.keys_of_classesOf formed
  rw [Python.classFields, plain, isOne] at declared
  refine ⟨_, isOne, ?_⟩
  constructor
  case declares =>
    rw [Declaration.declared, isPython]
    exact ⟨List.cons_ne_nil _ _, fun names isOnly => List.mem_singleton.mp isOnly ▸
      (List.cons.inj declared).1⟩
  case decodes =>
    intro serialization
    have decoded := Python.decoded_of_classesOf plain serialization formed
    rw [isOne] at decoded
    rw [isPython]
    exact (List.cons.inj decoded).1
  case encodes =>
    intro serialization
    have encoded := Python.encoded_of_classesOf plain serialization formed
    rw [isOne] at encoded
    exact (List.cons.inj encoded).1

/-- A union as one record has its own fields and then what its arms add, and in the plain style of either
language all lists of its class run over these fields. -/
theorem Model.flattened_merges (model : Model) :
    (∃ more, model.flattened = model.fields ++ more ∧ model.Adds more) ∧
    ∀ (config : Config) (classes : List Declaration), config.unions.isOn = false →
      declarationsOf config model = .ok classes →
        ∃ cls, classes = [cls] ∧ cls.RunsOver config model.flattened := by
  refine ⟨model.exists_flattened, ?_⟩
  intro config classes plain formed
  unfold declarationsOf at formed
  split at formed
  next isDart =>
    obtain ⟨cls, ofModel, same⟩ := Outcome.map_eq_ok.mp formed
    exact ⟨_, same.symm, Dart.runsOver_of_classOf isDart plain ofModel⟩
  next isPython =>
    obtain ⟨own, ofModel, same⟩ := Outcome.map_eq_ok.mp formed
    obtain ⟨cls, rfl, runsOver⟩ := Python.runsOver_of_classesOf isPython plain ofModel
    exact ⟨_, same.symm, runsOver⟩

/-- A union with a note that both arms have, first as a text that must be there, and with a level that one
arm has twice and the other not at all. -/
def visitUnion : Model where
  name := "Visit"
  fields := [{ name := "id", type := .of .integer }]
  variants := some
    [{ fields := [{ name := "note", type := .of .string }, { name := "level", type := .of .integer },
        { name := "level", type := .of .string, nullable := true }] },
      { value := false
        fields := [{ name := "id", type := .of .string },
          { name := "note", type := .of .integer, nullable := true }] }]

/-- The level of a visit may be null in the record, and its note may not. -/
theorem flattened_merges_visit : ∃ cls, declarationsOf (plainStyle .dart) visitUnion = .ok [cls] ∧
    cls.declared = [["id", "note", "level"], ["id", "note", "level"]] ∧
    cls.encoded? = some ["id", "note", "level"] ∧
    visitUnion.flattened.map (fun field => (field.type, field.nullable)) =
      [(.of .integer, false), (.of .string, false), (.of .integer, true)] := by
  have isOk : Outcome.any (declarationsOf (plainStyle .dart) visitUnion) (fun classes =>
      classes.map (·.declared) = [[["id", "note", "level"], ["id", "note", "level"]]]) = true := by
    decide +kernel
  obtain ⟨classes, formed, declared⟩ := Outcome.any_iff.mp isOk
  obtain ⟨cls, rfl, runsOver⟩ :=
    (Model.flattened_merges visitUnion).2 (plainStyle .dart) classes rfl formed
  refine ⟨cls, formed, (List.cons.inj (of_decide_eq_true declared)).1, ?_, by decide +kernel⟩
  rw [runsOver.encodes rfl]
  decide +kernel

/-! ## What the record demands -/

namespace Model

open Json (Members)

/-- The names of the fields that must not be null. -/
def demanded (fields : List Field) : List String := (fields.filter (!·.nullable)).map (·.name)

theorem mem_demanded {fields : List Field} {name : String} :
    name ∈ demanded fields ↔ ∃ field ∈ fields, field.name = name ∧ field.nullable = false := by
  simp only [demanded, List.mem_map, List.mem_filter, Bool.not_eq_true', and_assoc]
  exact exists_congr fun field => and_congr_right fun _ => and_comm

theorem demanded_append (fields others : List Field) :
    demanded (fields ++ others) = demanded fields ++ demanded others := by
  rw [demanded, List.filter_append, List.map_append]
  rfl

/-- Whether the arms agree on the names that all of them have and the base has not: what must not be null
where it occurs first must not be so in any arm. -/
def Agrees (model : Model) : Prop :=
  ∀ name first, name ∉ model.fields.map (·.name) → (∀ arm ∈ model.arms, arm.has name = true) →
    model.firstOfArms? name = some first → first.nullable = false →
      ∀ arm ∈ model.arms, name ∈ demanded arm.fields

/-- The record demands what the base does, and what all arms have and the first of them demands. -/
theorem mem_demanded_flattened {model : Model} {name : String} :
    name ∈ demanded model.flattened ↔ name ∈ demanded model.fields ∨
      name ∉ model.fields.map (·.name) ∧ (∀ arm ∈ model.arms, arm.has name = true) ∧
        ∃ first, model.firstOfArms? name = some first ∧ first.nullable = false := by
  obtain ⟨more, same, adds⟩ := model.exists_flattened
  rw [same, demanded_append, List.mem_append]
  apply or_congr_right
  rw [mem_demanded]
  constructor
  · rintro ⟨field, isField, rfl, demands⟩
    obtain ⟨first, isFirst, _, _, nullable⟩ := adds.each field isField
    rw [← Bool.not_eq_true, nullable, not_or] at demands
    refine ⟨((adds.names _).mp (List.mem_map_of_mem isField)).2, ?_, first, isFirst, ?_⟩
    · intro arm isArm
      exact Bool.eq_true_of_not_eq_false fun lacks => demands.2 ⟨arm, isArm, lacks⟩
    · exact Bool.eq_false_of_not_eq_true demands.1
  · rintro ⟨isNew, everywhere, first, isFirst, demands⟩
    have occurs : name ∈ model.ofArms.map (·.name) := by
      have named := List.find?_some isFirst
      exact List.mem_map.mpr ⟨first, List.mem_of_find?_eq_some isFirst, by simpa using named⟩
    obtain ⟨field, isField, rfl⟩ :=
      List.mem_map.mp ((adds.names _).mpr ⟨model.mem_names_ofArms.mp occurs, isNew⟩)
    refine ⟨field, isField, rfl, ?_⟩
    obtain ⟨other, isOther, _, _, nullable⟩ := adds.each field isField
    rw [isFirst] at isOther
    cases isOther
    rw [← Bool.not_eq_true, nullable, not_or]
    refine ⟨by simp [demands], ?_⟩
    rintro ⟨arm, isArm, lacks⟩
    rw [everywhere arm isArm] at lacks
    cases lacks

/-- What the record demands is demanded of the data of every arm exactly if the arms agree. -/
theorem demanded_flattened_iff {model : Model} :
    (∀ arm ∈ model.arms, demanded model.flattened ⊆ demanded (model.fields ++ arm.fields)) ↔
      model.Agrees := by
  constructor
  · intro demands name first isNew everywhere isFirst notNull arm isArm
    have isDemanded := demands arm isArm
      (mem_demanded_flattened.mpr (.inr ⟨isNew, everywhere, first, isFirst, notNull⟩))
    rw [demanded_append, List.mem_append] at isDemanded
    rcases isDemanded with ofBase | ofArm
    · obtain ⟨field, isField, isName, _⟩ := mem_demanded.mp ofBase
      exact absurd (List.mem_map.mpr ⟨field, isField, isName⟩) isNew
    · exact ofArm
  · intro agrees arm isArm name isDemanded
    rw [demanded_append, List.mem_append]
    rcases mem_demanded_flattened.mp isDemanded with ofBase | ⟨isNew, everywhere, first, isFirst, notNull⟩
    · exact .inl ofBase
    · exact .inr (agrees name first isNew everywhere isFirst notNull arm isArm)

/-- Whether an object has all keys of some names. -/
def Carries (object : Members) (names : List String) : Prop :=
  ∀ name ∈ names, Entries.has object name = true

theorem subset_iff_carries {names others : List String} :
    names ⊆ others ↔ ∀ object, Carries object others → Carries object names := by
  constructor
  · intro subset object carries name isName
    exact carries name (subset isName)
  · intro carries name isName
    -- an object with no other keys
    have keys : Entries.keys (others.map fun other => (other, Json.Value.null)) = others := by
      rw [Entries.keys, List.map_map]
      exact List.map_id _
    have has := carries (others.map fun other => (other, .null))
      (fun other isOther => Entries.has_iff.mpr (keys.symm ▸ isOther)) name isName
    rwa [Entries.has_iff, keys] at has

/-- What the record demands of an arm, the base demands or the arm has. That it is demanded of the data of
every arm, so that the record takes all objects with what the base and the arm demand, holds exactly if
the arms agree. -/
theorem flattened_demands_iff (model : Model) :
    (∀ arm ∈ model.arms, ∀ name ∈ demanded model.flattened,
      name ∈ demanded model.fields ∨ arm.has name = true) ∧
    ((∀ arm ∈ model.arms, ∀ field ∈ model.flattened, field.nullable = false →
      ∃ other ∈ model.fields ++ arm.fields, other.name = field.name ∧ other.nullable = false) ↔
        model.Agrees) ∧
    ((∀ arm ∈ model.arms, ∀ object, Carries object (demanded (model.fields ++ arm.fields)) →
      Carries object (demanded model.flattened)) ↔ model.Agrees) := by
  refine ⟨?_, ?_, ?_⟩
  · intro arm isArm name isDemanded
    rcases mem_demanded_flattened.mp isDemanded with ofBase | ⟨_, everywhere, _⟩
    · exact .inl ofBase
    · exact .inr (everywhere arm isArm)
  · rw [← demanded_flattened_iff]
    refine forall₂_congr fun arm _ => ?_
    constructor
    · intro demands name isDemanded
      obtain ⟨field, isField, rfl, notNull⟩ := mem_demanded.mp isDemanded
      exact mem_demanded.mpr (demands field isField notNull)
    · intro subset field isField notNull
      exact mem_demanded.mp (subset (mem_demanded.mpr ⟨field, isField, rfl, notNull⟩))
  · rw [← demanded_flattened_iff]
    exact forall₂_congr fun arm _ => subset_iff_carries.symm

/-- The record of a visit demands the note, which may be null in one arm and which the base has not. -/
theorem flattened_demands_visit : ¬∀ arm ∈ visitUnion.arms, ∀ field ∈ visitUnion.flattened,
    field.nullable = false →
      ∃ other ∈ visitUnion.fields ++ arm.fields, other.name = field.name ∧ other.nullable = false := by
  decide +kernel

end Model

end SchemaCodegen
