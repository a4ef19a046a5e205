import SchemaCodegen.Proofs.Identifiers
import SchemaCodegen.Proofs.RoundTrip
import SchemaCodegen.Proofs.WrittenTypes

/-!
# The members of a class

The classes of a model declare its fields in order under their identifiers, and where a class reads
JSON itself it passes these on as arguments, once for each field. So members and arguments are told
apart exactly if no two of the fields meet in an identifier.
-/

namespace SchemaCodegen

/-! ## Python -/

namespace Python

/-- The fields that the classes of a model declare, class by class: a union has a base with the shared
fields and a class for each arm. -/
def classFields (config : Config) (model : Model) : List (List Field) :=
  if !config.unions.isOn then [model.flattened]
  else if model.isUnion then model.fields :: model.arms.map (·.fields)
  else [model.fields]

theorem keys_of_fieldParts {config : Config} {default : Field → Option Expr} {fields : List Field}
    {parts : List Part}
    (formed : (fields.mapM fun field => fieldPart config field (default field)) = .ok parts) :
    Entries.keys (parts.filterMap Part.field?) = fields.map (attributeName ·.name) := by
  have each := Outcome.mapM_eq_ok.mp formed
  clear formed
  induction each with
  | nil => rfl
  | @cons field _ _ _ first _ ih =>
    obtain ⟨type, _, same⟩ := Outcome.bind_eq_ok.mp first
    cases same
    exact congrArg (attributeName field.name :: ·) ih

/-- Documentation and functions around the fields of a class are no fields. -/
theorem keys_of_parts {config : Config} {default : Field → Option Expr} {fields : List Field}
    {cls : ClassDef} {parts functions : List Part} {description : Option String}
    (formed : (fields.mapM fun field => fieldPart config field (default field)) = .ok parts)
    (held : cls.parts = documented description ++ parts ++ functions)
    (noFields : functions.filterMap Part.field? = []) :
    cls.fields.keys = fields.map (attributeName ·.name) := by
  rw [ClassDef.fields, held, List.filterMap_append, List.filterMap_append, filterMap_documented,
    noFields, List.nil_append, List.append_nil]
  exact keys_of_fieldParts formed

theorem keys_of_arms {config : Config} {model : Model} {key : String} {variants : List Variant}
    {classes : List ClassDef} (formed : variants.mapM (armClass config model key) = .ok classes) :
    classes.map (·.fields.keys) = variants.map (·.fields.map (attributeName ·.name)) := by
  have each := Outcome.mapM_eq_ok.mp formed
  clear formed
  induction each with
  | nil => rfl
  | cons first _ ih =>
    obtain ⟨parts, ofFields, same⟩ := Outcome.bind_eq_ok.mp first
    cases same
    rw [List.map_cons, List.map_cons, ih]
    exact congrArg (· :: _) (keys_of_fieldParts ofFields)

/-- The classes of a model declare its fields in order, each class once for each of its own. -/
theorem keys_of_classesOf {config : Config} {model : Model} {classes : List ClassDef}
    (formed : classesOf config model = .ok classes) :
    classes.map (·.fields.keys) =
      (classFields config model).map fun fields => fields.map (attributeName ·.name) := by
  unfold classesOf at formed
  unfold classFields
  split at formed
  next plain =>
    rw [if_pos plain]
    obtain ⟨cls, ofModel, same⟩ := Outcome.bind_eq_ok.mp formed
    obtain ⟨parts, ofFields, same'⟩ := Outcome.bind_eq_ok.mp ofModel
    cases same
    cases same'
    refine congrArg ([·]) (keys_of_parts ofFields rfl ?_)
    split <;> rfl
  next unions =>
    rw [if_neg unions]
    split at formed
    next isUnion =>
      rw [if_pos isUnion]
      obtain ⟨key, _, formed⟩ := Outcome.bind_eq_ok.mp formed
      obtain ⟨base, ofBase, formed⟩ := Outcome.bind_eq_ok.mp formed
      obtain ⟨arms, ofArms, same⟩ := Outcome.bind_eq_ok.mp formed
      obtain ⟨parts, ofFields, same'⟩ := Outcome.bind_eq_ok.mp ofBase
      cases same
      cases same'
      have noFields : (if config.serialization.isOn then [dispatch model key] else []).filterMap
          Part.field? = [] := by
        split <;> rfl
      rw [List.map_cons, keys_of_parts ofFields rfl noFields, keys_of_arms ofArms]
      simp
    next noUnion =>
      rw [if_neg noUnion]
      obtain ⟨cls, ofModel, same⟩ := Outcome.bind_eq_ok.mp formed
      obtain ⟨parts, ofFields, same'⟩ := Outcome.bind_eq_ok.mp ofModel
      cases same
      cases same'
      exact congrArg ([·]) (keys_of_parts ofFields (List.append_nil _).symm rfl)

/-- The names of the arguments that a function gives the class, if that is all that it does. -/
def Part.arguments? : Part → Option (List String)
  | .function f =>
    match f.body with
    | [.ret (.call (.name "cls") [] arguments)] => some (arguments.map Prod.fst)
    | _ => none
  | _ => none

/-- The arguments that a class is made with where it reads an object itself. -/
def ClassDef.decoded? (cls : ClassDef) : Option (List String) := cls.parts.findSome? Part.arguments?

/-- What is found in the parts of a plain class, apart from documentation and fields, is found in its two
functions. -/
theorem findSome?_of_classesOf {α : Type} {config : Config} {model : Model} {classes : List ClassDef}
    {found? : Part → Option α} (noDocumentation : ∀ text, found? (.documentation text) = none)
    (noField : ∀ name type value, found? (.field name type value) = none)
    (plain : config.unions.isOn = false) (serialization : config.serialization.isOn = true)
    (formed : classesOf config model = .ok classes) :
    classes.map (·.parts.findSome? found?) =
      [[readFields model model.flattened, writeFields model.flattened].findSome? found?] := by
  obtain ⟨parts, ofFields, rfl⟩ := classesOf_eq_ok plain formed
  have noneOfFields : parts.findSome? found? = none := by
    rw [List.findSome?_eq_none_iff]
    intro part isPart
    obtain ⟨field, _, ofField⟩ := Outcome.exists_left (Outcome.mapM_eq_ok.mp ofFields) isPart
    obtain ⟨type, rfl⟩ := fieldPart_eq_ok plain ofField
    exact noField _ _ _
  have noneDocumented : (documented model.description).findSome? found? = none := by
    unfold documented
    split
    · rfl
    · split
      · rfl
      · exact List.findSome?_eq_none_iff.mpr (by simp [noDocumentation])
  rw [List.map_singleton, plainClassOf, if_pos serialization, List.findSome?_append,
    List.findSome?_append, noneOfFields, noneDocumented]
  rfl

/-- In the plain style a class is made with an argument for each field. -/
theorem decoded_of_classesOf {config : Config} {model : Model} {classes : List ClassDef}
    (plain : config.unions.isOn = false) (serialization : config.serialization.isOn = true)
    (formed : classesOf config model = .ok classes) :
    classes.map (·.decoded?) = [some (model.flattened.map (attributeName ·.name))] := by
  have ofReader : Part.arguments? (readFields model model.flattened) =
      some (model.flattened.map (attributeName ·.name)) := by
    show some (List.map Prod.fst (List.map _ _)) = _
    rw [List.map_map]
    rfl
  have found := @findSome?_of_classesOf _ _ _ _ Part.arguments? (fun _ => rfl) (fun _ _ _ => rfl)
    plain serialization formed
  rw [List.findSome?_cons, ofReader] at found
  exact found

end Python

/-! ## Dart -/

namespace Dart

/-- The fields that the class of a model declares as members and then, for each of its constructors, as
parameters. The first constructor of a union takes none. -/
def classFields (config : Config) (model : Model) : List (List Field) :=
  if !config.unions.isOn then [model.flattened, model.flattened]
  else if model.isUnion then [] :: [] :: model.arms.map (armFields model)
  else [[], model.fields]

/-- The names of the members of a class and of the parameters of each constructor. -/
def Class.declared (cls : Class) : List (List String) :=
  cls.members.map (·.name) :: cls.constructors.map (·.parameters.map (·.name))

theorem names_of_arm (config : Config) (model : Model) (key : String) (variant : Variant) :
    (armParameters config model key variant).map (·.name) =
      (armFields model variant).map (identifier ·.name) := by
  rw [armParameters, armFields, List.map_append, List.map_append, List.map_map, List.map_map]
  congr 1
  apply List.map_congr_left
  intro field _
  simp only [Function.comp_apply]
  split <;> rfl

theorem declared_of_classOf {config : Config} {model : Model} {cls : Class}
    (formed : classOf config model = .ok cls) :
    cls.declared = (classFields config model).map fun fields => fields.map (identifier ·.name) := by
  unfold classOf at formed
  unfold classFields
  split at formed
  next plain =>
    cases formed
    rw [if_pos plain]
    simp [Class.declared, plainClass]
  next unions =>
    rw [if_neg unions]
    split at formed
    next isUnion =>
      rw [if_pos isUnion]
      obtain ⟨key, _, same⟩ := Outcome.bind_eq_ok.mp formed
      cases same
      simp [Class.declared, armConstructor, names_of_arm]
    next noUnion =>
      cases formed
      rw [if_neg noUnion]
      simp [Class.declared, dataClass, parameter]

/-- The name of the argument on a line: what stands before the colon, without indentation. -/
def label (line : String) : String := String.ofList ((line.toList.drop 4).takeWhile (· ≠ ':'))

/-- The names of the arguments that a method passes on, one a line: two lines stand before them and two
after them. -/
def labels (method : List String) : List String := (method.drop 2).dropLast.dropLast.map label

/-- The arguments that a class is made with where it reads JSON itself, which its first method does if it
has one to write it, too. -/
def Class.decoded? (cls : Class) : Option (List String) :=
  match cls.methods with
  | [reads, _] => some (labels reads)
  | _ => none

theorem isPart_of_isIdentifier {text : List Char} (isName : isIdentifier text = true) {c : Char}
    (isIn : c ∈ text) : isPart c = true := by
  cases text with
  | nil => cases isIn
  | cons first rest =>
    rw [isIdentifier, Bool.and_eq_true, List.all_eq_true] at isName
    rcases List.mem_cons.mp isIn with rfl | isLater
    · have start := isName.1
      rw [isStart, Bool.or_eq_true] at start
      rcases start with letter | dollar
      · simp [isPart, Char.isAlphanum, letter]
      · simp [isPart, of_decide_eq_true dollar]
    · exact isName.2 c isLater

theorem mem_withoutLineFeed {text : List Char} {c : Char} (isIn : c ∈ text) (other : c ≠ '\n') :
    c ∈ withoutLineFeed text := by
  unfold withoutLineFeed
  split
  next ends =>
    rw [← List.dropLast_append_getLast? _ ends, List.mem_append, List.mem_singleton] at isIn
    exact isIn.resolve_right other
  next => exact isIn

/-- An identifier has no colon. -/
theorem colon_not_mem_identifier (name : String) : ':' ∉ (identifier name).toList := by
  intro isIn
  cases kept : isKept name with
  | true =>
    rw [identifier_of_isKept kept] at isIn
    rw [isKept, Bool.and_eq_true] at kept
    have part := isPart_of_isIdentifier kept.1 (mem_withoutLineFeed isIn (by decide))
    exact absurd part (by decide)
  | false =>
    rw [identifier_of_not_isKept kept, mended, unreserved] at isIn
    split at isIn
    · rw [String.toList_append, List.mem_append] at isIn
      rcases isIn with isBefore | isMark
      · exact absurd (isPart_of_mem_begun isBefore) (by decide)
      · exact absurd isMark (by decide)
    · exact absurd (isPart_of_mem_begun isIn) (by decide)

theorem label_argument (name text : String) :
    label ("    " ++ identifier name ++ ": " ++ text ++ ",") = identifier name := by
  have characters : ("    " ++ identifier name ++ ": " ++ text ++ ",").toList.drop 4 =
      (identifier name).toList ++ ':' :: (" " ++ text ++ ",").toList := by
    simp only [String.toList_append, List.append_assoc]
    rfl
  have allOther : ∀ c ∈ (identifier name).toList, decide (c ≠ ':') = true := by
    intro c isIn
    rw [decide_eq_true_eq]
    rintro rfl
    exact colon_not_mem_identifier name isIn
  rw [label, characters, List.takeWhile_append_of_pos allOther, List.takeWhile_cons_of_neg (by decide),
    List.append_nil, String.ofList_toList]

theorem dropLast_twice (lines : List String) (first last : String) :
    (lines ++ [first, last]).dropLast.dropLast = lines := by
  rw [List.dropLast_append_cons, List.dropLast_cons_cons, List.dropLast_singleton, List.dropLast_concat]

/-- The lines of a method but for the first two and the last two. -/
def innerLines (method : List String) : List String := (method.drop 2).dropLast.dropLast

/-- The value of a field as it is read from decoded JSON. -/
def reading (field : Field) : Expr :=
  cast field.type field.nullable (.source ("json[" ++ literal field.name ++ "]"))

/-- The value of a field as it is given back for JSON. -/
def giving (field : Field) : Expr := dump field.type field.nullable (.source (identifier field.name))

theorem innerLines_readFields (model : Model) (fields : List Field) :
    innerLines (readFields model fields) = fields.map fun field =>
      "    " ++ identifier field.name ++ ": " ++ (reading field).text ++ "," := by
  cases fields with
  | nil => rfl
  | cons first rest =>
    simp only [innerLines, readFields, List.isEmpty_cons, Bool.false_eq_true, if_false,
      List.cons_append, List.nil_append, List.drop_succ_cons, List.drop_zero, List.append_assoc]
    rw [dropLast_twice]
    rfl

theorem innerLines_writeFields (fields : List Field) :
    innerLines (writeFields fields) = fields.map fun field =>
      "    " ++ literal field.name ++ ": " ++ (giving field).text ++ "," := by
  rw [innerLines, writeFields, List.append_assoc, List.cons_append, List.cons_append, List.nil_append,
    List.drop_succ_cons, List.drop_succ_cons, List.drop_zero, dropLast_twice]
  rfl

theorem labels_readFields (model : Model) (fields : List Field) :
    labels (readFields model fields) = fields.map (identifier ·.name) := by
  show (innerLines (readFields model fields)).map label = _
  rw [innerLines_readFields, List.map_map]
  apply List.map_congr_left
  intro field _
  exact label_argument field.name _

/-- In the plain style a class is made with an argument for each field. -/
theorem decoded_of_classOf {config : Config} {model : Model} {cls : Class}
    (plain : config.unions.isOn = false) (serialization : config.serialization.isOn = true)
    (formed : classOf config model = .ok cls) :
    cls.decoded? = some (model.flattened.map (identifier ·.name)) := by
  rw [classOf, plain] at formed
  cases formed
  simp only [Class.decoded?, plainClass, methods, serialization, if_true, labels_readFields]

end Dart

/-! ## Either language -/

/-- The names of what the classes of a unit declare, one list for each class or constructor. -/
def Declaration.declared : Declaration → List (List String)
  | .dart cls => cls.declared
  | .python cls => [cls.fields.keys]

/-- The arguments that a class is made with where it reads JSON itself. -/
def Declaration.decoded? : Declaration → Option (List String)
  | .dart cls => cls.decoded?
  | .python cls => cls.decoded?

/-- The fields that the classes of a model declare, one list for each class or constructor. -/
def classFields (config : Config) (model : Model) : List (List Field) :=
  match config.language with
  | .dart => Dart.classFields config model
  | .python => Python.classFields config model

/-- The classes of a model declare its fields under their identifiers, and in the plain style a class is
made with an argument for each. Members and arguments are different exactly if no two of the fields
have properties that meet. -/
theorem declarationsOf_members {config : Config} {model : Model} {classes : List Declaration}
    (formed : declarationsOf config model = .ok classes) :
    classes.flatMap (·.declared) =
        (classFields config model).map (fun fields => fields.map (config.language.identifier ·.name)) ∧
      (config.unions.isOn = false → config.serialization.isOn = true →
        classes.map (·.decoded?) = [some (model.flattened.map (config.language.identifier ·.name))]) ∧
      ∀ fields : List Field, (fields.map (config.language.identifier ·.name)).Nodup ↔
        fields.Pairwise fun field other => ¬config.language.Merges field.name other.name := by
  refine ⟨?_, ?_, ?_⟩
  · unfold declarationsOf at formed
    unfold classFields
    split at formed
    next isDart =>
      obtain ⟨cls, ofModel, same⟩ := Outcome.map_eq_ok.mp formed
      cases same
      rw [isDart, List.flatMap_singleton]
      exact Dart.declared_of_classOf ofModel
    next isPython =>
      obtain ⟨own, ofModel, same⟩ := Outcome.map_eq_ok.mp formed
      cases same
      rw [isPython, List.flatMap_map]
      show own.flatMap (fun cls => [cls.fields.keys]) = _
      rw [← List.map_eq_flatMap]
      exact Python.keys_of_classesOf ofModel
  · intro plain serialization
    unfold declarationsOf at formed
    split at formed
    next isDart =>
      obtain ⟨cls, ofModel, same⟩ := Outcome.map_eq_ok.mp formed
      cases same
      rw [isDart]
      exact congrArg ([·]) (Dart.decoded_of_classOf plain serialization ofModel)
    next isPython =>
      obtain ⟨own, ofModel, same⟩ := Outcome.map_eq_ok.mp formed
      cases same
      rw [isPython, List.map_map]
      exact Python.decoded_of_classesOf plain serialization ofModel
  · intro fields
    have different := @Language.nodup_identifiers_iff config.language (fields.map (·.name))
    rwa [List.map_map, List.pairwise_map] at different

/-- The plain style of a language. -/
def plainStyle (language : Language) : Config := { language, unions := .typed false }

/-- A model with a field of some type for each name. -/
def modelOf (name : String) (fields : List String) : Model :=
  { name, fields := fields.map fun field => { name := field, type := .of .string } }

/-- The fields of an errand stay apart, with a keyword, a digit and a blank among their names. -/
theorem declarationsOf_members_errand : ∃ classes,
    declarationsOf (plainStyle .python) (modelOf "Errand" ["class", "due at", "2nd", "class__"]) =
        .ok classes ∧
      classes.flatMap (·.declared) = [["class_", "due_at", "_2nd", "class__"]] ∧
      ["class_", "due_at", "_2nd", "class__"].Nodup := by
  have isOk : Outcome.any (declarationsOf (plainStyle .python)
      (modelOf "Errand" ["class", "due at", "2nd", "class__"])) (fun _ => true) = true := by
    decide +kernel
  obtain ⟨classes, formed, _⟩ := Outcome.any_iff.mp isOk
  obtain ⟨declared, _, different⟩ := declarationsOf_members formed
  have identifiers : (modelOf "Errand" ["class", "due at", "2nd", "class__"]).fields.map
      (Language.python.identifier ·.name) = ["class_", "due_at", "_2nd", "class__"] := by
    decide +kernel
  refine ⟨classes, formed, ?_, ?_⟩
  · rw [declared, ← identifiers]
    decide +kernel
  · rw [← identifiers]
    exact (different _).mpr (by decide +kernel)

/-- The names of some properties of which two meet in either language. -/
def clashing : List String := ["due-at", "due_at", "dueAt"]

/-- Properties with different names are declared and passed on under one identifier. -/
theorem declarationsOf_merges_errand : clashing.Nodup ∧
    (∃ classes, declarationsOf (plainStyle .python) (modelOf "Errand" clashing) = .ok classes ∧
      classes.flatMap (·.declared) = [["due_at", "due_at", "dueAt"]] ∧
      classes.map (·.decoded?) = [some ["due_at", "due_at", "dueAt"]]) ∧
    ∃ classes, declarationsOf (plainStyle .dart) (modelOf "Errand" clashing) = .ok classes ∧
      classes.flatMap (·.declared) = [["dueAt", "due_at", "dueAt"], ["dueAt", "due_at", "dueAt"]] ∧
      classes.map (·.decoded?) = [some ["dueAt", "due_at", "dueAt"]] := by
  refine ⟨by decide, ?_, ?_⟩
  · have run : Outcome.any (declarationsOf (plainStyle .python) (modelOf "Errand" clashing))
        (fun classes => classes.flatMap (·.declared) = [["due_at", "due_at", "dueAt"]] &&
          classes.map (·.decoded?) = [some ["due_at", "due_at", "dueAt"]]) = true := by
      decide +kernel
    obtain ⟨classes, formed, holds⟩ := Outcome.any_iff.mp run
    simp only [Bool.and_eq_true, decide_eq_true_eq] at holds
    exact ⟨classes, formed, holds⟩
  · have run : Outcome.any (declarationsOf (plainStyle .dart) (modelOf "Errand" clashing))
        (fun classes =>
          classes.flatMap (·.declared) = [["dueAt", "due_at", "dueAt"], ["dueAt", "due_at", "dueAt"]] &&
          classes.map (·.decoded?) = [some ["dueAt", "due_at", "dueAt"]]) = true := by
      decide +kernel
    obtain ⟨classes, formed, holds⟩ := Outcome.any_iff.mp run
    simp only [Bool.and_eq_true, decide_eq_true_eq] at holds
    exact ⟨classes, formed, holds⟩

end SchemaCodegen
