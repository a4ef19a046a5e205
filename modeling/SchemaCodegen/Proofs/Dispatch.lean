import SchemaCodegen.Proofs.CheckedUnions
import SchemaCodegen.Proofs.Conversion
import SchemaCodegen.Python.Unit

/-!
# Dispatch to the classes of arms

The abstract class of a union reads an object by the class of the last arm whose value the object has for
the key, and an object without the key as one that has the value of the arm by default. So the class of an
arm is reached if no later arm has its value or its class.
-/

namespace SchemaCodegen.Python

variable {τ : Type}

/-! ## Tables by truth values -/

namespace Object

/-- A key that is one truth value is not the other. -/
theorem isSameKey_bool {key : Object τ} {b c : Bool} (isOne : key.isSameKey (.bool b) = true) :
    key.isSameKey (.bool c) = decide (b = c) := by
  cases key <;> cases b <;> cases c <;> simp_all [isSameKey, number?]

theorem lookUp_put_bool (entries : List (Object τ × Object τ)) (b c : Bool) (value : Object τ) :
    lookUp (put entries (.bool b) value) (.bool c) =
      if b = c then some value else lookUp entries (.bool c) := by
  induction entries with
  | nil => cases b <;> cases c <;> rfl
  | cons entry rest ih =>
    obtain ⟨key, old⟩ := entry
    rw [put]
    by_cases found : key.isSameKey (.bool b) = true
    · rw [if_pos found, lookUp, lookUp, isSameKey_bool found]
      by_cases same : b = c
      · simp [same]
      · simp [same]
    · rw [if_neg found, lookUp, lookUp, ih]
      by_cases same : b = c
      · subst same
        simp [found]
      · simp [same]

end Object

/-- The entries of a table of the classes of some arms, after others. -/
def armEntries (model : Model) (before : List (Object τ × Object τ)) (arms : List Variant) :
    List (Object τ × Object τ) :=
  arms.foldl (fun entries arm => Object.put entries (.bool arm.value) (.cls (model.armClass arm))) before

/-- The last arm with a value. -/
def lastArm? (arms : List Variant) (value : Bool) : Option Variant :=
  arms.reverse.find? (·.value = value)

/-- In a table of arms the class of the last arm with a value is found at the value. -/
theorem lookUp_armEntries (model : Model) (before : List (Object τ × Object τ)) (arms : List Variant)
    (value : Bool) : Object.lookUp (armEntries model before arms) (.bool value) =
      ((lastArm? arms value).map fun arm => Object.cls (model.armClass arm)).or
        (Object.lookUp before (.bool value)) := by
  induction arms generalizing before with
  | nil => rfl
  | cons arm rest ih =>
    rw [armEntries, List.foldl_cons, ← armEntries, ih, Object.lookUp_put_bool, lastArm?, lastArm?,
      List.reverse_cons, List.find?_append]
    cases rest.reverse.find? (·.value = value) with
    | some later => rfl
    | none =>
      by_cases same : arm.value = value
      · simp [same]
      · simp [same]

theorem evalEntries_arms {env : Environment τ} {scope : Scope τ} {model : Model} {arms : List Variant}
    (each : ∀ arm ∈ arms, (Expr.name (model.armClass arm)).eval env scope =
      some (.cls (model.armClass arm))) (before : List (Object τ × Object τ)) :
    Expr.evalEntries env scope before
        (arms.map fun arm => (truth arm.value, .name (model.armClass arm))) =
      some (armEntries model before arms) := by
  induction arms generalizing before with
  | nil => rw [List.map_nil, Expr.evalEntries, armEntries, List.foldl_nil]
  | cons arm rest ih =>
    have isValue : (truth arm.value).eval env scope = some (.bool arm.value) := rfl
    rw [List.map_cons, Expr.evalEntries, isValue, each arm (List.mem_cons_self ..), armEntries,
      List.foldl_cons, ← armEntries,
      ← ih fun other isLater => each other (List.mem_cons_of_mem _ isLater)]
    rfl

/-! ## The last of its name -/

/-- What is found from the end is the last item of its kind. -/
theorem find?_reverse_eq_some {α : Type} {test : α → Bool} {front back : List α} {a : α}
    (isOne : test a = true) (noLater : ∀ b ∈ back, test b = false) :
    (front ++ a :: back).reverse.find? test = some a := by
  refine List.find?_eq_some_iff_append.mpr ⟨isOne, back.reverse, front.reverse, by simp, ?_⟩
  intro b isLater
  simpa using noLater b (List.mem_reverse.mp isLater)

/-- A function finds each class that it sees. -/
theorem get?_classesAround {f : Function} {cls : ClassDef} {classes : List ClassDef} {name : String}
    (isClass : ∃ other ∈ classes, other.name = name) (seen : f.sees cls name = true) :
    Entries.get? (f.classesAround cls classes : Scope τ) name = some (.cls name) := by
  rw [Function.classesAround, Entries.get?_filter, if_pos seen]
  induction classes with
  | nil =>
    obtain ⟨_, isOther, _⟩ := isClass
    cases isOther
  | cons first rest ih =>
    rw [List.map_cons, Entries.get?_cons]
    by_cases same : first.name = name
    · rw [if_pos same, same]
    · obtain ⟨other, isOther, named⟩ := isClass
      rcases List.mem_cons.mp isOther with rfl | isLater
      · exact absurd named same
      · rw [if_neg same, ih ⟨other, isLater, named⟩]

/-- The class that is reached by a value: that of the last arm with the value, or of the class that is
defined last with the name of this one. -/
def reached? (model : Model) (classes : List ClassDef) (value : Bool) : Option ClassDef := do
  lastNamed? classes (model.armClass (← lastArm? model.arms value))

/-- The class of an arm is reached by its value if neither a later arm has the value nor a later class the
name. -/
theorem reached?_eq_some {model : Model} {first rest : List Variant} {arm : Variant}
    (arms : model.arms = first ++ arm :: rest) (noOther : ∀ other ∈ rest, other.value ≠ arm.value)
    {front back : List ClassDef} {cls : ClassDef} (named : cls.name = model.armClass arm)
    (noLater : ∀ other ∈ back, other.name ≠ model.armClass arm) :
    reached? model (front ++ cls :: back) arm.value = some cls := by
  have last : lastArm? model.arms arm.value = some arm := by
    rw [lastArm?, arms]
    exact find?_reverse_eq_some (by simp) fun other isLater => by simpa using noOther other isLater
  rw [reached?, last]
  exact find?_reverse_eq_some (by simpa using named) fun other isLater => by
    simpa using noLater other isLater

/-! ## The function that reads a union -/

/-- The value of the key in the function that reads a union. -/
def keyOf (model : Model) (key : String) : Expr :=
  match model.defaultArm? with
  | some arm => method data "get" [quoted key, truth arm.value]
  | none => .subscript data (quoted key)

/-- The function by which a union is read. -/
def dispatcher (model : Model) (key : String) : Function where
  name := "from_dict"
  decorators := [.name "classmethod"]
  parameters := [("cls", none), ("data", some anyObject)]
  returns := .name model.name
  body :=
    [.assign "variants" (.dict (model.arms.map fun arm => (truth arm.value, .name (model.armClass arm)))),
      .ret (method (.subscript (.name "variants") (keyOf model key)) "from_dict" [data])]

theorem dispatch_eq (model : Model) (key : String) :
    dispatch model key = .function (dispatcher model key) := by
  unfold dispatch dispatcher keyOf
  rfl

/-- An object without the key has the value of the arm by default. -/
theorem eval_keyOf {env : Environment τ} {scope : Scope τ} {model : Model} {key : String}
    {members : Json.Members} (given : data.eval env scope = some (.ofJson (.obj members))) :
    (keyOf model key).eval env scope =
      ((Entries.get? members key).map Object.ofJson).or
        (model.defaultArm?.map fun arm => .bool arm.value) := by
  have found := Object.lookUp_ofMembers (τ := τ) members key
  unfold keyOf
  split
  next arm isDefault =>
    rw [eval_method given rfl rfl]
    show some ((Object.lookUp _ _).getD _) = _
    rw [found, isDefault]
    cases Entries.get? members key <;> rfl
  next noDefault =>
    rw [Expr.eval, given, noDefault, Option.map_none, Option.or_none, ← found]
    rfl

/-- The names that the function by which a union is read has for its own values. -/
theorem variables_dispatcher (model : Model) (key : String) :
    (dispatcher model key).variables = ["cls", "data", "variants"] := rfl

/-- What the function by which a union is read finds: the class that it is called on, the value, and the
other classes. -/
def dispatchScope (model : Model) (key : String) (base : ClassDef) (classes : List ClassDef)
    (value : Object τ) : Scope τ :=
  ("cls", .own base) :: ("data", value) :: (dispatcher model key).classesAround base classes

section

variable {model : Model} {key : String} {base : ClassDef} {classes : List ClassDef}
variable {env : Environment τ} {library : ClassDef → Object τ → Option (Object τ)}
variable (areClasses : ∀ arm ∈ model.arms, ∃ cls ∈ classes, cls.name = model.armClass arm)
variable (seen : ∀ arm ∈ model.arms, (dispatcher model key).sees base (model.armClass arm) = true)
include areClasses seen

theorem eval_armClass (value : Object τ) {arm : Variant} (isArm : arm ∈ model.arms) :
    (Expr.name (model.armClass arm)).eval env (dispatchScope model key base classes value) =
      some (.cls (model.armClass arm)) := by
  have free : model.armClass arm ∉ ["cls", "data", "variants"] :=
    of_decide_eq_true (Bool.and_eq_true_iff.mp (seen arm isArm)).1
  have notClass : "cls" ≠ model.armClass arm := fun same => free (same ▸ by decide)
  have notData : "data" ≠ model.armClass arm := fun same => free (same ▸ by decide)
  rw [Expr.eval, dispatchScope, Entries.get?_cons, if_neg notClass, Entries.get?_cons, if_neg notData,
    get?_classesAround (areClasses arm isArm) (seen arm isArm)]
  rfl

/-- The function by which a union is read looks its key up in a table of the classes of arms. -/
theorem callAmong_dispatcher (value : Object τ) :
    base.callAmong env library classes (dispatcher model key) value =
      (method (.subscript (.name "variants") (keyOf model key)) "from_dict" [data]).eval
        (env.among library classes)
        (("variants", .dict (armEntries model [] model.arms)) ::
          dispatchScope model key base classes value) := by
  have table : (Expr.dict (model.arms.map fun arm => (truth arm.value, .name (model.armClass arm)))).eval
      (env.among library classes) (dispatchScope model key base classes value) =
        some (.dict (armEntries model [] model.arms)) := by
    rw [Expr.eval, evalEntries_arms fun arm isArm => eval_armClass areClasses seen value isArm]
    rfl
  show (Expr.eval _ (dispatchScope model key base classes value) _).bind _ = _
  rw [table]
  rfl

/-- An object is read by the class that is reached by its value for the key. -/
theorem callAmong_eq_reached {members : Json.Members} {value : Option Bool}
    (isValue : ((Entries.get? members key).map Object.ofJson).or
      (model.defaultArm?.map fun arm => .bool arm.value) = (value.map .bool : Option (Object τ))) :
    base.callAmong env library classes (dispatcher model key) (.ofJson (.obj members)) =
      value.bind fun b => (reached? model classes b).bind (library · (.ofJson (.obj members))) := by
  have isData : data.eval (env.among library classes)
      (("variants", .dict (armEntries model [] model.arms)) ::
        dispatchScope model key base classes (.ofJson (.obj members))) =
          some (.ofJson (.obj members)) := rfl
  have ofKey := @eval_keyOf τ (env.among library classes) _ model key members isData
  rw [callAmong_dispatcher areClasses seen, method, Expr.eval, Expr.eval, Expr.eval, ofKey, isValue]
  cases value with
  | none => rfl
  | some b =>
    show ((Object.lookUp (armEntries model [] model.arms) (.bool b)).bind _).bind _ = _
    rw [lookUp_armEntries, Option.bind_some, reached?]
    cases lastArm? model.arms b <;> rfl

end

/-- How a function reads objects: one with a value for the key by the class that is reached by the value,
and one without the key as one that has the value of the arm by default. -/
structure Dispatches (library : ClassDef → Object τ → Option (Object τ)) (model : Model) (key : String)
    (classes : List ClassDef) (call : Object τ → Option (Object τ)) : Prop where
  given : ∀ (members : Json.Members) (value : Bool), Entries.get? members key = some (.bool value) →
    call (.ofJson (.obj members)) =
      (reached? model classes value).bind (library · (.ofJson (.obj members)))
  missing : ∀ members : Json.Members, Entries.get? members key = none →
    call (.ofJson (.obj members)) = model.defaultArm?.bind fun arm =>
      (reached? model classes arm.value).bind (library · (.ofJson (.obj members)))

theorem dispatches_dispatcher {model : Model} {key : String} {base : ClassDef} {classes : List ClassDef}
    (areClasses : ∀ arm ∈ model.arms, ∃ cls ∈ classes, cls.name = model.armClass arm)
    (seen : ∀ arm ∈ model.arms, (dispatcher model key).sees base (model.armClass arm) = true)
    (env : Environment τ) (library : ClassDef → Object τ → Option (Object τ)) :
    Dispatches library model key classes
      (base.callAmong env library classes (dispatcher model key)) where
  given members value isGiven := by
    have isValue : ((Entries.get? members key).map Object.ofJson).or
        (model.defaultArm?.map fun arm => .bool arm.value) =
          ((some value).map .bool : Option (Object τ)) := by
      rw [isGiven]
      rfl
    rw [callAmong_eq_reached areClasses seen isValue, Option.bind_some]
  missing members isMissing := by
    have isDefault : ((Entries.get? members key).map Object.ofJson).or
        (model.defaultArm?.map fun arm => .bool arm.value) =
          ((model.defaultArm?.map (·.value)).map .bool : Option (Object τ)) := by
      rw [isMissing, Option.map_map]
      rfl
    rw [callAmong_eq_reached areClasses seen isDefault, Option.bind_map]
    rfl

/-! ## The classes of a union -/

section

variable {config : Config} {model : Model} {key : String} {classes : List ClassDef}

/-- A field of a class is no function. -/
theorem filterMap_function?_fieldParts {default : Field → Option Expr} {fields : List Field}
    {parts : List Part} {name : String}
    (formed : (fields.mapM fun field => fieldPart config field (default field)) = .ok parts) :
    parts.filterMap (·.function? name) = [] := by
  rw [List.filterMap_eq_nil_iff]
  intro part isPart
  obtain ⟨field, _, ofField⟩ := Outcome.exists_left (Outcome.mapM_eq_ok.mp formed) isPart
  obtain ⟨type, _, same⟩ := Outcome.bind_eq_ok.mp ofField
  cases same
  rfl

theorem name_of_armClass {arm : Variant} {cls : ClassDef}
    (formed : armClass config model key arm = .ok cls) : cls.name = model.armClass arm := by
  obtain ⟨_, _, same⟩ := Outcome.bind_eq_ok.mp formed
  cases same
  rfl

/-- A union has an abstract class, whose one function to read objects is the one that looks the classes of
arms up, and a class for each arm. -/
theorem exists_unionBase (withLibrary : usesLibrary config = true) (passes : model.checkUnion = .ok key)
    (formed : classesOf config model = .ok classes) :
    ∃ base own, classes = base :: own ∧ base.name = model.name ∧
      base.parts.filterMap (·.function? "from_dict") = [dispatcher model key] ∧
      List.Forall₂ (fun arm cls => armClass config model key arm = .ok cls) model.arms own := by
  obtain ⟨unions, serialization⟩ := Bool.and_eq_true_iff.mp withLibrary
  rw [classesOf, unions, (Model.checkUnion_eq_ok_iff.mp passes).isUnion] at formed
  obtain ⟨_, isKey, formed⟩ := Outcome.bind_eq_ok.mp formed
  cases isKey.symm.trans passes
  obtain ⟨base, ofBase, formed⟩ := Outcome.bind_eq_ok.mp formed
  obtain ⟨own, ofArms, same⟩ := Outcome.bind_eq_ok.mp formed
  cases same
  obtain ⟨parts, ofFields, same⟩ := Outcome.bind_eq_ok.mp ofBase
  cases same
  refine ⟨_, own, rfl, rfl, ?_, Outcome.mapM_eq_ok.mp ofArms⟩
  have noText : (documented model.description).filterMap (·.function? "from_dict") = [] := by
    unfold documented
    split
    · rfl
    · split <;> rfl
  show List.filterMap _ (_ ++ _ ++ _) = _
  rw [List.filterMap_append, List.filterMap_append, noText, filterMap_function?_fieldParts ofFields,
    if_pos serialization, dispatch_eq]
  rfl

end

/-- A union that passes its check reads objects by the function of its abstract class, among whatever
other classes: by the class of the last arm with the value that the object has for the key, or of the class
that is defined last with the name of this one. An object without the key is read as one with the value of
the arm by default, and fails if there is none. So the class of an arm is reached by its value if no later
arm has the value or the name of the class, and no class behind those of the union has its name. -/
theorem union_dispatches_to_arms {config : Config} (withLibrary : usesLibrary config = true)
    {model : Model} {key : String} (passes : model.checkUnion = .ok key)
    (seen : ∀ arm ∈ model.arms, model.armClass arm ∉ ["cls", "data", "variants"] ∧
      isPrivateTo model.name (model.armClass arm) = false)
    {classes : List ClassDef} (formed : classesOf config model = .ok classes) :
    ∃ base own f, classes = base :: own ∧ base.name = model.name ∧
      base.parts.filterMap (·.function? "from_dict") = [f] ∧
      List.Forall₂ (fun arm cls => armClass config model key arm = .ok cls) model.arms own ∧
      ∀ before later : List ClassDef,
        (∀ (τ : Type) (env : Environment τ) (library : ClassDef → Object τ → Option (Object τ)),
          Dispatches library model key (before ++ classes ++ later)
            (base.callAmong env library (before ++ classes ++ later) f)) ∧
        ∀ first arm rest, model.arms = first ++ arm :: rest →
          (∀ other ∈ rest, other.value ≠ arm.value ∧ model.armClass other ≠ model.armClass arm) →
          (∀ cls ∈ later, cls.name ≠ model.armClass arm) →
          ∃ cls, armClass config model key arm = .ok cls ∧
            reached? model (before ++ classes ++ later) arm.value = some cls := by
  obtain ⟨base, own, rfl, named, functions, ofArms⟩ := exists_unionBase withLibrary passes formed
  refine ⟨base, own, dispatcher model key, rfl, named, functions, ofArms, ?_⟩
  intro before later
  constructor
  · intro τ env library
    apply dispatches_dispatcher
    · intro arm isArm
      obtain ⟨cls, isOwn, ofArm⟩ := Outcome.exists_mem_of_mapM (Outcome.mapM_eq_ok.mpr ofArms) isArm
      exact ⟨cls, by simp [isOwn], name_of_armClass ofArm⟩
    · intro arm isArm
      rw [Function.sees, variables_dispatcher, named, decide_eq_true (seen arm isArm).1,
        (seen arm isArm).2]
      rfl
  · intro first arm rest arms noOther noLater
    rw [arms] at ofArms
    obtain ⟨ownFirst, _, rfl, ofRest⟩ := Outcome.exists_parted ofArms
    obtain ⟨cls, ownRest, ofArm, ofLater, rfl⟩ := List.forall₂_cons_left_iff.mp ofRest
    refine ⟨cls, ofArm, ?_⟩
    have parted : before ++ base :: (ownFirst ++ cls :: ownRest) ++ later =
        (before ++ base :: ownFirst) ++ cls :: (ownRest ++ later) := by simp
    rw [parted]
    apply reached?_eq_some arms (fun other isLater => (noOther other isLater).1) (name_of_armClass ofArm)
    intro other isBehind
    rcases List.mem_append.mp isBehind with isOwn | isLater
    · obtain ⟨behind, isArm, ofBehind⟩ := Outcome.exists_left ofLater isOwn
      rw [name_of_armClass ofBehind]
      exact (noOther behind isArm).2
    · exact noLater other isLater

/-! ## Lamps -/

/-- An arm of lamps with some fields for truth values. -/
def lampArm (name : String) (value : Bool) (fields : List String) (isDefault : Bool := false) : Variant where
  name := some name
  value
  fields := fields.map fun field => { name := field, type := .of .boolean }
  isDefault

/-- Lamps that are told apart by whether they are on. -/
def lamps (name : String) (arms : List Variant) : Model where
  name
  unionKey := some "on"
  variants := some arms

/-- Code that knows of no points in time. -/
def timeless : Environment Unit where
  moment? _ := none
  momentText _ := ""
  isClass _ := false
  read _ _ := none
  write _ _ := none

/-- Reads every object as one of a class with no attribute set. -/
def unset (cls : ClassDef) (_ : Object Unit) : Option (Object Unit) :=
  some (.model cls.name (cls.fields.keys.map fun name => (name, .null)))

/-- Lamps that are on are bright, and others are dark; so are lamps of which nothing is known. -/
def knownLamps : Model :=
  lamps "Lamp" [lampArm "bright" true ["on", "hot"], lampArm "dark" false ["on"] true]

/-- A lamp is bright or dark by whether it is on, and dark if that is not said. -/
theorem union_dispatches_to_lamps : ∃ base bright dark f,
    classesOf { language := .python } knownLamps = .ok [base, bright, dark] ∧
      base.callAmong timeless unset [base, bright, dark] f (.ofJson (.obj [("on", .bool true)])) =
        unset bright (.ofJson (.obj [("on", .bool true)])) ∧
      base.callAmong timeless unset [base, bright, dark] f (.ofJson (.obj [("on", .bool false)])) =
        unset dark (.ofJson (.obj [("on", .bool false)])) ∧
      base.callAmong timeless unset [base, bright, dark] f (.ofJson (.obj [])) =
        unset dark (.ofJson (.obj [])) := by
  have isOk : Outcome.any (classesOf { language := .python } knownLamps) (fun _ => true) = true := by
    decide +kernel
  obtain ⟨classes, formed, _⟩ := Outcome.any_iff.mp isOk
  have passes : knownLamps.checkUnion = .ok "on" := by decide
  obtain ⟨base, own, f, rfl, _, _, each, reads⟩ :=
    union_dispatches_to_arms rfl passes (by decide +kernel) formed
  obtain ⟨bright, _, ofBright, rest, rfl⟩ := List.forall₂_cons_left_iff.mp each
  obtain ⟨dark, _, ofDark, noMore, rfl⟩ := List.forall₂_cons_left_iff.mp rest
  obtain rfl := List.forall₂_nil_left_iff.mp noMore
  obtain ⟨dispatches, reaches⟩ := reads [] []
  rw [List.nil_append, List.append_nil] at dispatches reaches
  obtain ⟨given, missing⟩ := dispatches Unit timeless unset
  obtain ⟨_, isBright, toBright⟩ := reaches [] _ [_] rfl (by decide +kernel) nofun
  obtain ⟨_, isDark, toDark⟩ := reaches [_] _ [] rfl nofun nofun
  cases isBright.symm.trans ofBright
  cases isDark.symm.trans ofDark
  refine ⟨base, bright, dark, f, formed, (given _ true rfl).trans ?_, (given _ false rfl).trans ?_,
    (missing _ rfl).trans ?_⟩
  · exact congrArg (Option.bind · _) toBright
  · exact congrArg (Option.bind · _) toDark
  · exact congrArg (Option.bind · (unset · _)) toDark

/-- The class by which a union reads an object, by its name and its fields. -/
def readBy? (classes : List ClassDef) (members : Json.Members) : Option (String × List String) := do
  let base ← classes.head?
  let f ← base.function? "from_dict"
  match ← base.callAmong timeless unset classes f (.ofJson (.obj members)) with
  | .model name attributes => some (name, Entries.keys attributes)
  | _ => none

/-- Lamps with two arms for one value. -/
def twoBright : Model := lamps "Lamp" [lampArm "bright" true ["on", "hot"], lampArm "dim" true ["on"]]

/-- Lamps with two arms whose classes have one name. -/
def sameNames : Model := lamps "Lamp" [lampArm "bright" true ["on", "hot"], lampArm "Bright" false ["on"]]

/-- Lamps with a class that is named as what the function by which they are read is given. -/
def dataLamps : Model := lamps "data" [lampArm "-" true ["on"]]

/-- Lamps with a class that has a private name. -/
def privateLamps : Model := lamps "__Lamp" [lampArm "dim" true ["on"]]

/-- Unions that pass their check where an object that has the value of the first arm is not read by the
class of this arm: another arm has the value, another class has the name, or the name of the class is
another one in the function that reads the object. -/
theorem lamps_miss_first_arm :
    (∀ model ∈ [twoBright, sameNames, dataLamps, privateLamps], model.checkUnion = .ok "on" ∧
      model.arms.head?.map (·.value) = some true) ∧
    Outcome.any (classesOf { language := .python } twoBright) (fun classes =>
      classes.map (fun cls => (cls.name, cls.fields.keys)) =
          [("Lamp", []), ("LampBright", ["on", "hot"]), ("LampDim", ["on"])] &&
        readBy? classes [("on", .bool true)] = some ("LampDim", ["on"])) = true ∧
    Outcome.any (classesOf { language := .python } sameNames) (fun classes =>
      classes.map (fun cls => (cls.name, cls.fields.keys)) =
          [("Lamp", []), ("LampBright", ["on", "hot"]), ("LampBright", ["on"])] &&
        readBy? classes [("on", .bool true)] = some ("LampBright", ["on"])) = true ∧
    Outcome.any (classesOf { language := .python } dataLamps) (fun classes =>
      classes.map (fun cls => (cls.name, cls.fields.keys)) = [("data", []), ("data", ["on"])] &&
        readBy? classes [("on", .bool true)] = none) = true ∧
    Outcome.any (classesOf { language := .python } privateLamps) (fun classes =>
      classes.map (fun cls => (cls.name, cls.fields.keys)) = [("__Lamp", []), ("__LampDim", ["on"])] &&
        readBy? classes [("on", .bool true)] = none) = true := by
  decide +kernel

end SchemaCodegen.Python
