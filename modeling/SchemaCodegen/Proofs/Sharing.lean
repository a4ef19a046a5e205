import SchemaCodegen.Document.Container
import SchemaCodegen.Proofs.Outcome

/-!
# A conditional schema shares out its properties

Each property of a conditional schema becomes a field of exactly one of three models: of the first
variant if its branch requires it, of the second if only that one does, and of the base otherwise. A
field of a variant must be there, and one of the base must be there if the schema requires it.
-/

namespace SchemaCodegen

open Json (Value Members)

/-! ## Types and fields of properties -/

namespace FieldType

mutual
/-- The path of a property only shows where its type cannot be told. -/
theorem ofNode_of_path {naming : Setting Naming} {path other : String} {type : FieldType} :
    ∀ {node : Value}, ofNode naming path node = .ok type → ofNode naming other node = .ok type
  | .obj members, resolved => by
    rw [ofNode] at resolved ⊢
    split at resolved
    next isArray =>
      rw [if_pos isArray]
      cases items : ofItems naming path members with
      | error fault =>
        rw [items] at resolved
        cases resolved
      | ok item =>
        rw [items] at resolved
        rw [ofItems_of_path items]
        exact resolved
    next noArray =>
      rw [if_neg noArray]
      exact resolved
  | .null, resolved | .bool _, resolved | .int _, resolved | .float _, resolved | .str _, resolved
  | .arr _, resolved => by
    rw [ofNode.eq_def] at resolved ⊢
    exact resolved
theorem ofItems_of_path {naming : Setting Naming} {path other : String} {type : FieldType} :
    ∀ {members : List (String × Value)}, ofItems naming path members = .ok type →
      ofItems naming other members = .ok type
  | [], resolved => by
    rw [ofItems] at resolved
    cases resolved
  | (key, value) :: rest, resolved => by
    rw [ofItems.eq_def] at resolved ⊢
    simp only at resolved ⊢
    split at resolved
    next isItems =>
      rw [if_pos isItems]
      split at resolved
      · cases resolved
      · exact ofNode_of_path resolved
    next other =>
      rw [if_neg other]
      exact ofItems_of_path resolved
end

end FieldType

namespace Model

/-- The names of the fields in order. -/
def fieldNames (model : Model) : List String := model.fields.map (·.name)

end Model

/-- Whether a field has the type and the description of its property. -/
def Field.Describes (naming : Setting Naming) (properties : Members) (field : Field) : Prop :=
  ∃ node, Entries.get? properties field.name = some node ∧
    (∀ path, FieldType.ofNode naming path node = .ok field.type) ∧
    field.description = (node.member? "description").bind Value.text?

namespace Node

theorem field_eq_ok {naming : Setting Naming} {path : String} {required : List String}
    {name : String} {node : Value} {field : Field}
    (formed : Node.field naming path required name node = .ok field) :
    field.name = name ∧ (∀ path, FieldType.ofNode naming path node = .ok field.type) ∧
      field.nullable = !required.contains name ∧
      field.description = (node.member? "description").bind Value.text? := by
  obtain ⟨type, resolved, same⟩ := Outcome.bind_eq_ok.mp formed
  cases same
  refine ⟨rfl, ?_, rfl, rfl⟩
  intro other
  exact FieldType.ofNode_of_path resolved

/-- The fields of some properties are in the order of their names. -/
theorem fields_eq_ok {naming : Setting Naming} {path : String} {members : Members}
    {names : List String} {fields : List Field}
    (formed : Node.fields naming path members names = .ok fields) :
    List.Forall₂ (fun name field => Node.field naming path (required members) name
      ((Entries.get? (object members "properties") name).getD .null) = .ok field) names fields := by
  induction names generalizing fields with
  | nil =>
    cases formed
    exact .nil
  | cons name rest ih =>
    obtain ⟨first, ofName, formed⟩ := Outcome.bind_eq_ok.mp formed
    obtain ⟨more, ofRest, same⟩ := Outcome.bind_eq_ok.mp formed
    cases same
    exact .cons ofName (ih ofRest)

theorem map_name_of_fields {naming : Setting Naming} {path : String} {members : Members}
    {names : List String} {fields : List Field}
    (formed : Node.fields naming path members names = .ok fields) :
    fields.map (·.name) = names := by
  have each := fields_eq_ok formed
  clear formed
  induction each with
  | nil => rfl
  | cons first _ ih => rw [List.map_cons, ih, (field_eq_ok first).1]

/-- An explicit order moves properties, but none is lost and none comes twice. -/
theorem propertyNames_eq_ok {conventions : Naming} {members : Members} {names : List String}
    (ordered : propertyNames conventions members = .ok names) :
    names.Nodup ∧ ∀ name, name ∈ names ↔ name ∈ (object members "properties").keys := by
  obtain ⟨explicit, _, same⟩ := Outcome.bind_eq_ok.mp ordered
  cases same
  refine ⟨Model.nodup_distinct _, ?_⟩
  intro name
  rw [Model.mem_distinct, List.mem_append, List.mem_filter, Entries.has_iff]
  constructor
  · rintro (⟨_, isProperty⟩ | isProperty)
    · exact isProperty
    · exact isProperty
  · exact .inr

end Node

/-- A model of a node has a field for each property, once. -/
theorem Model.ofNode_eq_ok {naming : Setting Naming} {name label : String} {members : Members}
    {description : Option String} {model : Model}
    (formed : Model.ofNode naming name label members description = .ok model) :
    (∃ conventions, naming.namer.conventions = .ok conventions ∧
      conventions.className name = .ok model.name) ∧
    model.fieldNames.Nodup ∧
    (∀ name, name ∈ model.fieldNames ↔ name ∈ (Node.object members "properties").keys) ∧
    ∀ field ∈ model.fields,
      field.Describes naming.namer (Node.object members "properties") ∧
        field.nullable = !(Node.required members).contains field.name := by
  obtain ⟨conventions, isNamer, formed⟩ := Outcome.bind_eq_ok.mp formed
  obtain ⟨className, named, formed⟩ := Outcome.bind_eq_ok.mp formed
  obtain ⟨others, _, formed⟩ := Outcome.bind_eq_ok.mp formed
  obtain ⟨names, ordered, formed⟩ := Outcome.bind_eq_ok.mp formed
  obtain ⟨fields, ofNames, same⟩ := Outcome.bind_eq_ok.mp formed
  cases same
  have each := Node.fields_eq_ok ofNames
  obtain ⟨different, areKeys⟩ := Node.propertyNames_eq_ok ordered
  have inOrder := Node.map_name_of_fields ofNames
  refine ⟨⟨conventions, isNamer, named⟩, ?_, ?_, ?_⟩
  · rw [fieldNames, inOrder]
    exact different
  · intro name
    rw [fieldNames, inOrder]
    exact areKeys name
  · intro field isField
    obtain ⟨name, isName, ofName⟩ := Outcome.exists_left each isField
    obtain ⟨rfl, resolved, nullable, described⟩ := Node.field_eq_ok ofName
    obtain ⟨node, isNode⟩ := Option.isSome_iff_exists.mp (Entries.has_iff.mpr ((areKeys _).mp isName))
    rw [isNode, Option.getD_some] at resolved described
    exact ⟨⟨node, isNode, resolved, described⟩, nullable⟩

theorem Model.name_of_ofNode {naming : Setting Naming} {conventions : Naming} {raw label : String}
    {members : Members} {model : Model} {name : String} (isTyped : naming = .typed conventions)
    (formed : Model.ofNode naming raw label members = .ok model)
    (named : conventions.className raw = .ok name) : model.name = name := by
  obtain ⟨⟨others, isNamer, isName⟩, _⟩ := Model.ofNode_eq_ok formed
  rw [isTyped] at isNamer
  cases isNamer
  rw [named] at isName
  cases isName
  rfl

/-! ## The shares of the three models -/

/-- Leaving out other properties leaves the schema of a field as it is. -/
theorem Field.describes_of_filter {naming : Setting Naming} {properties : Members}
    {keep : String → Bool} {field : Field}
    (described : field.Describes naming (properties.filter fun entry => keep entry.1)) :
    field.Describes naming properties := by
  obtain ⟨node, isNode, resolved⟩ := described
  rw [Entries.get?_filter] at isNode
  split at isNode
  · exact ⟨node, isNode, resolved⟩
  · cases isNode

namespace Conditional

theorem mem_foldl_erase {taken required : List String} {name : String} (stays : name ∉ taken) :
    name ∈ taken.foldl List.erase required ↔ name ∈ required := by
  induction taken generalizing required with
  | nil => rfl
  | cons first rest ih =>
    rw [List.foldl_cons, ih fun isLater => stays (List.mem_cons_of_mem _ isLater)]
    have other : name ≠ first := fun same => stays (same ▸ List.mem_cons_self ..)
    exact List.mem_erase_of_ne other

theorem filterMap_text (names : List String) :
    (names.map Value.str).filterMap Value.text? = names := by
  rw [List.filterMap_map]
  exact List.filterMap_some

/-- What the model of a share has: a field for each of its properties. -/
theorem ofNode_of_share {naming : Setting Naming} {name label : String} {node : Members}
    {properties : Members} {keep : String → Bool} {model : Model}
    (isShare : Node.object node "properties" = properties.filter fun entry => keep entry.1)
    (formed : Model.ofNode naming name label node = .ok model) :
    model.fieldNames.Nodup ∧
    (∀ name, name ∈ model.fieldNames ↔ name ∈ properties.keys ∧ keep name = true) ∧
    ∀ field ∈ model.fields, field.Describes naming.namer properties ∧
      field.nullable = !(Node.required node).contains field.name := by
  obtain ⟨_, different, areKeys, each⟩ := Model.ofNode_eq_ok formed
  rw [isShare] at areKeys each
  refine ⟨different, ?_, ?_⟩
  · intro name
    rw [areKeys, Entries.keys_filter, List.mem_filter]
  · intro field isField
    obtain ⟨described, nullable⟩ := each field isField
    exact ⟨Field.describes_of_filter described, nullable⟩

/-- The model of a branch has the properties that the branch lists, and requires them all. -/
theorem ofNode_of_take {naming : Setting Naming} {name label : String} {pool : Pool}
    {branch : List String} {model : Model}
    (formed : Model.ofNode naming name label (pool.take branch).1 = .ok model) :
    model.fieldNames.Nodup ∧
    (∀ name, name ∈ model.fieldNames ↔ name ∈ pool.properties.keys ∧ name ∈ branch) ∧
    ∀ field ∈ model.fields, field.Describes naming.namer pool.properties ∧
      field.nullable = false := by
  have isShare : Node.object (pool.take branch).1 "properties" =
      pool.properties.filter fun entry => branch.contains entry.1 := rfl
  obtain ⟨different, areKeys, each⟩ := ofNode_of_share isShare formed
  simp only [List.contains_iff_mem] at areKeys
  refine ⟨different, areKeys, ?_⟩
  intro field isField
  obtain ⟨described, nullable⟩ := each field isField
  have required : Node.required (pool.take branch).1 =
      pool.properties.keys.filter fun name => branch.contains name := by
    rw [← Entries.keys_filter]
    exact filterMap_text _
  have isListed : field.name ∈ Node.required (pool.take branch).1 := by
    rw [required, List.mem_filter, List.contains_iff_mem]
    exact (areKeys _).mp (List.mem_map_of_mem isField)
  refine ⟨described, ?_⟩
  rw [nullable, List.contains_iff_mem.mpr isListed]
  rfl

/-- The base keeps the other members of the document, but not its properties. -/
theorem ofNode_of_rest {naming : Setting Naming} {name label : String} {document : Members}
    {pool : Pool} {model : Model}
    (formed : Model.ofNode naming name label ((document.put "properties" (.obj pool.properties)).put
      "required" (.arr (pool.required.map .str))) = .ok model) :
    model.fieldNames.Nodup ∧
    (∀ name, name ∈ model.fieldNames ↔ name ∈ pool.properties.keys) ∧
    ∀ field ∈ model.fields, field.Describes naming.namer pool.properties ∧
      field.nullable = !pool.required.contains field.name := by
  obtain ⟨_, different, areKeys, each⟩ := Model.ofNode_eq_ok formed
  have properties : Node.object ((document.put "properties" (.obj pool.properties)).put
      "required" (.arr (pool.required.map .str))) "properties" = pool.properties := by
    simp [Node.object]
  have required : Node.required ((document.put "properties" (.obj pool.properties)).put
      "required" (.arr (pool.required.map .str))) = pool.required := by
    simp only [Node.required, Entries.get?_put, if_true]
    exact filterMap_text _
  rw [properties] at areKeys each
  rw [required] at each
  exact ⟨different, areKeys, each⟩

/-- The discriminator is the first property of the condition. -/
theorem head?_of_discriminator {policy : Policy} {document : Members} {key : String}
    (found : discriminator policy document = .ok key) :
    (conditions document).keys.head? = some key := by
  unfold discriminator at found
  split at found
  next => cases found
  next isOnly =>
    cases found
    rw [isOnly]
    rfl
  next isFirst =>
    cases policy with
    | first =>
      cases found
      rw [isFirst]
      rfl
    | refuse => cases found

theorem const_of_firstValue {document : Members} {key : String} {value : Bool}
    (found : firstValue document key = .ok value) :
    (Entries.get? (conditions document) key).bind (·.member? "const") = some (.bool value) := by
  unfold firstValue at found
  cases const : (Entries.get? (conditions document) key).bind (·.member? "const") with
  | none =>
    rw [const] at found
    cases found
  | some held =>
    rw [const, Option.getD_some] at found
    cases held with
    | bool b =>
      cases found
      rfl
    | _ => cases found

theorem conventions_eq_ok {naming : Setting Naming} {conventions : Naming}
    (given : naming.conventions = .ok conventions) : naming = .typed conventions := by
  cases naming with
  | typed other =>
    cases given
    rfl
  | untyped _ => cases given

/-- What is left when a branch has taken its properties. -/
theorem keys_left (pool : Pool) (branch : List String) (name : String) :
    name ∈ (pool.take branch).2.properties.keys ↔ name ∈ pool.properties.keys ∧ name ∉ branch := by
  have left : (pool.take branch).2.properties =
      pool.properties.filter fun entry => !branch.contains entry.1 := rfl
  rw [left, Entries.keys_filter pool.properties fun name => !branch.contains name, List.mem_filter]
  simp

/-- Only properties that are taken leave the list of those required. -/
theorem required_left {pool : Pool} {branch : List String} {name : String} (stays : name ∉ branch) :
    name ∈ (pool.take branch).2.required ↔ name ∈ pool.required := by
  apply mem_foldl_erase
  rw [Entries.keys_filter pool.properties fun name => branch.contains name, List.mem_filter,
    List.contains_iff_mem]
  exact fun isTaken => stays isTaken.2

theorem describes_of_left {naming : Setting Naming} {pool : Pool} {branch : List String}
    {field : Field} (described : field.Describes naming (pool.take branch).2.properties) :
    field.Describes naming pool.properties :=
  @Field.describes_of_filter _ _ (fun name => !branch.contains name) _ described

/-- The names of a split are formed by the conventions that its models are named by. -/
theorem names_eq_ok {config : Config} {document : Members} {formed : Names}
    (named : names config document = .ok formed) :
    (∃ conventions title, config.naming = .typed conventions ∧ nameText formed.base = .ok title ∧
      conventions.className title = .ok formed.baseClass ∧
      conventions.className formed.first = .ok formed.firstClass ∧
      conventions.className formed.second = .ok formed.secondClass) ∧
    (conditions document).keys.head? = some formed.key ∧
    (Entries.get? (conditions document) formed.key).bind (·.member? "const") =
      some (.bool formed.value) := by
  obtain ⟨key, isKey, named⟩ := Outcome.bind_eq_ok.mp named
  obtain ⟨conventions, isConventions, named⟩ := Outcome.bind_eq_ok.mp named
  obtain ⟨length, _, named⟩ := Outcome.bind_eq_ok.mp named
  obtain ⟨title, isTitle, named⟩ := Outcome.bind_eq_ok.mp named
  obtain ⟨baseClass, ofBase, named⟩ := Outcome.bind_eq_ok.mp named
  obtain ⟨first, _, named⟩ := Outcome.bind_eq_ok.mp named
  obtain ⟨firstClass, ofFirst, named⟩ := Outcome.bind_eq_ok.mp named
  obtain ⟨otherwise, _, named⟩ := Outcome.bind_eq_ok.mp named
  obtain ⟨second, _, named⟩ := Outcome.bind_eq_ok.mp named
  obtain ⟨secondClass, ofSecond, named⟩ := Outcome.bind_eq_ok.mp named
  obtain ⟨value, isValue, same⟩ := Outcome.bind_eq_ok.mp named
  cases same
  refine ⟨⟨conventions, title, conventions_eq_ok isConventions, isTitle, ofBase, ofFirst, ofSecond⟩,
    head?_of_discriminator isKey, const_of_firstValue isValue⟩

section Shares

variable {naming : Setting Naming} {name label : String} {document : Members} {model : Model}

/-- The first variant has the properties that its branch lists. -/
theorem first_of_shares (formed : Model.ofNode naming name label (shares document).2.1 = .ok model) :
    model.fieldNames.Nodup ∧
    (∀ name, name ∈ model.fieldNames ↔ name ∈ (Node.object document "properties").keys ∧
      name ∈ Node.required (Node.object document "then")) ∧
    ∀ field ∈ model.fields,
      field.Describes naming.namer (Node.object document "properties") ∧ field.nullable = false :=
  ofNode_of_take formed

/-- The second variant has the properties that its branch lists and the first one does not. -/
theorem second_of_shares
    (formed : Model.ofNode naming name label (shares document).2.2 = .ok model) :
    model.fieldNames.Nodup ∧
    (∀ name, name ∈ model.fieldNames ↔ (name ∈ (Node.object document "properties").keys ∧
      name ∉ Node.required (Node.object document "then")) ∧
      name ∈ Node.required (Node.object document "else")) ∧
    ∀ field ∈ model.fields,
      field.Describes naming.namer (Node.object document "properties") ∧ field.nullable = false := by
  obtain ⟨different, areKeys, each⟩ := ofNode_of_take formed
  refine ⟨different, ?_, ?_⟩
  · intro name
    exact (areKeys name).trans (and_congr_left' (keys_left ..))
  · intro field isField
    obtain ⟨described, needed⟩ := each field isField
    exact ⟨describes_of_left described, needed⟩

/-- The base has the properties that no branch lists. -/
theorem base_of_shares (formed : Model.ofNode naming name label (shares document).1 = .ok model) :
    model.fieldNames.Nodup ∧
    (∀ name, name ∈ model.fieldNames ↔ (name ∈ (Node.object document "properties").keys ∧
      name ∉ Node.required (Node.object document "then")) ∧
      name ∉ Node.required (Node.object document "else")) ∧
    ∀ field ∈ model.fields,
      field.Describes naming.namer (Node.object document "properties") ∧
        (field.nullable = true ↔ field.name ∉ Node.required document) := by
  obtain ⟨different, areKeys, each⟩ := ofNode_of_rest formed
  have left : ∀ name, name ∈ model.fieldNames ↔ _ := fun name =>
    (areKeys name).trans ((keys_left ..).trans (and_congr_left' (keys_left ..)))
  refine ⟨different, left, ?_⟩
  intro field isField
  obtain ⟨described, nullable⟩ := each field isField
  refine ⟨describes_of_left (describes_of_left described), ?_⟩
  obtain ⟨⟨_, notFirst⟩, notSecond⟩ := (left field.name).mp (List.mem_map_of_mem isField)
  rw [nullable, Bool.not_eq_true', ← Bool.not_eq_true, List.contains_iff_mem]
  exact not_congr ((required_left notSecond).trans (required_left notFirst))

end Shares

theorem models_eq_ok {config : Config} {document : Members} {names : Names} {models : List Model}
    (formed : Conditional.models config document names = .ok models) :
    ∃ title base first second, nameText names.base = .ok title ∧
      Model.ofNode config.naming title names.base.display (shares document).1 = .ok base ∧
      Model.ofNode config.naming names.first names.first (shares document).2.1 = .ok first ∧
      Model.ofNode config.naming names.second names.second (shares document).2.2 = .ok second ∧
      models = [
        { base with
          isAbstract := true
          unionKey := some names.key
          unionCases := some
            [(caseName names.value, names.firstClass), (caseName !names.value, names.secondClass)] },
        { first with parent := some names.baseClass },
        { second with parent := some names.baseClass }] := by
  obtain ⟨title, isTitle, formed⟩ := Outcome.bind_eq_ok.mp formed
  obtain ⟨base, ofBase, formed⟩ := Outcome.bind_eq_ok.mp formed
  obtain ⟨first, ofFirst, formed⟩ := Outcome.bind_eq_ok.mp formed
  obtain ⟨second, ofSecond, same⟩ := Outcome.bind_eq_ok.mp formed
  cases same
  exact ⟨title, base, first, second, isTitle, ofBase, ofFirst, ofSecond, rfl⟩

/-- How a conditional document is shared out between three models. -/
structure Shares (config : Config) (document : Members) (base first second : Model) : Prop where
  -- No field is lost and none comes twice, be it in two models.
  once : (base.fieldNames ++ first.fieldNames ++ second.fieldNames).Nodup
  whole : ∀ name, name ∈ base.fieldNames ++ first.fieldNames ++ second.fieldNames ↔
    name ∈ (Node.object document "properties").keys
  first_iff : ∀ name ∈ (Node.object document "properties").keys,
    (name ∈ first.fieldNames ↔ name ∈ Node.required (Node.object document "then"))
  second_iff : ∀ name ∈ (Node.object document "properties").keys,
    (name ∈ second.fieldNames ↔ name ∈ Node.required (Node.object document "else") ∧
      name ∉ Node.required (Node.object document "then"))
  needed : ∀ field ∈ first.fields ++ second.fields, field.nullable = false
  optional : ∀ field ∈ base.fields,
    (field.nullable = true ↔ field.name ∉ Node.required document)
  described : ∀ field ∈ base.fields ++ first.fields ++ second.fields,
    field.Describes config.naming.namer (Node.object document "properties")
  -- The condition decides on the first variant.
  cases : ∃ key value, (conditions document).keys.head? = some key ∧ base.unionKey = some key ∧
    (Entries.get? (conditions document) key).bind (·.member? "const") = some (.bool value) ∧
    base.unionCases = some [(caseName value, first.name), (caseName !value, second.name)]
  parents : first.parent = some base.name ∧ second.parent = some base.name

section Parts

variable {base first second : List String} {isProperty isFirst isSecond : String → Prop}
  (inBase : ∀ name, name ∈ base ↔ (isProperty name ∧ ¬isFirst name) ∧ ¬isSecond name)
  (inFirst : ∀ name, name ∈ first ↔ isProperty name ∧ isFirst name)
  (inSecond : ∀ name, name ∈ second ↔ (isProperty name ∧ ¬isFirst name) ∧ isSecond name)
include inBase inFirst inSecond

theorem once_of_parts (baseOnce : base.Nodup) (firstOnce : first.Nodup) (secondOnce : second.Nodup) :
    (base ++ first ++ second).Nodup := by
  rw [List.nodup_append, List.nodup_append]
  refine ⟨⟨baseOnce, firstOnce, ?_⟩, secondOnce, ?_⟩
  · rintro name ofBase other ofFirst rfl
    exact ((inBase name).mp ofBase).1.2 ((inFirst name).mp ofFirst).2
  · rintro name isEarlier other ofSecond rfl
    rcases List.mem_append.mp isEarlier with ofBase | ofFirst
    · exact ((inBase name).mp ofBase).2 ((inSecond name).mp ofSecond).2
    · exact ((inSecond name).mp ofSecond).1.2 ((inFirst name).mp ofFirst).2

theorem whole_of_parts (name : String) : name ∈ base ++ first ++ second ↔ isProperty name := by
  rw [List.mem_append, List.mem_append, inBase, inFirst, inSecond]
  by_cases ofFirst : isFirst name
  · simp [ofFirst]
  · by_cases ofSecond : isSecond name
    · simp [ofFirst, ofSecond]
    · simp [ofFirst, ofSecond]

end Parts

theorem shares_of_models {config : Config} {document : Members} {formedNames : Names}
    {models : List Model} (named : names config document = .ok formedNames)
    (formed : Conditional.models config document formedNames = .ok models) :
    ∃ base first second, models = [base, first, second] ∧
      Shares config document base first second := by
  obtain ⟨title, base, first, second, isTitle, ofBase, ofFirst, ofSecond, rfl⟩ := models_eq_ok formed
  refine ⟨_, _, _, rfl, ?_⟩
  obtain ⟨⟨conventions, otherTitle, isTyped, isOther, baseNamed, firstNamed, secondNamed⟩, isHead,
    isConst⟩ := names_eq_ok named
  rw [isTitle] at isOther
  cases isOther
  have baseName := Model.name_of_ofNode isTyped ofBase baseNamed
  have firstName := Model.name_of_ofNode isTyped ofFirst firstNamed
  have secondName := Model.name_of_ofNode isTyped ofSecond secondNamed
  obtain ⟨baseOnce, inBase, eachBase⟩ := base_of_shares ofBase
  obtain ⟨firstOnce, inFirst, eachFirst⟩ := first_of_shares ofFirst
  obtain ⟨secondOnce, inSecond, eachSecond⟩ := second_of_shares ofSecond
  constructor
  case once => exact once_of_parts inBase inFirst inSecond baseOnce firstOnce secondOnce
  case whole => exact whole_of_parts inBase inFirst inSecond
  case first_iff =>
    intro name isProperty
    exact (inFirst name).trans (and_iff_right isProperty)
  case second_iff =>
    intro name isProperty
    refine (inSecond name).trans ?_
    rw [and_iff_right isProperty]
    exact and_comm
  case needed =>
    intro field isField
    rcases List.mem_append.mp isField with isFirst | isSecond
    · exact (eachFirst field isFirst).2
    · exact (eachSecond field isSecond).2
  case optional =>
    intro field isField
    exact (eachBase field isField).2
  case described =>
    intro field isField
    rw [List.mem_append, List.mem_append] at isField
    rcases isField with (isBase | isFirst) | isSecond
    · exact (eachBase field isBase).1
    · exact (eachFirst field isFirst).1
    · exact (eachSecond field isSecond).1
  case cases =>
    refine ⟨formedNames.key, formedNames.value, isHead, rfl, isConst, ?_⟩
    rw [firstName, secondName]
  case parents =>
    rw [baseName]
    exact ⟨rfl, rfl⟩

/-- A conditional document that has models is shared out between three. -/
theorem ofDocument_shares {config : Config} {document : Members} {schema : Schema}
    (conditional : isConditional document = true)
    (parsed : Schema.ofDocument config (.obj document) = .ok schema)
    (inhabited : schema.models ≠ []) :
    ∃ base first second, schema.models = [base, first, second] ∧
      Shares config document base first second := by
  obtain ⟨models, formed, same⟩ := Outcome.bind_eq_ok.mp parsed
  cases same
  rw [Document.models, if_pos conditional] at formed
  obtain ⟨formedNames, named, formed⟩ := Outcome.bind_eq_ok.mp formed
  split at formed
  next =>
    cases formed
    exact absurd rfl inhabited
  next => exact shares_of_models named formed

/-- A document whose branches both require the level, one of them twice. -/
def ticketDocument : Members :=
  let text : Value := .obj [("type", .str "string")]
  let required (names : List String) : Value := .arr (names.map .str)
  [("title", .str "Ticket"),
    ("properties", .obj [("id", text), ("level", text), ("isUrgent", .obj []), ("note", text)]),
    ("required", required ["id", "level"]),
    ("propertyOrder", required ["note", "id"]),
    ("if", .obj [("properties", .obj [("isUrgent", .obj [("const", .bool true)])])]),
    ("then", .obj [("required", required ["level", "level", "isUrgent"])]),
    ("else", .obj [("required", required ["level", "note", "owner"])])]

/-- The level of a ticket goes to the first variant, and only the note to the second. -/
theorem ofDocument_shares_ticket : ∃ schema base first second,
    Schema.ofDocument {} (.obj ticketDocument) = .ok schema ∧
      schema.models = [base, first, second] ∧ Shares {} ticketDocument base first second := by
  have isOk : Outcome.any (Schema.ofDocument {} (.obj ticketDocument))
      (fun schema => schema.models ≠ []) = true := by
    decide +kernel
  obtain ⟨schema, parsed, inhabited⟩ := Outcome.any_iff.mp isOk
  obtain ⟨base, first, second, three, shared⟩ :=
    ofDocument_shares (by decide) parsed (of_decide_eq_true inhabited)
  exact ⟨schema, base, first, second, parsed, three, shared⟩

end Conditional

end SchemaCodegen
