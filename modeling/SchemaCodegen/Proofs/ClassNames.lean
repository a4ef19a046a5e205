import SchemaCodegen.Proofs.NestedArrays
import SchemaCodegen.Proofs.Parsed
import SchemaCodegen.Proofs.SingleSchemas
import SchemaCodegen.Proofs.SplitReturns
import SchemaCodegen.Proofs.VariantNames

/-!
# Which class names are names of classes

By the conventions that hold if none are set, all names in a schema are formed from texts in its
document: the names of models from titles and keys, and what fields refer to from the last parts of
the references among the properties. A class name has letters and digits only. It begins with a large
letter if the first letter or digit of its text is a letter. Otherwise it is empty or begins with a
digit, as nothing is put in front of it.
-/

namespace SchemaCodegen

open Json (Value Members)

/-! ## The shape of a class name -/

/-- What a class can be called in both target languages: a large letter with letters and digits
behind it. -/
structure IsClassName (name : String) : Prop where
  begins : name.toList.head?.any Char.isUpper = true
  goesOn : ∀ c ∈ name.toList, c.isAlphanum = true

namespace Words

/-- Whether the first of the letters and digits in a text is a letter. -/
def beginsWithLetter (text : String) : Bool := (text.toList.find? isPart).any Char.isAlpha

theorem head?_capitals (text : List Char) :
    (capitals false text).head? = (text.find? isPart).map Char.toUpper := by
  induction text with
  | nil => rfl
  | cons c rest ih =>
    cases part : isPart c with
    | true =>
      rw [capitals_cons_of_isPart part, List.find?_cons_of_pos part]
      rfl
    | false => rw [capitals_cons_of_not_isPart part, ih, List.find?_cons_of_neg (by simp [part])]

/-- Letters, and no others, are large letters when they are written large. -/
theorem isUpper_toUpper (c : Char) : c.toUpper.isUpper = c.isAlpha := by
  rw [← Char.isAlpha_toUpper_eq_isAlpha, Char.isAlpha, isLower_toUpper, Bool.or_false]

theorem isUpper_head_pascalCase (text : String) :
    (pascalCase text).toList.head?.any Char.isUpper = beginsWithLetter text := by
  rw [toList_pascalCase, pascal_eq_capitals, head?_capitals, Option.any_map, beginsWithLetter]
  congr 1
  funext c
  exact isUpper_toUpper c

end Words

namespace Naming

/-- With the new ending a name begins with a large letter if and only if it did before. -/
theorem isUpper_head_withNewEnding {name new : String} (given : withNewEnding {} name = .ok new) :
    new.toList.head?.any Char.isUpper = name.toList.head?.any Char.isUpper := by
  cases isEnd : Ending.isEndOf "Params" name with
  | false =>
    rw [withNewEnding_of_not_isEndOf rfl isEnd] at given
    cases given
    rfl
  | true =>
    obtain ⟨front, rfl⟩ := Ending.exists_of_isEndOf isEnd
    rw [withNewEnding_of_params] at given
    cases given
    rw [String.toList_append, String.toList_append, List.head?_append, List.head?_append]
    cases front.toList.head? <;> rfl

section

variable {raw name : String} (named : className {} raw = .ok name)
include named

theorem isClassName_iff_head : IsClassName name ↔ name.toList.head?.any Char.isUpper = true :=
  ⟨IsClassName.begins, fun begins => ⟨begins, fun _ => isPart_of_mem_className named⟩⟩

/-- A class can be called by a class name exactly if the text of that begins with a letter, but for
what separates words. -/
theorem isClassName_iff : IsClassName name ↔ Words.beginsWithLetter raw = true := by
  rw [isClassName_iff_head named, isUpper_head_withNewEnding named, Words.isUpper_head_pascalCase]

/-- Otherwise there is nothing in it or a digit in front. -/
theorem not_isClassName_iff :
    ¬IsClassName name ↔ name = "" ∨ name.toList.head?.any Char.isDigit = true := by
  rw [isClassName_iff_head named, ← String.toList_eq_nil_iff]
  cases first : name.toList with
  | nil => simp
  | cons c rest =>
    have part := isPart_of_mem_className named (first ▸ List.mem_cons_self ..)
    have noSmall := isLower_head_className named (by rw [first]; rfl)
    rw [Words.isPart, noSmall, Bool.or_false] at part
    cases digit : c.isDigit with
    | true =>
      have noLetter := Words.not_isAlpha_of_isDigit digit
      rw [Char.isAlpha, Bool.or_eq_false_iff] at noLetter
      simp [digit, noLetter.1]
    | false =>
      rw [digit, Bool.or_false] at part
      simp [digit, part]

end

end Naming

/-! ## What the fields of a model refer to -/

namespace Node

/-- What follows the last slash of the reference in a property, which may stand in items at some
depth. -/
def referenceText? (node : Value) : Option String :=
  ((last node).member? "$ref").map fun reference => lastPart reference.display

/-- Whether some property of a table holds a reference that ends with a text. -/
def RefersBy (properties : Members) (text : String) : Prop :=
  ∃ key node, Entries.get? properties key = some node ∧ referenceText? node = some text

end Node

namespace FieldType

@[simp] theorem innermost_arrays (levels : Nat) (type : FieldType) :
    (arrays levels type).innermost = type.innermost := by
  induction levels with
  | zero => rfl
  | succ levels ih => exact ih

/-- What is no array refers to the class of its own reference. -/
theorem innermost_of_not_isArray {path name : String} {node : Value} {type : FieldType}
    (noArray : Node.isArray node = false) (resolved : ofNode (.typed {}) path node = .ok type) :
    type.innermost = some name ↔ ∃ reference, node.member? "$ref" = some reference ∧
      Naming.className {} (lastPart reference.display) = .ok name := by
  cases node with
  | obj members =>
    rw [Node.isArray_obj] at noArray
    rw [ofNode, if_neg (by rw [noArray]; exact Bool.false_ne_true)] at resolved
    rw [Value.member?_obj]
    cases given : Entries.get? members "$ref" with
    | some reference =>
      rw [given] at resolved
      obtain ⟨conventions, isDefault, resolved⟩ := Outcome.bind_eq_ok.mp resolved
      cases isDefault
      obtain ⟨target, named, same⟩ := Outcome.bind_eq_ok.mp resolved
      cases same
      simp [FieldType.reference, innermost, named]
    | none =>
      rw [given] at resolved
      cases resolved
      simp [innermost_ofKeywords]
  | _ =>
    rw [ofNode.eq_def] at resolved
    cases resolved
    simp [of, innermost, Value.member?]

/-- The type of a property refers to the class of the reference in it. -/
theorem innermost_of_ofNode {path name : String} {node : Value} {type : FieldType}
    (resolved : ofNode (.typed {}) path node = .ok type) :
    type.innermost = some name ↔
      ∃ text, Node.referenceText? node = some text ∧ Naming.className {} text = .ok name := by
  rw [ofNode_eq] at resolved
  obtain ⟨item, ofLast, rfl⟩ := Outcome.map_eq_ok.mp resolved
  cases isArray : Node.isArray (Node.last node) with
  | true =>
    rw [ofNode_of_no_items isArray (Node.items?_last node)] at ofLast
    cases ofLast
  | false =>
    rw [innermost_arrays, innermost_of_not_isArray isArray ofLast, Node.referenceText?]
    simp [Option.map_eq_some_iff]

end FieldType

namespace Model

/-- Whether some field of a model refers to a name. -/
def RefersTo (model : Model) (name : String) : Prop :=
  ∃ field ∈ model.fields, field.type.innermost = some name

/-- Whether a model has its name from a text and its references from a table of properties. -/
structure IsFrom (model : Model) (source : String × Members) : Prop where
  named : Naming.className {} source.1 = .ok model.name
  refers : ∀ name, model.RefersTo name ↔
    ∃ text, Node.RefersBy source.2 text ∧ Naming.className {} text = .ok name

theorem isFrom_of_ofNode {raw label : String} {members : Members} {description : Option String}
    {model : Model} (formed : Model.ofNode (.typed {}) raw label members description = .ok model) :
    model.IsFrom (raw, Node.object members "properties") := by
  obtain ⟨⟨conventions, isDefault, named⟩, _, areKeys, each⟩ := ofNode_eq_ok formed
  cases isDefault
  refine ⟨named, fun name => ?_⟩
  constructor
  · rintro ⟨field, isField, refers⟩
    obtain ⟨⟨node, isNode, resolved, _⟩, _⟩ := each field isField
    obtain ⟨text, isText, named⟩ := (FieldType.innermost_of_ofNode (resolved "")).mp refers
    exact ⟨text, ⟨field.name, node, isNode, isText⟩, named⟩
  · rintro ⟨text, ⟨key, node, isNode, isText⟩, named⟩
    -- the property has a field, and the node of that field is this one
    have isKey : key ∈ (Node.object members "properties").keys :=
      Entries.has_iff.mp (Option.isSome_iff_exists.mpr ⟨node, isNode⟩)
    obtain ⟨field, isField, rfl⟩ := List.mem_map.mp ((areKeys key).mpr isKey)
    obtain ⟨⟨other, isOther, resolved, _⟩, _⟩ := each field isField
    cases isNode.symm.trans isOther
    exact ⟨field, isField, (FieldType.innermost_of_ofNode (resolved "")).mpr ⟨text, isText, named⟩⟩

/-- The marks of a base and a parent change neither the name nor the fields. -/
theorem IsFrom.congr {model other : Model} {source : String × Members} (isFrom : model.IsFrom source)
    (sameName : other.name = model.name) (sameFields : other.fields = model.fields) :
    other.IsFrom source := by
  constructor
  · rw [sameName]
    exact isFrom.named
  · intro name
    rw [RefersTo, sameFields]
    exact isFrom.refers name

/-- Whether a model has a parent or a union case of some name. -/
def LinksTo (model : Model) (name : String) : Prop :=
  model.parent = some name ∨ ∃ cases case,
    model.unionCases = some cases ∧ case ∈ cases ∧ case.2 = name

end Model

/-! ## Titles and tables of a document -/

/-- What a document is called: its title, if it has one, or as by default. -/
def Document.called (default : String) (document : Members) : String :=
  match Entries.get? document "title" with
  | some (.str title) => if title = "" then default else title
  | _ => default

/-- The texts that the models of a conditional schema are named by. -/
def Conditional.titles (document : Members) : List String :=
  let title := Document.called "BaseClass" document
  [title, front ((conditions document).keys.head?.getD "") ++ title, "Default" ++ title]

namespace Document

/-- Whether a document that is no conditional schema is read as a single schema. -/
def isSingle (document : Members) : Bool :=
  (places document).isEmpty && Entries.has document "properties"

/-- The texts that the models of a document are named by. -/
def titles (config : Config) (document : Members) : List String :=
  if Conditional.isConditional document then
    if (Conditional.gap? config document).isSome then [] else Conditional.titles document
  else if isSingle document then [called "Root" document]
  else (places document).map fun place => place.1.raw

/-- The tables of properties that the models of a document have their fields from. -/
def tables (config : Config) (document : Members) : List Members :=
  if Conditional.isConditional document then
    if (Conditional.gap? config document).isSome then [] else [Node.object document "properties"]
  else if isSingle document then [Node.object document "properties"]
  else (places document).map fun place => Node.object place.2 "properties"

/-- Whether a name in the schema of a document is formed from a text: that of a model, or one that a
property refers to. -/
def Forms (config : Config) : Value → String → Prop
  | .obj document, text =>
    text ∈ titles config document ∨ ∃ table ∈ tables config document, Node.RefersBy table text
  | _, _ => False

/-- Models with their names from texts and their references from tables. -/
structure AreFrom (models : List Model) (titles : List String) (tables : List Members) : Prop where
  named : ∀ name, (∃ model ∈ models, model.name = name) ↔
    ∃ text ∈ titles, Naming.className {} text = .ok name
  refers : ∀ name, (∃ model ∈ models, model.RefersTo name) ↔
    ∃ table ∈ tables, ∃ text, Node.RefersBy table text ∧ Naming.className {} text = .ok name
  linked : ∀ model ∈ models, ∀ name, model.LinksTo name → ∃ other ∈ models, other.name = name

theorem areFrom_of_each {sources : List (String × Members)} {models : List Model}
    (each : List.Forall₂ (fun source model => Model.IsFrom model source) sources models)
    (linked : ∀ model ∈ models, ∀ name, model.LinksTo name → ∃ other ∈ models, other.name = name) :
    AreFrom models (sources.map Prod.fst) (sources.map Prod.snd) := by
  constructor
  case named =>
    intro name
    have same : (∃ source ∈ sources, Naming.className {} source.1 = .ok name) ↔
        ∃ model ∈ models, model.name = name :=
      exists_mem_iff each fun _ _ isFrom => by rw [isFrom.named, Except.ok.injEq]
    rw [← same]
    simp only [List.mem_map, exists_exists_and_eq_and]
  case refers =>
    intro name
    have same : (∃ source ∈ sources, ∃ text, Node.RefersBy source.2 text ∧
        Naming.className {} text = .ok name) ↔ ∃ model ∈ models, model.RefersTo name :=
      exists_mem_iff each fun _ _ isFrom => (isFrom.refers name).symm
    rw [← same]
    simp only [List.mem_map, exists_exists_and_eq_and]
  case linked => exact linked

/-- One table can stand for all that refer together to what it does. -/
theorem AreFrom.joined {models : List Model} {titles : List String} {tables : List Members}
    {table : Members} (areFrom : AreFrom models titles tables)
    (whole : ∀ text, Node.RefersBy table text ↔ ∃ part ∈ tables, Node.RefersBy part text) :
    AreFrom models titles [table] := by
  refine ⟨areFrom.named, fun name => ?_, areFrom.linked⟩
  rw [areFrom.refers]
  simp only [List.mem_singleton, exists_eq_left, whole]
  constructor
  · rintro ⟨part, isPart, text, refers, named⟩
    exact ⟨text, ⟨part, isPart, refers⟩, named⟩
  · rintro ⟨text, ⟨part, isPart, refers⟩, named⟩
    exact ⟨part, isPart, text, refers, named⟩

end Document

namespace Model

/-- A model is read without a parent; variants of a conditional schema are given theirs later. -/
theorem parent_of_ofNode {naming : Setting Naming} {raw label : String} {members : Members}
    {description : Option String} {model : Model}
    (formed : Model.ofNode naming raw label members description = .ok model) :
    model.parent = none := by
  obtain ⟨_, _, formed⟩ := Outcome.bind_eq_ok.mp formed
  obtain ⟨_, _, formed⟩ := Outcome.bind_eq_ok.mp formed
  obtain ⟨_, _, formed⟩ := Outcome.bind_eq_ok.mp formed
  obtain ⟨_, _, formed⟩ := Outcome.bind_eq_ok.mp formed
  obtain ⟨_, _, same⟩ := Outcome.bind_eq_ok.mp formed
  cases same
  rfl

theorem not_linksTo_of_ofNode {naming : Setting Naming} {raw label : String} {members : Members}
    {description : Option String} {model : Model}
    (formed : Model.ofNode naming raw label members description = .ok model) (name : String) :
    ¬model.LinksTo name := by
  rintro (isParent | ⟨_, _, isCases, _⟩)
  · cases (parent_of_ofNode formed).symm.trans isParent
  · cases (ofNode_isParsed formed).2.1.noCases.symm.trans isCases

end Model

/-- The text that the name of a document is formed from is what the document is called. -/
theorem Document.called_of_nameText {default text : String} {document : Members}
    (isText : Conditional.nameText (Conditional.titleOr document (.typed default)) = .ok text) :
    called default document = text := by
  unfold Conditional.titleOr at isText
  unfold called
  cases titled : Entries.get? document "title" with
  | none =>
    rw [titled] at isText
    cases isText
    rfl
  | some value =>
    rw [titled] at isText
    dsimp only at isText
    cases isSet : value.isSet with
    | true =>
      rw [if_pos isSet] at isText
      cases value with
      | str title =>
        have some_ : title ≠ "" := by simpa [Value.isSet] using isSet
        cases isText
        exact if_neg some_
      | _ =>
        simp only [Conditional.nameText, isSet, if_true] at isText
        cases isText
    | false =>
      rw [isSet] at isText
      cases isText
      cases value with
      | str title =>
        have empty : title = "" := by simpa [Value.isSet] using isSet
        exact if_pos empty
      | _ => rfl

/-! ## Conditional schemas -/

/-- What refers by a text in a table does so in one of the two parts of it. -/
theorem Node.refersBy_parted (properties : Members) (keep : String → Bool) (text : String) :
    RefersBy properties text ↔ RefersBy (properties.filter fun entry => keep entry.1) text ∨
      RefersBy (properties.filter fun entry => !keep entry.1) text := by
  have part : ∀ keep : String → Bool, RefersBy (properties.filter fun entry => keep entry.1) text ↔
      ∃ key node, keep key = true ∧ Entries.get? properties key = some node ∧
        referenceText? node = some text := by
    intro keep
    refine exists_congr fun key => exists_congr fun node => ?_
    rw [Entries.get?_filter]
    cases keep key <;> simp
  rw [part keep, part fun key => !keep key]
  constructor
  · rintro ⟨key, node, isNode, isText⟩
    cases kept : keep key with
    | true => exact .inl ⟨key, node, kept, isNode, isText⟩
    | false => exact .inr ⟨key, node, by simp [kept], isNode, isText⟩
  · rintro (⟨key, node, _, given⟩ | ⟨key, node, _, given⟩)
    · exact ⟨key, node, given⟩
    · exact ⟨key, node, given⟩

namespace Conditional

/-- The tables of the base and of the two variants. -/
def shareTables (document : Members) : List Members :=
  [Node.object (shares document).1 "properties", Node.object (shares document).2.1 "properties",
    Node.object (shares document).2.2 "properties"]

/-- The shares refer together to what the properties refer to. -/
theorem refersBy_shares (document : Members) (text : String) :
    Node.RefersBy (Node.object document "properties") text ↔
      ∃ part ∈ shareTables document, Node.RefersBy part text := by
  have rest : Node.object (shares document).1 "properties" =
      ((Node.object document "properties").filter fun entry =>
        !(Node.required (Node.object document "then")).contains entry.1).filter fun entry =>
          !(Node.required (Node.object document "else")).contains entry.1 := by
    simp [shares, Pool.take, Node.object]
  have first : Node.object (shares document).2.1 "properties" =
      (Node.object document "properties").filter fun entry =>
        (Node.required (Node.object document "then")).contains entry.1 := rfl
  have second : Node.object (shares document).2.2 "properties" =
      ((Node.object document "properties").filter fun entry =>
        !(Node.required (Node.object document "then")).contains entry.1).filter fun entry =>
          (Node.required (Node.object document "else")).contains entry.1 := rfl
  simp only [shareTables, List.exists_mem_cons_iff, List.not_mem_nil, false_and, exists_false,
    or_false]
  rw [rest, first, second,
    Node.refersBy_parted (Node.object document "properties") fun name =>
      (Node.required (Node.object document "then")).contains name,
    Node.refersBy_parted (List.filter (fun entry => !_) _) fun name =>
      (Node.required (Node.object document "else")).contains name]
  tauto

/-- The base leads to the variants, and these lead to it. -/
theorem linked_of_shares {config : Config} {document : Members} {base first second : Model}
    (shared : Shares config document base first second) (baseAlone : base.parent = none)
    (firstPlain : first.unionCases = none) (secondPlain : second.unionCases = none) :
    ∀ model ∈ [base, first, second], ∀ name, model.LinksTo name →
      ∃ other ∈ [base, first, second], other.name = name := by
  obtain ⟨_, _, _, _, _, areCases⟩ := shared.cases
  obtain ⟨firstParent, secondParent⟩ := shared.parents
  simp only [List.forall_mem_cons]
  refine ⟨?_, ?_, ?_, nofun⟩
  · rintro name (isParent | ⟨cases_, case, isCases, isCase, rfl⟩)
    · cases baseAlone.symm.trans isParent
    · cases areCases.symm.trans isCases
      rcases List.mem_pair.mp isCase with rfl | rfl
      · exact ⟨first, by simp, rfl⟩
      · exact ⟨second, by simp, rfl⟩
  · rintro name (isParent | ⟨_, _, isCases, _⟩)
    · cases firstParent.symm.trans isParent
      exact ⟨base, List.mem_cons_self .., rfl⟩
    · cases firstPlain.symm.trans isCases
  · rintro name (isParent | ⟨_, _, isCases, _⟩)
    · cases secondParent.symm.trans isParent
      exact ⟨base, List.mem_cons_self .., rfl⟩
    · cases secondPlain.symm.trans isCases

/-- The three models are named by their titles and refer to what the properties do. -/
theorem areFrom_of_models {config : Config} {document : Members} {formed : Names}
    {models : List Model} (byDefault : config.naming = .typed {})
    (named : names config document = .ok formed)
    (made : Conditional.models config document formed = .ok models) :
    Document.AreFrom models (titles document) [Node.object document "properties"] := by
  obtain ⟨title, isTitle, isBase, isFirst, isSecond⟩ := names_of_title byDefault named
  obtain ⟨_, isHead, _⟩ := names_eq_ok named
  have called : Document.called "BaseClass" document = title := by
    apply Document.called_of_nameText
    rw [isTitle]
    rfl
  have areTitles : titles document = [title, formed.first, formed.second] := by
    rw [titles, called, isHead, Option.getD_some, isFirst, isSecond]
  obtain ⟨baseModel, firstModel, secondModel, rfl, shared⟩ := shares_of_models named made
  obtain ⟨text, base, first, second, isText, ofBase, ofFirst, ofSecond, same⟩ := models_eq_ok made
  rw [List.cons.injEq, List.cons.injEq, List.cons.injEq] at same
  obtain ⟨isBaseModel, isFirstModel, isSecondModel, _⟩ := same
  rw [isBase] at isText
  cases isText
  have baseAlone := Model.parent_of_ofNode ofBase
  have firstPlain : firstModel.unionCases = none := by
    rw [isFirstModel]
    exact (Model.ofNode_isParsed ofFirst).2.1.noCases
  have secondPlain : secondModel.unionCases = none := by
    rw [isSecondModel]
    exact (Model.ofNode_isParsed ofSecond).2.1.noCases
  have linked := linked_of_shares shared (by rw [isBaseModel]; exact baseAlone) firstPlain secondPlain
  rw [byDefault] at ofBase ofFirst ofSecond
  have fromBase : baseModel.IsFrom _ :=
    (Model.isFrom_of_ofNode ofBase).congr (by rw [isBaseModel]) (by rw [isBaseModel])
  have fromFirst : firstModel.IsFrom _ :=
    (Model.isFrom_of_ofNode ofFirst).congr (by rw [isFirstModel]) (by rw [isFirstModel])
  have fromSecond : secondModel.IsFrom _ :=
    (Model.isFrom_of_ofNode ofSecond).congr (by rw [isSecondModel]) (by rw [isSecondModel])
  have each : List.Forall₂ (fun source model => Model.IsFrom model source)
      [(title, _), (formed.first, _), (formed.second, _)] [baseModel, firstModel, secondModel] :=
    .cons fromBase (.cons fromFirst (.cons fromSecond .nil))
  rw [areTitles]
  exact (Document.areFrom_of_each each linked).joined (refersBy_shares document)

end Conditional

/-! ## Other documents -/

namespace Document

section

variable {config : Config} {document : Members} {schema : Schema}
  (unconditional : Conditional.isConditional document = false)
  (parsed : Schema.ofDocument config (.obj document) = .ok schema)
include unconditional parsed

/-- A document that is no single schema has one model for each place, even if there is none. -/
theorem models_of_not_isSingle (several : isSingle document = false) :
    List.Forall₂ (Place.Gives config.naming) (places document) schema.models := by
  by_cases held : places document = []
  · obtain ⟨given, formed, same⟩ := Outcome.bind_eq_ok.mp parsed
    cases same
    have noProperties : Entries.has document "properties" = false := by
      simpa [isSingle, held] using several
    rw [models, if_neg (by rw [unconditional]; exact Bool.false_ne_true), form_of_no_places held,
      Outcome.ok_bind, isRoot, noProperties, Bool.and_false] at formed
    cases formed
    rw [held]
    exact .nil
  · exact models_of_places unconditional held parsed

theorem areFrom_of_places (byDefault : config.naming = .typed {})
    (several : isSingle document = false) :
    AreFrom schema.models ((places document).map fun place => place.1.raw)
      ((places document).map fun place => Node.object place.2 "properties") := by
  have each := models_of_not_isSingle unconditional parsed several
  rw [byDefault] at each
  have sources : List.Forall₂ (fun source model => Model.IsFrom model source)
      ((places document).map fun place => (place.1.raw, Node.object place.2 "properties"))
      schema.models := by
    rw [List.forall₂_map_left_iff]
    refine each.imp fun place model gives => ?_
    obtain ⟨description, formed⟩ := gives
    exact Model.isFrom_of_ofNode formed
  have areFrom := areFrom_of_each sources fun model isModel name links => by
    obtain ⟨place, _, description, formed⟩ := Outcome.exists_left each isModel
    exact absurd links (Model.not_linksTo_of_ofNode formed name)
  rw [List.map_map, List.map_map] at areFrom
  exact areFrom

theorem areFrom_of_isSingle (byDefault : config.naming = .typed {})
    (single : isSingle document = true) :
    AreFrom schema.models [called "Root" document] [Node.object document "properties"] := by
  obtain ⟨none_, properties⟩ := Bool.and_eq_true_iff.mp single
  rw [ofDocument_of_no_places unconditional (List.isEmpty_iff.mp none_) properties] at parsed
  obtain ⟨model, isRoot, rfl⟩ := Outcome.map_eq_ok.mp parsed
  obtain ⟨conventions, isTyped, formed⟩ := Outcome.bind_eq_ok.mp isRoot
  rw [byDefault] at isTyped formed
  cases isTyped
  obtain ⟨text, isText, formed⟩ := Outcome.bind_eq_ok.mp formed
  rw [called_of_nameText isText]
  apply areFrom_of_each (.cons (Model.isFrom_of_ofNode formed) .nil)
  rw [List.forall_mem_singleton]
  exact fun name links => absurd links (Model.not_linksTo_of_ofNode formed name)

end

/-- The models of a document are named by its titles and refer to what its tables do. -/
theorem areFrom_of_document {config : Config} {document : Members} {schema : Schema}
    (byDefault : config.naming = .typed {})
    (parsed : Schema.ofDocument config (.obj document) = .ok schema) :
    AreFrom schema.models (titles config document) (tables config document) := by
  unfold titles tables
  cases conditional : Conditional.isConditional document with
  | true =>
    obtain ⟨models, formed, same⟩ := Outcome.bind_eq_ok.mp parsed
    cases same
    rw [Document.models, if_pos conditional] at formed
    obtain ⟨names, named, formed⟩ := Outcome.bind_eq_ok.mp formed
    cases gap : Conditional.gap? config document with
    | some _ =>
      rw [gap] at formed
      cases formed
      exact areFrom_of_each .nil fun _ isModel => absurd isModel List.not_mem_nil
    | none =>
      rw [gap] at formed
      exact Conditional.areFrom_of_models byDefault named formed
  | false =>
    cases single : isSingle document with
    | true => exact areFrom_of_isSingle conditional parsed byDefault single
    | false => exact areFrom_of_places conditional parsed byDefault single

end Document

/-! ## The names of a schema -/

namespace Schema

/-- Whether a name stands in a schema: as that of a model, a parent or a union case, or as the target
of a reference. -/
def Mentions (schema : Schema) (name : String) : Prop :=
  ∃ model ∈ schema.models, model.Mentions name

theorem mentions_iff {schema : Schema} {titles : List String} {tables : List Members}
    (areFrom : Document.AreFrom schema.models titles tables)
    (flat : ∀ model ∈ schema.models, model.variants = none) (name : String) :
    schema.Mentions name ↔ ∃ text, (text ∈ titles ∨ ∃ table ∈ tables, Node.RefersBy table text) ∧
      Naming.className {} text = .ok name := by
  have parts : schema.Mentions name ↔ (∃ model ∈ schema.models, model.name = name) ∨
      ∃ model ∈ schema.models, model.RefersTo name := by
    constructor
    · rintro ⟨model, isModel, mentions⟩
      cases mentions with
      | name => exact .inl ⟨model, isModel, rfl⟩
      | parent isParent => exact .inl (areFrom.linked model isModel _ (.inl isParent))
      | unionCase isCases isCase =>
        exact .inl (areFrom.linked model isModel _ (.inr ⟨_, _, isCases, isCase, rfl⟩))
      | reference isField refers =>
        rw [Model.allFields, Model.arms, flat model isModel] at isField
        exact .inr ⟨model, isModel, _, by simpa using isField, refers⟩
    · rintro (⟨model, isModel, rfl⟩ | ⟨model, isModel, field, isField, refers⟩)
      · exact ⟨model, isModel, .name⟩
      · exact ⟨model, isModel, .reference (List.mem_append_left _ isField) refers⟩
  rw [parts, areFrom.named, areFrom.refers]
  constructor
  · rintro (⟨text, isTitle, named⟩ | ⟨table, isTable, text, refers, named⟩)
    · exact ⟨text, .inl isTitle, named⟩
    · exact ⟨text, .inr ⟨table, isTable, refers⟩, named⟩
  · rintro ⟨text, isTitle | ⟨table, isTable, refers⟩, named⟩
    · exact .inl ⟨text, isTitle, named⟩
    · exact .inr ⟨table, isTable, text, refers, named⟩

/-- By default the names in the schema of a document are the class names of its titles and of the
last parts of its references. They have letters and digits only, and one by which no class can be
called is empty or begins with a digit. Classes can be called by all of them if and only if all those
texts begin with letters. -/
theorem ofDocument_classNames_iff {config : Config} {document : Value} {schema : Schema}
    (byDefault : config.naming = .typed {}) (parsed : Schema.ofDocument config document = .ok schema) :
    (∀ name, schema.Mentions name ↔
      ∃ text, Document.Forms config document text ∧ Naming.className {} text = .ok name) ∧
    (∀ name, schema.Mentions name → (∀ c ∈ name.toList, c.isAlphanum = true) ∧
      (¬IsClassName name ↔ name = "" ∨ name.toList.head?.any Char.isDigit = true)) ∧
    ((∀ name, schema.Mentions name → IsClassName name) ↔
      ∀ text, Document.Forms config document text → Words.beginsWithLetter text = true) := by
  have formed : ∀ name, schema.Mentions name ↔
      ∃ text, Document.Forms config document text ∧ Naming.className {} text = .ok name := by
    cases document with
    | obj members =>
      have flat := fun model isModel => ((isParsed_of_document parsed).models model isModel).noVariants
      exact mentions_iff (Document.areFrom_of_document byDefault parsed) flat
    | _ =>
      cases parsed
      intro name
      simp [Schema.Mentions, Document.Forms]
  refine ⟨formed, ?_, ?_⟩
  · intro name mentions
    obtain ⟨text, _, named⟩ := (formed name).mp mentions
    exact ⟨fun c => Naming.isPart_of_mem_className named, Naming.not_isClassName_iff named⟩
  · constructor
    · intro all text forms
      obtain ⟨name, named⟩ := Naming.exists_className Document.isTyped_default text
      exact (Naming.isClassName_iff named).mp (all name ((formed name).mpr ⟨text, forms, named⟩))
    · intro all name mentions
      obtain ⟨text, forms, named⟩ := (formed name).mp mentions
      exact (Naming.isClassName_iff named).mpr (all text forms)

/-- Lines of orders with rows of tags. -/
def orderDocument : Members :=
  [("order_line", .obj [("properties", .obj [("tags", FieldType.rowNode FieldType.tagNode)])]),
    ("line 2", .obj [("properties", .obj [])])]

/-- Classes can be called by all names in the schema of orders. -/
theorem ofDocument_classNames_order : ∃ schema,
    Schema.ofDocument {} (.obj orderDocument) = .ok schema ∧ schema.names = ["OrderLine", "Line2"] ∧
      schema.Mentions "Tag" ∧ ∀ name, schema.Mentions name → IsClassName name := by
  have isOk : Outcome.any (Schema.ofDocument {} (.obj orderDocument))
      (fun schema => schema.names = ["OrderLine", "Line2"]) = true := by
    decide +kernel
  obtain ⟨schema, parsed, isSo⟩ := Outcome.any_iff.mp isOk
  obtain ⟨formed, _, all⟩ := ofDocument_classNames_iff rfl parsed
  have areTitles : Document.titles {} orderDocument = ["order_line", "line 2"] := rfl
  have areTables : Document.tables {} orderDocument =
      [[("tags", FieldType.rowNode FieldType.tagNode)], []] := rfl
  have ofTags : Node.referenceText? (FieldType.rowNode FieldType.tagNode) = some "tag" := by
    have tag := @Node.alongItems_of_none FieldType.tagNode rfl
    have row := @Node.alongItems_of_some (FieldType.rowNode FieldType.tagNode) FieldType.tagNode rfl
    rw [Node.referenceText?, row.2, tag.2]
    decide +kernel
  have isTable : [("tags", FieldType.rowNode FieldType.tagNode)] ∈
      Document.tables {} orderDocument := by
    rw [areTables]
    exact List.mem_cons_self ..
  refine ⟨schema, parsed, of_decide_eq_true isSo, ?_, all.mpr ?_⟩
  · have forms : Document.Forms {} (.obj orderDocument) "tag" :=
      .inr ⟨_, isTable, "tags", _, rfl, ofTags⟩
    exact (formed "Tag").mpr ⟨"tag", forms, by decide +kernel⟩
  · rintro text (isTitle | ⟨table, isTable, key, node, isNode, isText⟩)
    · rw [areTitles] at isTitle
      have letters : ["order_line", "line 2"].all Words.beginsWithLetter = true := by decide
      exact List.all_eq_true.mp letters text isTitle
    · rw [areTables] at isTable
      rcases List.mem_pair.mp isTable with rfl | rfl
      · rw [Entries.get?_cons] at isNode
        split at isNode
        next =>
          cases isNode
          cases ofTags.symm.trans isText
          decide
        next => cases isNode
      · cases isNode

/-- Plans with one key that begins with a digit and one without letters and digits. -/
def planDocument : Members :=
  [("3d", .obj [("properties", .obj [])]), ("_", .obj [("properties", .obj [])])]

/-- No class can be called like the models of plans. -/
theorem ofDocument_misnames_plan : ∃ schema,
    Schema.ofDocument {} (.obj planDocument) = .ok schema ∧ schema.names = ["3D", ""] ∧
      ¬IsClassName "3D" ∧ ¬IsClassName "" := by
  have run : Outcome.any (Schema.ofDocument {} (.obj planDocument))
      (fun schema => schema.names = ["3D", ""]) = true := by
    decide +kernel
  obtain ⟨schema, parsed, isSo⟩ := Outcome.any_iff.mp run
  refine ⟨schema, parsed, of_decide_eq_true isSo, ?_, ?_⟩
  · intro isName
    exact absurd isName.begins (by decide)
  · intro isName
    exact absurd isName.begins (by decide)

end Schema

end SchemaCodegen
