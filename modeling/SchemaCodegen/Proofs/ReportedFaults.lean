import SchemaCodegen.Proofs.SingleSchemas
import Mathlib.Tactic.Choose

/-!
# When a document fails without a report

A document of any shape is read into a schema, or else it fails by a fault that is reported, with two
exceptions. A title that is set and is no text fails where a name is formed from it, and an order of
properties that holds arrays or objects fails where the fields are put in order. Each of them shows
only if nothing before it in the document has failed already.
-/

namespace SchemaCodegen

open Json (Value Members)
open Outcome (FailsBy failsBy_ok failsBy_error failsBy_bind_iff)

/-! ## What is looked at -/

/-- Whether an outcome is a result or a fault that is reported. -/
def Outcome.Reports {α : Type} (outcome : Outcome α) : Prop :=
  FailsBy (fun fault => fault.isReported = true) outcome

theorem Outcome.reports_bind_iff {α β : Type} {first : Outcome α} {next : α → Outcome β} :
    (first >>= next).Reports ↔
      first.Reports ∧ ∀ value, first = .ok value → (next value).Reports :=
  failsBy_bind_iff

theorem Outcome.not_reports_error {α : Type} {fault : Fault} (unreported : fault.isReported = false) :
    ¬Reports (.error fault : Outcome α) := by
  intro reports
  rw [reports fault rfl] at unreported
  cases unreported

/-- Whether all that is configured of names has the type that it should have. -/
structure Config.IsTyped (config : Config) (conventions : Naming) : Prop where
  naming : config.naming = .typed conventions
  names : conventions.IsTyped
  cut : ∃ length, conventions.cut = .typed length
  otherwise : ∃ text, conventions.otherwise = .typed text
  baseName : ∃ text, conventions.baseName = .typed text

theorem Config.IsTyped.exists_cutLength {config : Config} {conventions : Naming}
    (typed : config.IsTyped conventions) : ∃ length, conventions.cutLength = .ok length := by
  obtain ⟨length, isLength⟩ := typed.cut
  exact ⟨length, by rw [Naming.cutLength, isLength]⟩

/-- Whether the explicit order of a node, if it has one, holds no arrays and no objects. -/
def Node.HasPlainOrder (conventions : Naming) (members : Members) : Prop :=
  ∀ key items, conventions.orderKey = .typed key → Entries.get? members key = some (.arr items) →
    ∀ item ∈ items, item.isCompound = false

/-- Whether the title of a document, if it is set, is a text. -/
def Document.HasPlainTitle (document : Members) : Prop :=
  ∀ title, Entries.get? document "title" = some title → title.isSet = true →
    ∃ text, title = .str text

/-- Whether a check passes on the items of a list up to the first that stops it. -/
def HoldsUntil {α : Type} (goesOn check : α → Prop) (list : List α) : Prop :=
  ∀ before item after, list = before ++ item :: after → (∀ earlier ∈ before, goesOn earlier) →
    check item

/-- Whether a conditional schema has no fault that goes unreported: its title is looked at when there is
a discriminator, its order when that has a truth value and nothing is lacking. -/
def Conditional.IsPlain (config : Config) (conventions : Naming) (document : Members) : Prop :=
  ∀ key, discriminator config.policy document = .ok key →
    Document.HasPlainTitle document ∧
      (gap? config document = none → ∀ value, firstValue document key = .ok value →
        Node.HasPlainOrder conventions (shares document).1)

/-- Whether a container has no fault that goes unreported: the orders of its models are looked at up to
the first that fails. Without places for models its own title and order are. -/
def Document.IsPlain (config : Config) (conventions : Naming) (document : Members) : Prop :=
  HoldsUntil (fun place => ∃ model, Place.Gives config.naming place model)
      (fun place => Node.HasPlainOrder conventions place.2) (places document) ∧
    (places document = [] → Entries.has document "properties" = true →
      HasPlainTitle document ∧ Node.HasPlainOrder conventions document)

section HoldsUntil

variable {α β : Type} {goesOn check : α → Prop}

theorem holdsUntil_nil : HoldsUntil goesOn check [] := by
  intro before item after isNil
  simp at isNil

theorem holdsUntil_cons {first : α} {rest : List α} :
    HoldsUntil goesOn check (first :: rest) ↔
      check first ∧ (goesOn first → HoldsUntil goesOn check rest) := by
  constructor
  · intro holds
    refine ⟨holds [] first rest rfl nofun, ?_⟩
    rintro goes before item after rfl earlierGo
    exact holds (first :: before) item after rfl (List.forall_mem_cons.mpr ⟨goes, earlierGo⟩)
  · rintro ⟨ofFirst, ofRest⟩ before item after same earlierGo
    cases before with
    | nil =>
      cases same
      exact ofFirst
    | cons other more =>
      cases same
      obtain ⟨goes, moreGo⟩ := List.forall_mem_cons.mp earlierGo
      exact ofRest goes more item after rfl moreGo

theorem holdsUntil_map {list : List β} (f : β → α) :
    HoldsUntil goesOn check (list.map f) ↔
      HoldsUntil (fun item => goesOn (f item)) (fun item => check (f item)) list := by
  induction list with
  | nil => exact iff_of_true holdsUntil_nil holdsUntil_nil
  | cons first rest ih => rw [List.map_cons, holdsUntil_cons, holdsUntil_cons, ih]

end HoldsUntil

theorem Fault.LacksItems.isReported {fault : Fault} (lacks : fault.LacksItems) :
    fault.isReported = true := by
  obtain ⟨path, rfl⟩ := lacks
  rfl

/-! ## Orders and models -/

section

variable {conventions : Naming}

namespace Node

theorem listed_of_compound {items : List Value}
    (compound : ¬∀ item ∈ items, item.isCompound = false) : listed items = .error .wrongType := by
  induction items with
  | nil => exact absurd nofun compound
  | cons item rest ih =>
    rw [List.forall_mem_cons, not_and] at compound
    cases isHere : item.isCompound with
    | true => simp [listed, isHere]
    | false => simp [listed, isHere, ih (compound isHere)]

theorem propertyNames_of_not_plain {members : Members}
    (notPlain : ¬HasPlainOrder conventions members) :
    propertyNames conventions members = .error .wrongType := by
  simp only [HasPlainOrder, not_forall] at notPlain
  obtain ⟨key, items, isKey, given, item, isItem, compound⟩ := notPlain
  have isListed : listed items = .error .wrongType :=
    listed_of_compound fun simple => compound (simple item isItem)
  rw [propertyNames, order, Naming.orderKeyword, isKey]
  simp only [Outcome.ok_bind, given, isListed]
  rfl

end Node

/-- A model fails without a report exactly for its order. -/
theorem Model.ofNode_reports_iff (typed : conventions.IsTyped) (name label : String)
    (members : Members) (description : Option String) :
    (ofNode (.typed conventions) name label members description).Reports ↔
      Node.HasPlainOrder conventions members := by
  obtain ⟨className, named⟩ := Naming.exists_className typed name
  rw [ofNode, Setting.namer, Setting.conventions, Outcome.ok_bind, named, Outcome.ok_bind,
    Outcome.ok_bind]
  by_cases plain : Node.HasPlainOrder conventions members
  · obtain ⟨names, ordered⟩ := Node.exists_propertyNames typed plain
    rw [ordered, Outcome.ok_bind]
    refine iff_of_true ?_ plain
    apply FailsBy.bind
    · intro fault fails
      exact (Node.failsBy_fields typed _ _ _ fault fails).isReported
    · intro fields _
      exact failsBy_ok _
  · rw [Node.propertyNames_of_not_plain plain]
    exact iff_of_false (Outcome.not_reports_error rfl) plain

end

/-! ## Titles -/

namespace Conditional

variable {document : Members} {default : Setting String} {text : String}

theorem exists_titleOr (isDefault : default = .typed text) (plain : Document.HasPlainTitle document) :
    ∃ title, titleOr document default = .str title := by
  subst isDefault
  rw [titleOr]
  split
  next title given =>
    split
    next isSet => exact plain title given isSet
    next => exact ⟨text, rfl⟩
  next => exact ⟨text, rfl⟩

theorem nameText_of_not_plain (notPlain : ¬Document.HasPlainTitle document) :
    nameText (titleOr document default) = .error .noSuchPart := by
  simp only [Document.HasPlainTitle, not_forall] at notPlain
  obtain ⟨title, given, isSet, noText⟩ := notPlain
  have isTitle : titleOr document default = title := by
    rw [titleOr, given]
    exact if_pos isSet
  rw [isTitle]
  cases title with
  | str text => exact absurd ⟨text, rfl⟩ noText
  | _ => exact if_pos isSet

end Conditional

/-! ## Conditional schemas -/

namespace Conditional

variable {config : Config} {conventions : Naming} {document : Members}

theorem discriminator_reports (policy : Policy) (document : Members) :
    (discriminator policy document).Reports := by
  unfold discriminator
  split
  next => exact failsBy_error rfl
  next => exact failsBy_ok _
  next =>
    cases policy with
    | first => exact failsBy_ok _
    | refuse => exact failsBy_error rfl

theorem firstValue_reports (document : Members) (key : String) :
    (firstValue document key).Reports := by
  unfold firstValue
  simp only
  split
  next => exact failsBy_ok _
  next => exact failsBy_error rfl

section

variable (typed : config.IsTyped conventions)
include typed

/-- With a title that is a text, or none, the names of a split are formed if there is a discriminator
with a truth value. -/
theorem exists_names {title : String} (isTitle : titleOr document conventions.baseName = .str title) :
    ∃ formed : String → Bool → Names, (∀ key value, (formed key value).base = .str title) ∧
      names config document =
        discriminator config.policy document >>= fun key =>
          formed key <$> firstValue document key := by
  obtain ⟨length, isCut⟩ := typed.exists_cutLength
  obtain ⟨otherwise, isOtherwise⟩ := typed.otherwise
  choose className named using Naming.exists_className typed.names
  refine ⟨fun key value =>
    let first := Words.pascalCase (Naming.dropFront length key) ++ title
    { key, value
      base := .str title
      first
      second := otherwise ++ title
      baseClass := className title
      firstClass := className first
      secondClass := className (otherwise ++ title) }, fun _ _ => rfl, ?_⟩
  rw [names, typed.naming]
  simp only [Setting.conventions, Outcome.ok_bind, isCut, isTitle, nameText, named, joined,
    isOtherwise, Setting.get_typed]
  rfl

theorem names_of_not_plain (notPlain : ¬Document.HasPlainTitle document) :
    names config document = discriminator config.policy document >>= fun _ => .error .noSuchPart := by
  obtain ⟨length, isCut⟩ := typed.exists_cutLength
  rw [names, typed.naming]
  simp only [Setting.conventions, Outcome.ok_bind, isCut, nameText_of_not_plain notPlain]
  rfl

omit typed in
/-- The node of a variant lists its required properties, which are texts, and nothing else. -/
theorem hasPlainOrder_of_take (pool : Pool) (branch : List String) :
    Node.HasPlainOrder conventions (pool.take branch).1 := by
  intro key items _ given item isItem
  rw [Pool.take, Entries.get?_cons, Entries.get?_cons, Entries.get?_nil] at given
  split at given
  next => cases given
  next =>
    split at given
    next =>
      cases given
      obtain ⟨name, _, rfl⟩ := List.mem_map.mp isItem
      rfl
    next => cases given

/-- The base alone can have an order that fails without a report. -/
theorem models_reports_iff {names : Names} {title : String} (isTitle : names.base = .str title) :
    (models config document names).Reports ↔
      Node.HasPlainOrder conventions (shares document).1 := by
  have taken (name : String) (pool : Pool) (branch : List String) :
      (Model.ofNode config.naming name name (pool.take branch).1).Reports := by
    rw [typed.naming]
    exact (Model.ofNode_reports_iff typed.names name name _ _).mpr (hasPlainOrder_of_take pool branch)
  have first : (Model.ofNode config.naming names.first names.first (shares document).2.1).Reports :=
    taken _ _ _
  have second : (Model.ofNode config.naming names.second names.second (shares document).2.2).Reports :=
    taken _ _ _
  rw [← Model.ofNode_reports_iff typed.names title names.base.display _ none, ← typed.naming, models,
    isTitle, nameText]
  generalize shares document = nodes at first second ⊢
  obtain ⟨baseNode, firstNode, secondNode⟩ := nodes
  simp only [Outcome.ok_bind]
  rw [Outcome.reports_bind_iff]
  refine and_iff_left ?_
  intro base _
  apply first.bind
  intro firstModel _
  apply second.bind
  intro secondModel _
  exact failsBy_ok _

/-- A conditional schema fails without a report exactly for a title or for an order. -/
theorem split_reports_iff :
    (split config document).Reports ↔ IsPlain config conventions document := by
  obtain ⟨default, isDefault⟩ := typed.baseName
  by_cases plain : Document.HasPlainTitle document
  · obtain ⟨title, isTitle⟩ := exists_titleOr isDefault plain
    obtain ⟨formed, isBase, named⟩ := exists_names typed isTitle
    rw [split, named, bind_assoc, Outcome.reports_bind_iff, and_iff_right (discriminator_reports _ _)]
    refine forall₂_congr fun key isKey => ?_
    rw [and_iff_right plain, map_eq_pure_bind, bind_assoc, Outcome.reports_bind_iff,
      and_iff_right (firstValue_reports _ _)]
    cases gap? config document with
    | some gap => exact iff_of_true (fun value _ => failsBy_ok _) nofun
    | none =>
      rw [forall_prop_of_true rfl]
      refine forall₂_congr fun value isValue => ?_
      exact models_reports_iff typed (isBase key value)
  · -- with any discriminator the title is asked for what it lacks
    rw [split, names_of_not_plain typed plain, bind_assoc, Outcome.reports_bind_iff,
      and_iff_right (discriminator_reports _ _)]
    refine forall₂_congr fun key isKey => ?_
    exact iff_of_false (Outcome.not_reports_error rfl) (fun holds => plain holds.1)

end

end Conditional

/-! ## Containers and single schemas -/

/-- A description from elsewhere has no part in whether there is a model. -/
theorem Model.exists_ofNode {naming : Setting Naming} {name label : String} {members : Members}
    {description other : Option String} {model : Model}
    (formed : ofNode naming name label members description = .ok model) :
    ∃ otherModel, ofNode naming name label members other = .ok otherModel := by
  obtain ⟨conventions, isNamer, formed⟩ := Outcome.bind_eq_ok.mp formed
  obtain ⟨className, named, formed⟩ := Outcome.bind_eq_ok.mp formed
  obtain ⟨others, isConventions, formed⟩ := Outcome.bind_eq_ok.mp formed
  obtain ⟨names, ordered, formed⟩ := Outcome.bind_eq_ok.mp formed
  obtain ⟨fields, ofNames, _⟩ := Outcome.bind_eq_ok.mp formed
  rw [ofNode, isNamer, Outcome.ok_bind, named, Outcome.ok_bind, isConventions, Outcome.ok_bind,
    ordered, Outcome.ok_bind, ofNames]
  exact ⟨_, rfl⟩

namespace Document

section

variable {config : Config} {conventions : Naming} {document : Members}
  (typed : config.IsTyped conventions)
include typed

theorem form_reports_iff (steps : List Step) :
    (form config.naming steps).Reports ↔
      HoldsUntil
        (fun step => ∃ model description,
          Model.ofNode config.naming step.1 step.1 step.2 description = .ok model)
        (fun step => Node.HasPlainOrder conventions step.2) (steps.filterMap Step.formed?) := by
  induction steps with
  | nil => exact iff_of_true (failsBy_ok _) holdsUntil_nil
  | cons step rest ih =>
    cases step with
    | pass remark => exact ih
    | form name node description =>
      have ofModel := Model.ofNode_reports_iff typed.names name name node description
      rw [← typed.naming] at ofModel
      have isFormed : Step.formed? (.form name node description) = some (name, node) := rfl
      rw [List.filterMap_cons_some isFormed, holdsUntil_cons, ← ih, form, Outcome.reports_bind_iff,
        ofModel]
      refine and_congr_right fun _ => ?_
      -- the steps behind are carried out only if this one gives a model, under whatever description
      constructor
      · rintro ofRest ⟨model, other, formed⟩
        obtain ⟨same, formed⟩ := @Model.exists_ofNode _ _ _ _ _ description _ formed
        exact (Outcome.reports_bind_iff.mp (ofRest same formed)).1
      · intro ofRest model formed
        apply (ofRest ⟨model, description, formed⟩).bind
        intro models _
        exact failsBy_ok _

/-- A single schema fails without a report exactly for its title or its order. -/
theorem root_reports_iff :
    (root config.naming document).Reports ↔
      HasPlainTitle document ∧ Node.HasPlainOrder conventions document := by
  obtain ⟨default, isDefault⟩ := typed.names.rootName
  rw [root, typed.naming, Setting.conventions, Outcome.ok_bind]
  by_cases plain : HasPlainTitle document
  · obtain ⟨title, isTitle⟩ := Conditional.exists_titleOr isDefault plain
    simp only [isTitle, Conditional.nameText, Outcome.ok_bind]
    rw [and_iff_right plain, Model.ofNode_reports_iff typed.names]
  · simp only [Conditional.nameText_of_not_plain plain]
    exact iff_of_false (Outcome.not_reports_error rfl) (fun holds => plain holds.1)

/-- A container fails without a report exactly for the order of a model, or for its own title or order
if it is read as a single schema. -/
theorem models_reports_iff (unconditional : Conditional.isConditional document = false) :
    (models config document).Reports ↔ IsPlain config conventions document := by
  have ofSteps := form_reports_iff typed (steps document)
  rw [formed_steps, holdsUntil_map] at ofSteps
  rw [models, if_neg (by rw [unconditional]; exact Bool.false_ne_true), Outcome.reports_bind_iff,
    ofSteps, IsPlain, ← root_reports_iff typed]
  refine and_congr_right fun _ => ?_
  by_cases none_ : places document = []
  · rw [form_of_no_places none_, forall_prop_of_true none_]
    constructor
    · intro ofNone properties
      have asRoot := ofNone [] rfl
      rw [isRoot, properties] at asRoot
      exact (Outcome.reports_bind_iff.mp asRoot).1
    · rintro ofRoot models same
      cases same
      cases properties : Entries.has document "properties" with
      | false =>
        rw [isRoot, properties]
        exact failsBy_ok _
      | true =>
        rw [isRoot, properties]
        apply (ofRoot properties).bind
        intro model _
        exact failsBy_ok _
  · rw [forall_prop_of_false none_, iff_true]
    intro models formed
    rw [isRoot, List.isEmpty_eq_false_iff.mpr (ne_nil_of_form none_ formed)]
    exact failsBy_ok _

end

end Document

/-- Whatever a document holds, it is read into a schema or fails by a fault that is reported, exactly if
titles and orders are plain wherever they are looked at. A document that is no object always has a
schema. -/
theorem Schema.ofDocument_reports_iff {config : Config} {conventions : Naming}
    (typed : config.IsTyped conventions) (document : Value) :
    (ofDocument config document).Reports ↔
      ∀ members, document = .obj members →
        if Conditional.isConditional members then Conditional.IsPlain config conventions members
        else Document.IsPlain config conventions members := by
  cases document with
  | obj members =>
    have ofModels : (ofDocument config (.obj members)).Reports ↔
        (Document.models config members).Reports := by
      rw [ofDocument, Outcome.reports_bind_iff]
      exact and_iff_left fun _ _ => failsBy_ok _
    simp only [ofModels, Value.obj.injEq, forall_eq']
    split
    next conditional =>
      rw [Document.models, if_pos conditional]
      exact Conditional.split_reports_iff typed
    next unconditional =>
      exact Document.models_reports_iff typed (Bool.not_eq_true _ ▸ unconditional)
  | _ =>
    refine iff_of_true (failsBy_ok _) ?_
    intro members same
    cases same

theorem Config.isTyped_default : IsTyped {} {} :=
  ⟨rfl, Document.isTyped_default, ⟨_, rfl⟩, ⟨_, rfl⟩, ⟨_, rfl⟩⟩

/-- A document with many parts of unexpected types, but a title that is not set and an order without
arrays and objects. -/
def oddDocument : Members :=
  [("title", .arr []),
    ("properties", .obj [("tags", .obj [("type", .str "array")]), ("name", .int 5)]),
    ("required", .int 3),
    ("propertyOrder", .arr [.null, .str "tags"]),
    ("description", .bool true)]

/-- The odd document fails for its array without items, which is reported. -/
theorem ofDocument_reports_odd :
    Schema.ofDocument {} (.obj oddDocument) =
        .error (.missingKeyword "items" "#/Root/properties/tags") ∧
      (Schema.ofDocument {} (.obj oddDocument)).Reports := by
  refine ⟨rfl, (Schema.ofDocument_reports_iff Config.isTyped_default _).mpr ?_⟩
  rintro members same
  cases same
  have noPlaces : Document.places oddDocument = [] := rfl
  refine ⟨?_, fun _ _ => ⟨?title, ?order⟩⟩
  · rw [noPlaces]
    exact holdsUntil_nil
  case title =>
    intro title given isSet
    cases given
    cases isSet
  case order =>
    intro key items isKey given
    cases isKey
    cases given
    decide

/-- A title that is a number and an order that holds an array fail without a report. -/
theorem ofDocument_unreported :
    Schema.ofDocument {} (.obj [("title", .int 5), ("properties", .obj [])]) = .error .noSuchPart ∧
      Fault.noSuchPart.isReported = false ∧
      Schema.ofDocument {}
          (.obj [("pet", .obj [("properties", .obj []), ("propertyOrder", .arr [.arr []])])]) =
        .error .wrongType ∧
      Fault.wrongType.isReported = false :=
  ⟨rfl, rfl, rfl, rfl⟩

end SchemaCodegen
