import SchemaCodegen.Proofs.FirstOccurrences
import SchemaCodegen.Proofs.Places

/-!
# Properties in the order of their fields

A model that is read from a node has one field for each property, whatever an explicit order lists:
names that come again, names of no property and values that are no names count for nothing. The
properties that are listed come first and the others keep the order in which they are declared.
-/

namespace SchemaCodegen

open Json (Value Members)

namespace Node

/-! ## The explicit order -/

/-- What the list under the keyword for an explicit order holds. Anything else in its place lists
nothing. -/
def explicitOrder (conventions : Naming) (members : Members) : List Value :=
  match conventions.orderKey with
  | .typed key =>
    match Entries.get? members key with
    | some (.arr items) => items
    | _ => []
  | .untyped _ => []

theorem listed_eq_ok {items : List Value} {names : List String} (given : listed items = .ok names) :
    names = items.filterMap Value.text? := by
  induction items generalizing names with
  | nil =>
    cases given
    rfl
  | cons item rest ih =>
    unfold listed at given
    split at given
    · cases given
    split at given
    next others ofRest =>
      cases given
      rw [ih ofRest]
      cases item <;> rfl
    next => cases given

theorem order_eq_ok {conventions : Naming} {members : Members} {names : List String}
    (given : order conventions members = .ok names) :
    names = (explicitOrder conventions members).filterMap Value.text? := by
  obtain ⟨keyword, isKeyword, given⟩ := Outcome.bind_eq_ok.mp given
  unfold Naming.orderKeyword at isKeyword
  unfold explicitOrder
  cases ofKey : conventions.orderKey with
  | typed key =>
    rw [ofKey] at isKeyword
    cases isKeyword
    dsimp only at given ⊢
    cases found : Entries.get? members key with
    | none =>
      rw [found] at given
      cases given
      rfl
    | some value =>
      rw [found] at given
      cases value with
      | arr items => exact listed_eq_ok given
      | _ =>
        cases given
        rfl
  | untyped value =>
    rw [ofKey] at isKeyword
    dsimp only at isKeyword
    split at isKeyword
    · cases isKeyword
    · cases isKeyword
      cases given
      rfl

/-- Among the names that are kept from a list of values, what comes before another name does so among
the values. -/
theorem idxOf_lt_of_kept {keep : String → Bool} {name other : String} (isKept : keep name = true)
    (otherKept : keep other = true) {items : List Value}
    (before : ((items.filterMap Value.text?).filter keep).idxOf name <
      ((items.filterMap Value.text?).filter keep).idxOf other) :
    items.idxOf (.str name) < items.idxOf (.str other) := by
  induction items with
  | nil => exact absurd before (Nat.lt_irrefl _)
  | cons item rest ih =>
    -- a value that is not kept is neither of the two
    by_cases passes : ∃ text, item = .str text ∧ keep text = true
    · obtain ⟨text, rfl, textKept⟩ := passes
      have isText : (Value.str text).text? = some text := rfl
      rw [List.filterMap_cons_some isText, List.filter_cons_of_pos textKept] at before
      by_cases isOther : text = other
      · rw [isOther, List.idxOf_cons_self] at before
        exact absurd before (Nat.not_lt_zero _)
      have otherValue : Value.str text ≠ .str other := fun same => isOther (Value.str.inj same)
      by_cases isName : text = name
      · rw [isName, List.idxOf_cons_self, List.idxOf_cons_ne _ (isName ▸ otherValue)]
        exact Nat.succ_pos _
      · rw [List.idxOf_cons_ne _ isName, List.idxOf_cons_ne _ isOther] at before
        rw [List.idxOf_cons_ne _ fun same => isName (Value.str.inj same),
          List.idxOf_cons_ne _ otherValue]
        exact Nat.succ_lt_succ (ih (Nat.lt_of_succ_lt_succ before))
    · have leftOut : ((item :: rest).filterMap Value.text?).filter keep =
          (rest.filterMap Value.text?).filter keep := by
        cases item with
        | str text =>
          have isText : (Value.str text).text? = some text := rfl
          rw [List.filterMap_cons_some isText]
          exact List.filter_cons_of_neg fun textKept => passes ⟨text, rfl, textKept⟩
        | _ => rfl
      rw [leftOut] at before
      rw [List.idxOf_cons_ne _ fun same => passes ⟨name, same, isKept⟩,
        List.idxOf_cons_ne _ fun same => passes ⟨other, same, otherKept⟩]
      exact Nat.succ_lt_succ (ih before)

/-- Properties in the order of their fields: those that the explicit order lists, as it does first, and
then the others as declared. -/
theorem exists_parts_of_propertyNames {conventions : Naming} {members : Members} {names : List String}
    (ordered : propertyNames conventions members = .ok names) :
    ∃ first others, names = first ++ others ∧
      (∀ name, name ∈ first ↔ name ∈ (object members "properties").keys ∧
        .str name ∈ explicitOrder conventions members) ∧
      InOrder (explicitOrder conventions members) (first.map .str) ∧
      (∀ name, name ∈ others ↔ name ∈ (object members "properties").keys ∧
        .str name ∉ explicitOrder conventions members) ∧
      InOrder (object members "properties").keys others := by
  obtain ⟨explicit, given, same⟩ := Outcome.bind_eq_ok.mp ordered
  cases same
  obtain rfl := order_eq_ok given
  obtain ⟨others, parted, inOrder, isOther⟩ := Model.exists_distinct_append
    (((explicitOrder conventions members).filterMap Value.text?).filter
      (Entries.has (object members "properties"))) (object members "properties").keys
  have isListed : ∀ name, name ∈ ((explicitOrder conventions members).filterMap Value.text?).filter
      (Entries.has (object members "properties")) ↔ name ∈ (object members "properties").keys ∧
        .str name ∈ explicitOrder conventions members := by
    intro name
    simp [List.mem_filter, Entries.has_iff, and_comm]
  refine ⟨_, others, parted, ?_, ?_, ?_, inOrder⟩
  · intro name
    rw [Model.mem_distinct, isListed]
  · rw [InOrder, List.pairwise_map]
    apply List.Pairwise.imp_of_mem _ (Model.inOrder_distinct _)
    intro name other isName isOtherName before
    rw [Model.mem_distinct, isListed, ← Entries.has_iff] at isName isOtherName
    exact idxOf_lt_of_kept isName.1 isOtherName.1 before
  · intro name
    rw [isOther, isListed]
    constructor
    · rintro ⟨isKey, notListed⟩
      exact ⟨isKey, fun isItem => notListed ⟨isKey, isItem⟩⟩
    · rintro ⟨isKey, notItem⟩
      exact ⟨isKey, fun both => notItem both.2⟩

theorem mem_required_iff {members : Members} {name : String} :
    name ∈ required members ↔
      ∃ items, Entries.get? members "required" = some (.arr items) ∧ .str name ∈ items := by
  unfold required
  split
  next items isList => simp [isList, List.mem_filterMap]
  next noList =>
    constructor
    · intro isName
      cases isName
    · rintro ⟨items, isList, _⟩
      exact absurd isList (noList items)

end Node

/-! ## Models -/

/-- A model has exactly the properties of its node. -/
structure Model.HasProperties (naming : Setting Naming) (conventions : Naming) (label : String)
    (members : Members) (model : Model) : Prop where
  /-- There is a field for each property. -/
  permuted : model.fieldNames.Perm (Node.object members "properties").keys
  /-- The fields of listed properties come first, in the order of the list, and the others follow as
  declared. -/
  parted : ∃ first others, model.fieldNames = first ++ others ∧
    (∀ name ∈ first, .str name ∈ Node.explicitOrder conventions members) ∧
    InOrder (Node.explicitOrder conventions members) (first.map .str) ∧
    (∀ name ∈ others, .str name ∉ Node.explicitOrder conventions members) ∧
    InOrder (Node.object members "properties").keys others
  /-- A field may be null unless a list of required properties holds its name. -/
  nullable : ∀ field ∈ model.fields, field.nullable = true ↔
    ¬∃ items, Entries.get? members "required" = some (.arr items) ∧ .str field.name ∈ items
  /-- A field has the type of its own property. -/
  typed : ∀ field ∈ model.fields, ∃ node,
    Entries.get? (Node.object members "properties") field.name = some node ∧
      FieldType.ofNode naming.namer s!"#/{label}/properties/{field.name}" node = .ok field.type

/-- A model that is read from a node has exactly its properties, in their order. -/
theorem Model.ofNode_hasProperties {naming : Setting Naming} {name label : String}
    {members : Members} {description : Option String} {model : Model}
    (different : (Node.object members "properties").keys.Nodup)
    (formed : Model.ofNode naming name label members description = .ok model) :
    ∃ conventions, naming = .typed conventions ∧
      model.HasProperties naming conventions label members := by
  obtain ⟨_, once, areKeys, each⟩ := Model.ofNode_eq_ok formed
  obtain ⟨conventions, isTyped, _, ordered⟩ := Document.typed_of_ofNode formed
  refine ⟨conventions, isTyped, ?_⟩
  constructor
  case permuted => exact (List.perm_ext_iff_of_nodup once different).mpr areKeys
  case parted =>
    obtain ⟨first, others, same, isFirst, firstOrder, isOther, otherOrder⟩ :=
      Node.exists_parts_of_propertyNames ordered
    exact ⟨first, others, same, fun name isIn => ((isFirst name).mp isIn).2, firstOrder,
      fun name isIn => ((isOther name).mp isIn).2, otherOrder⟩
  case nullable =>
    intro field isField
    rw [(each field isField).2, Bool.not_eq_true', ← Bool.not_eq_true, List.contains_iff_mem,
      Node.mem_required_iff]
  case typed =>
    intro field isField
    obtain ⟨node, isNode, resolved, _⟩ := (each field isField).1
    exact ⟨node, isNode, resolved _⟩

/-- A node whose explicit order has the due date twice, a name of no property, and values that are no
names. -/
def errandNode : Members :=
  let text : Value := .obj [("type", .str "string")]
  [("properties", .obj [("id", .obj [("type", .str "integer")]), ("note", text), ("due", text)]),
    ("required", .arr [.null, .str "id", .str "due", .str "id"]),
    ("order", .arr [.str "due", .int 1, .str "owner", .str "id", .null, .str "due"])]

/-- The due date of an errand comes first, and only its note may be null. -/
theorem Model.ofNode_hasProperties_errand : ∃ model,
    Model.ofNode (.typed { orderKey := .typed "order" }) "errand" "errand" errandNode = .ok model ∧
      model.fields.map (fun field => (field.name, field.nullable)) =
        [("due", false), ("id", false), ("note", true)] ∧
      model.HasProperties (.typed { orderKey := .typed "order" }) { orderKey := .typed "order" }
        "errand" errandNode := by
  have isOk : Outcome.any
      (Model.ofNode (.typed { orderKey := .typed "order" }) "errand" "errand" errandNode)
      (fun model => model.fields.map (fun field => (field.name, field.nullable)) =
        [("due", false), ("id", false), ("note", true)]) = true := by
    decide +kernel
  obtain ⟨model, formed, isSo⟩ := Outcome.any_iff.mp isOk
  obtain ⟨conventions, isTyped, has⟩ := Model.ofNode_hasProperties (by decide) formed
  cases isTyped
  exact ⟨model, formed, of_decide_eq_true isSo, has⟩

end SchemaCodegen
