import SchemaCodegen.Proofs.Renderable

/-!
# Arrays of arrays

The type of a node is found by following the items of arrays to the first value that is no array with
items. If that is still an array, it says nothing of its items, and its place is reported: the path of
the node with `/items` for each step. Otherwise the type of that value stands in an array for each
step, so every array type has a type of items.
-/

namespace SchemaCodegen

open Json (Value Members)
open Outcome (FailsBy failsBy_ok failsBy_error)

/-! ## Following items -/

theorem Entries.mem_of_get? {α : Type} {entries : Entries α} {key : String} {value : α}
    (given : entries.get? key = some value) : (key, value) ∈ entries := by
  induction entries with
  | nil => cases given
  | cons entry rest ih =>
    obtain ⟨k, v⟩ := entry
    rw [get?_cons] at given
    split at given
    next same =>
      cases given
      rw [same]
      exact List.mem_cons_self ..
    next => exact List.mem_cons_of_mem _ (ih given)

namespace Node

/-- Whether a value is an object without a reference that says that it is an array. -/
def isArray (node : Value) : Bool :=
  (node.member? "$ref").isNone && node.member? "type" == some (.str "array")

/-- What the items of an array are, if that is said and not null. -/
def items? (node : Value) : Option Value :=
  if isArray node then (node.member? "items").filter (· ≠ .null) else none

theorem sizeOf_lt_of_items? {node item : Value} (given : items? node = some item) :
    sizeOf item < sizeOf node := by
  unfold items? at given
  split at given
  next =>
    obtain ⟨isMember, _⟩ := Option.filter_eq_some_iff.mp given
    cases node with
    | obj members =>
      have smaller := List.sizeOf_lt_of_mem (Entries.mem_of_get? isMember)
      simp only [Prod.mk.sizeOf_spec] at smaller
      rw [Value.obj.sizeOf_spec]
      omega
    | _ => cases isMember
  next => cases given

/-- The value that is reached along items, with the number of steps. -/
def alongItems (node : Value) : Nat × Value :=
  match found : items? node with
  | none => (0, node)
  | some item => ((alongItems item).1 + 1, (alongItems item).2)
termination_by sizeOf node
decreasing_by all_goals exact sizeOf_lt_of_items? found

/-- How many arrays stand around the value that is reached along items. -/
def depth (node : Value) : Nat := (alongItems node).1

/-- The value that is reached along items. -/
def last (node : Value) : Value := (alongItems node).2

theorem alongItems_of_none {node : Value} (ends : items? node = none) :
    depth node = 0 ∧ last node = node := by
  rw [depth, last, alongItems]
  split
  next => exact ⟨rfl, rfl⟩
  next goesOn => rw [ends] at goesOn; cases goesOn

theorem alongItems_of_some {node item : Value} (goesOn : items? node = some item) :
    depth node = depth item + 1 ∧ last node = last item := by
  rw [depth, last, alongItems]
  split
  next ends => rw [goesOn] at ends; cases ends
  next other isOther =>
    rw [goesOn] at isOther
    cases isOther
    exact ⟨rfl, rfl⟩

/-- A statement about values holds if it does where items end, and of each array with items of which
it holds. -/
theorem rec_items {motive : Value → Prop} (ends : ∀ node, items? node = none → motive node)
    (goesOn : ∀ node item, items? node = some item → motive item → motive node) (node : Value) :
    motive node := by
  cases found : items? node with
  | none => exact ends node found
  | some item => exact goesOn node item found (rec_items ends goesOn item)
termination_by sizeOf node
decreasing_by exact sizeOf_lt_of_items? found

theorem items?_last (node : Value) : items? (last node) = none := by
  induction node using rec_items with
  | ends node ends => rwa [(alongItems_of_none ends).2]
  | goesOn node item goesOn ih => rwa [(alongItems_of_some goesOn).2]

theorem isArray_obj (members : Members) : isArray (.obj members) = FieldType.isArray members := by
  rw [isArray, FieldType.isArray, Entries.has, Option.not_isSome]
  rfl

theorem isArray_of_items? {node item : Value} (given : items? node = some item) :
    isArray node = true := by
  by_contra noArray
  rw [items?, if_neg noArray] at given
  cases given

/-- The path of what is reached from a place along items. -/
def below (path : String) : Nat → String
  | 0 => path
  | steps + 1 => below path steps ++ "/items"

theorem below_items (path : String) (steps : Nat) :
    below (path ++ "/items") steps = below path (steps + 1) := by
  induction steps with
  | zero => rfl
  | succ steps ih => rw [below, ih, below.eq_def path (steps + 2)]

end Node

/-! ## Types along items -/

namespace FieldType

/-- Arrays of arrays, a number of times, around a type. -/
def arrays : Nat → FieldType → FieldType
  | 0, type => type
  | levels + 1, type => array (arrays levels type)

section

variable {naming : Setting Naming} {path : String} {node : Value}

theorem ofItems_eq (naming : Setting Naming) (path : String) (members : Members) :
    ofItems naming path members =
      match (Entries.get? members "items").filter (· ≠ .null) with
      | some item => ofNode naming (path ++ "/items") item
      | none => .error (.missingKeyword "items" path) := by
  induction members with
  | nil => rw [ofItems]; rfl
  | cons entry rest ih =>
    obtain ⟨key, value⟩ := entry
    by_cases isItems : key = "items"
    · subst isItems
      rw [ofItems.eq_def, Entries.get?_cons, if_pos rfl]
      cases value <;> simp [Option.filter]
    · rw [ofItems.eq_def, Entries.get?_cons, if_neg isItems]
      simp only [if_neg isItems, ih]

/-- An array with items is an array of their type, which is looked for below it. -/
theorem ofNode_of_items {item : Value} (goesOn : Node.items? node = some item) :
    ofNode naming path node = array <$> ofNode naming (path ++ "/items") item := by
  have isArray := Node.isArray_of_items? goesOn
  rw [Node.items?, if_pos isArray] at goesOn
  cases node with
  | obj members =>
    rw [Node.isArray_obj] at isArray
    rw [Value.member?_obj] at goesOn
    rw [ofNode, if_pos isArray, ofItems_eq, goesOn]
    simp only
    cases ofNode naming (path ++ "/items") item <;> rfl
  | _ => cases goesOn

/-- An array without items has no type. -/
theorem ofNode_of_no_items (isArray : Node.isArray node = true) (ends : Node.items? node = none) :
    ofNode naming path node = .error (.missingKeyword "items" path) := by
  rw [Node.items?, if_pos isArray] at ends
  cases node with
  | obj members =>
    rw [Node.isArray_obj] at isArray
    rw [Value.member?_obj] at ends
    rw [ofNode, if_pos isArray, ofItems_eq, ends]
  | _ => cases isArray

/-- Keywords alone tell a kind, and none of an array. -/
theorem exists_ofKeywords (members : Members) :
    ∃ kind, kind ≠ .array ∧ ofKeywords members = .of kind := by
  unfold ofKeywords
  split
  next =>
    refine ⟨_, ?_, rfl⟩
    split <;> decide
  next name _ _ =>
    refine ⟨_, ?_, rfl⟩
    unfold simple?
    split <;> decide
  next => exact ⟨.unknown, by decide, rfl⟩

/-- What is no array is a reference or has a kind alone, whatever its place. -/
theorem ofNode_cases (noArray : Node.isArray node = false) :
    (∃ reference, ∀ path, ofNode naming path node = ofReference naming reference) ∨
      ∃ kind, kind ≠ .array ∧ ∀ path, ofNode naming path node = .ok (.of kind) := by
  cases node with
  | obj members =>
    rw [Node.isArray_obj, ← Bool.not_eq_true] at noArray
    simp only [ofNode, if_neg noArray]
    cases Entries.get? members "$ref" with
    | some reference => exact .inl ⟨reference, fun _ => rfl⟩
    | none =>
      obtain ⟨kind, other, same⟩ := exists_ofKeywords members
      exact .inr ⟨kind, other, fun _ => congrArg Except.ok same⟩
  | _ =>
    simp only [ofNode]
    exact .inr ⟨.unknown, by decide, fun _ => rfl⟩

theorem ofNode_of_not_isArray (noArray : Node.isArray node = false) (other : String) :
    ofNode naming path node = ofNode naming other node := by
  obtain ⟨reference, same⟩ | ⟨kind, _, same⟩ := @ofNode_cases naming node noArray <;>
    rw [same, same]

/-- Only an array has the type of one. -/
theorem kind_of_not_isArray (noArray : Node.isArray node = false) {type : FieldType}
    (resolved : ofNode naming path node = .ok type) : type.kind ≠ .array := by
  obtain ⟨reference, same⟩ | ⟨kind, other, same⟩ := @ofNode_cases naming node noArray
  · rw [same] at resolved
    obtain ⟨_, _, resolved⟩ := Outcome.bind_eq_ok.mp resolved
    obtain ⟨_, _, same⟩ := Outcome.bind_eq_ok.mp resolved
    cases same
    exact nofun
  · rw [same] at resolved
    cases resolved
    exact other

end

theorem failsBy_get {α : Type} (setting : Setting α) : FailsBy Fault.IsUnreported setting.get := by
  cases setting with
  | typed value => exact failsBy_ok value
  | untyped found => exact failsBy_error rfl

theorem failsBy_className (conventions : Naming) (raw : String) :
    FailsBy Fault.IsUnreported (conventions.className raw) := by
  apply (failsBy_get conventions.ending).bind
  intro ending _
  split
  next =>
    apply (failsBy_get conventions.replacement).bind
    intro replacement _
    exact failsBy_ok _
  next => exact failsBy_ok _

theorem failsBy_ofReference (naming : Setting Naming) (reference : Value) :
    FailsBy Fault.IsUnreported (ofReference naming reference) := by
  apply (failsBy_conventions naming).bind
  intro conventions _
  apply (failsBy_className conventions _).bind
  intro name _
  exact failsBy_ok _

/-- Only for want of items a keyword is missed. -/
theorem ofNode_ne_missing {naming : Setting Naming} {path : String} {node : Value}
    (noArray : Node.isArray node = false) (keyword place : String) :
    ofNode naming path node ≠ .error (.missingKeyword keyword place) := by
  intro fails
  obtain ⟨reference, same⟩ | ⟨kind, _, same⟩ := @ofNode_cases naming node noArray
  · rw [same] at fails
    have unreported := failsBy_ofReference naming reference _ fails
    cases unreported
  · rw [same] at fails
    cases fails

/-- Whether a class name is formed of every text. -/
def FormsNames (naming : Setting Naming) : Prop :=
  ∀ raw, ∃ conventions name, naming.conventions = .ok conventions ∧
    conventions.className raw = .ok name

/-- Conventions whose endings are texts form a class name of every text. -/
theorem formsNames_of_texts {conventions : Naming} {ending replacement : String}
    (reserved : conventions.ending = .typed ending)
    (replaced : conventions.replacement = .typed replacement) : FormsNames (.typed conventions) := by
  intro raw
  refine ⟨conventions, ?_⟩
  cases isEnd : Ending.isEndOf ending (Words.pascalCase raw) with
  | true => exact ⟨_, rfl, Naming.withNewEnding_of_isEndOf reserved replaced isEnd⟩
  | false => exact ⟨_, rfl, Naming.withNewEnding_of_not_isEndOf reserved isEnd⟩

/-- Where names are formed, what is no array has a type. -/
theorem exists_type {naming : Setting Naming} {path : String} {node : Value}
    (formsNames : FormsNames naming) (noArray : Node.isArray node = false) :
    ∃ type, ofNode naming path node = .ok type := by
  obtain ⟨reference, same⟩ | ⟨kind, _, same⟩ := @ofNode_cases naming node noArray
  · obtain ⟨conventions, name, isTyped, named⟩ := formsNames (lastPart reference.display)
    rw [same, ofReference, isTyped, Outcome.ok_bind, named]
    exact ⟨_, rfl⟩
  · exact ⟨_, same path⟩

/-- A node is resolved by resolving what is reached along items, at its place. -/
theorem ofNode_eq (naming : Setting Naming) (path : String) (node : Value) :
    ofNode naming path node =
      arrays (Node.depth node) <$> ofNode naming (Node.below path (Node.depth node)) (Node.last node) := by
  induction node using Node.rec_items generalizing path with
  | ends node ends =>
    obtain ⟨depth, last⟩ := Node.alongItems_of_none ends
    rw [depth, last, Node.below]
    exact (id_map _).symm
  | goesOn node item goesOn ih =>
    obtain ⟨depth, last⟩ := Node.alongItems_of_some goesOn
    rw [ofNode_of_items goesOn, ih, depth, last, Node.below_items]
    exact (comp_map _ _ _).symm

/-- A keyword is missing exactly if what is reached along items is an array, and its place is the path
of the node with `/items` for each step. Otherwise the type of what is reached, which is none of an
array, stands in an array for each step, and there is one if names can be formed. In all types that
are told each array has a type of items. -/
theorem ofNode_along_items (naming : Setting Naming) (path : String) (node : Value) :
    (ofNode naming path node =
        .error (.missingKeyword "items" (Node.below path (Node.depth node))) ↔
      Node.isArray (Node.last node) = true) ∧
    (Node.isArray (Node.last node) = false → ∀ place,
      ofNode naming path node = arrays (Node.depth node) <$> ofNode naming place (Node.last node) ∧
      (∀ type, ofNode naming place (Node.last node) = .ok type → type.kind ≠ .array) ∧
      (FormsNames naming → ∃ type, ofNode naming place (Node.last node) = .ok type)) ∧
    ∀ type, ofNode naming path node = .ok type → type.WellFormed := by
  have whole := ofNode_eq naming path node
  refine ⟨?_, ?_, fun type resolved => wellFormed_of_ofNode resolved⟩
  · constructor
    · intro fails
      by_contra noArray
      rw [Bool.not_eq_true] at noArray
      rw [whole] at fails
      cases given : ofNode naming (Node.below path (Node.depth node)) (Node.last node) with
      | error fault =>
        rw [given] at fails
        cases fails
        exact ofNode_ne_missing noArray _ _ given
      | ok type =>
        rw [given] at fails
        cases fails
    · intro isArray
      rw [whole, ofNode_of_no_items isArray (Node.items?_last node)]
      rfl
  · intro noArray place
    refine ⟨?_, fun type => kind_of_not_isArray noArray, fun names => exists_type names noArray⟩
    rw [whole, ofNode_of_not_isArray noArray place]

/-- An array of given items. -/
def rowNode (item : Value) : Value := .obj [("type", .str "array"), ("items", item)]

/-- A reference that also says that it is an array. -/
def tagNode : Value := .obj [("$ref", .str "#/definitions/tag"), ("type", .str "array")]

/-- Rows of tags are two arrays around a reference, and rows of null lack items at the inner array. -/
theorem ofNode_along_items_rows :
    (∃ type, ofNode (.typed {}) "#" tagNode = .ok type ∧ type.kind ≠ .array ∧
      ofNode (.typed {}) "#/properties/grid" (rowNode (rowNode tagNode)) = .ok (array (array type))) ∧
    ofNode (.typed {}) "#/properties/grid" (rowNode (rowNode .null)) =
      .error (.missingKeyword "items" "#/properties/grid/items") := by
  have tags := @Node.alongItems_of_none tagNode rfl
  have tagRow := @Node.alongItems_of_some (rowNode tagNode) tagNode rfl
  have tagRows := @Node.alongItems_of_some (rowNode (rowNode tagNode)) (rowNode tagNode) rfl
  have nullRow := @Node.alongItems_of_none (rowNode .null) rfl
  have nullRows := @Node.alongItems_of_some (rowNode (rowNode .null)) (rowNode .null) rfl
  have ofTags := ofNode_along_items (.typed {}) "#/properties/grid" (rowNode (rowNode tagNode))
  have ofNull := ofNode_along_items (.typed {}) "#/properties/grid" (rowNode (rowNode .null))
  rw [tagRows.1, tagRows.2, tagRow.1, tagRow.2, tags.1, tags.2] at ofTags
  rw [nullRows.1, nullRows.2, nullRow.1, nullRow.2] at ofNull
  obtain ⟨whole, others, exists_⟩ := ofTags.2.1 rfl "#"
  obtain ⟨type, resolved⟩ := exists_ (formsNames_of_texts rfl rfl)
  rw [resolved] at whole
  exact ⟨⟨type, resolved, others type resolved, whole⟩, ofNull.1.mpr rfl⟩

end FieldType

end SchemaCodegen
