import SchemaCodegen.Document.Conditional

/-!
# Documents

A document that is no conditional schema holds models under its keys: a node that wraps a schema, a
node with properties, or a block of definitions. If it holds none, it may be a single schema itself.
`steps` lists what is done with each key; the models of a document and the remarks on it are both
read off that list.
-/

namespace SchemaCodegen

open Json (Value Members)

namespace Document

/-- What is done with an entry of a document. -/
inductive Step where
  /-- A model is formed from a node. -/
  | form (name : String) (node : Members) (description : Option String)
  /-- The entry is passed over with a remark. -/
  | pass (remark : Remark)

/-- What is done with the definitions of a block. -/
def definitionSteps (block : String) (definitions : Members) : List Step :=
  definitions.map fun (name, value) =>
    match value with
    | .obj node => .form s!"{block}_{name}" node none
    | _ => .pass ⟨.warning, .reading, s!"Skipping definition {block}_{name}: not an object"⟩

/-- What is done with one entry. -/
def entrySteps (name : String) (node : Members) : List Step :=
  match Entries.get? node "schema" with
  | some schema =>
    match schema with
    | .obj inner =>
      if Entries.has inner "properties" then [.form name inner (Node.text? node "description")]
      else [.pass ⟨.debug, .reading, s!"Skipping {name}: its schema has no properties"⟩]
    | _ => [.pass ⟨.debug, .reading, s!"Skipping {name}: its schema has no properties"⟩]
  | none =>
    if Entries.has node "properties" then [.form name node none]
    else
      match Entries.get? node "definitions" with
      | some (.obj definitions) => definitionSteps name definitions
      | some _ => [.pass ⟨.warning, .reading, s!"Skipping {name}: definitions is not an object"⟩]
      | none => []

/-- What is done with the entries of a document, in order. Only objects count. -/
def steps (document : Members) : List Step :=
  document.flatMap fun (name, value) =>
    match value with
    | .obj node => entrySteps name node
    | _ => []

/-- The models that steps form. -/
def form (naming : Setting Naming) : List Step → Outcome (List Model)
  | [] => .ok []
  | .pass _ :: rest => form naming rest
  | .form name node description :: rest => do
    let model ← Model.ofNode naming name name node description
    return model :: (← form naming rest)

/-- The remarks of steps, up to the first that fails. -/
def stepRemarks (naming : Setting Naming) : List Step → List Remark
  | [] => []
  | .pass remark :: rest => remark :: stepRemarks naming rest
  | .form name node description :: rest =>
    match Model.ofNode naming name name node description with
    | .ok _ => stepRemarks naming rest
    | .error _ => []

/-- The model of a document that is itself a schema. -/
def root (naming : Setting Naming) (document : Members) : Outcome Model := do
  let name := Conditional.titleOr document (← naming.conventions).rootName
  Model.ofNode naming (← Conditional.nameText name) name.display document

/-- Whether a document without models of its own is read as a single schema. -/
def isRoot (document : Members) (models : List Model) : Bool :=
  models.isEmpty && document.has "properties"

/-- The models of a document that is an object. -/
def models (config : Config) (document : Members) : Outcome (List Model) := do
  if Conditional.isConditional document then Conditional.split config document
  else
    let models ← form config.naming (steps document)
    if isRoot document models then return [← root config.naming document] else return models

/-- What a document says about itself. -/
def metadata (document : Members) : Option Value :=
  let found := ["title", "description", "$id"].filterMap fun key =>
    (Entries.get? document key).map (key, ·)
  if found.isEmpty then none else some (.obj found)

end Document

/-- The schema of a document. A document that is no object has no models. -/
def Schema.ofDocument (config : Config) : Value → Outcome Schema
  | .obj document => do
    return {
      models := ← Document.models config document
      version := Node.text? document "$schema"
      metadata := Document.metadata document }
  | _ => .ok {}

namespace Document

/-! ## Remarks -/

/-- That a document is read as a single schema. -/
def rootRemarks (naming : Setting Naming) (document : Members) : List Remark :=
  match form naming (steps document), naming.conventions with
  | .ok models, .ok conventions =>
    if isRoot document models then
      let name := (Conditional.titleOr document conventions.rootName).display
      [⟨.debug, .reading, s!"Parsing document as a single schema named {name}"⟩]
    else []
  | _, _ => []

/-- What is noted while a document is read. -/
def remarks (config : Config) : Value → List Remark
  | .obj document =>
    if Conditional.isConditional document then
      ⟨.debug, .reading, "Parsing document as a conditional schema"⟩ ::
        Conditional.remarks config document
    else
      stepRemarks config.naming (steps document) ++ rootRemarks config.naming document
  | _ => [⟨.debug, .reading, "Schema document is not an object, no models produced"⟩]

end Document

end SchemaCodegen
