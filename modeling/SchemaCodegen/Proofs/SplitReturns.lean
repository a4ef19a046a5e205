import SchemaCodegen.Proofs.Closure
import SchemaCodegen.Proofs.Identifiers
import SchemaCodegen.Proofs.Places
import SchemaCodegen.Proofs.ReadAnnotations
import SchemaCodegen.Proofs.Renderable
import SchemaCodegen.Proofs.RoundTrip

/-!
# When one unit for each model is returned

Nothing that keeps a model of a document from being rendered is reported of it: the whole rendering
fails then, and the other models have no unit either. So one unit for each model is returned exactly
if each model can be rendered. Under names as by default all models can, unless a reference begins
with a digit or too many brackets are open in an annotation.
-/

namespace SchemaCodegen

open Json (Value Members)

/-! ## The last write -/

namespace Entries

variable {α : Type}

theorem get?_putAll_of_not_mem {writes : List (String × α)} {entries : Entries α} {key : String}
    (free : key ∉ writes.map Prod.fst) : (entries.putAll writes).get? key = entries.get? key := by
  induction writes generalizing entries with
  | nil => rfl
  | cons write rest ih =>
    obtain ⟨other, later⟩ := not_or.mp (List.mem_cons.not.mp free)
    rw [putAll_cons, ih later, get?_put, if_neg (Ne.symm other)]

/-- What was written last at a key is there. -/
theorem get?_putAll_of_last {before after : List (String × α)} {entries : Entries α} {key : String}
    (value : α) (free : key ∉ after.map Prod.fst) :
    (entries.putAll (before ++ (key, value) :: after)).get? key = some value := by
  induction before generalizing entries with
  | nil => rw [List.nil_append, putAll_cons, get?_putAll_of_not_mem free, get?_put, if_pos rfl]
  | cons write rest ih => rw [List.cons_append, putAll_cons, ih]

end Entries

/-! ## Names as by default -/

namespace Words

theorem toNat_lt_of_isPart {c : Char} (part : isPart c = true) : c.toNat < 128 := by
  simp only [isPart, Bool.or_eq_true] at part
  rcases part with (upper | lower) | digit
  · have bounds : 65 ≤ c.toNat ∧ c.toNat ≤ 90 := by
      simpa [Char.isUpper, UInt32.le_iff_toNat_le] using upper
    omega
  · have bounds := isLower_iff.mp lower
    omega
  · have bounds := Char.isDigit_iff_toNat.mp digit
    have nine : '9'.toNat = 57 := rfl
    omega

/-- A text of letters and digits that begins with a letter is an identifier. -/
theorem isIdentifier_of_isPart {text : List Char} (some_ : text ≠ [])
    (parts : ∀ c ∈ text, isPart c = true) (noDigit : ∀ c ∈ text.head?, c.isDigit = false) :
    Text.isIdentifier text = true := by
  obtain ⟨first, rest, rfl⟩ := List.exists_cons_of_ne_nil some_
  obtain ⟨isFirst, areParts⟩ := List.forall_mem_cons.mp parts
  have letter : first.isAlpha = true := by
    simpa [isPart, noDigit first rfl, Char.isAlpha] using isFirst
  have follow : ∀ c ∈ rest, Text.isIdentifierPart c = true := by
    intro c isLater
    have part := areParts c isLater
    rw [Text.isIdentifierPart, if_pos (toNat_lt_of_isPart part)]
    simp only [isPart] at part
    simp [Char.isAlphanum, Char.isAlpha, part]
  rw [Text.isIdentifier, Text.isIdentifierStart, if_pos (toNat_lt_of_isPart isFirst), letter,
    Bool.true_or, Bool.true_and, List.all_eq_true]
  exact follow

end Words

/-- A class name by default has letters and digits only. -/
theorem Naming.isPart_of_mem_className {raw name : String} (named : className {} raw = .ok name)
    {c : Char} (isIn : c ∈ name.toList) : Words.isPart c = true := by
  obtain ⟨ending, _, ofEnd, ofNoEnd⟩ := withNewEnding_eq_ok named
  cases isEnd : Ending.isEndOf ending (Words.pascalCase raw) with
  | true =>
    obtain ⟨replacement, replaced, rfl⟩ := ofEnd isEnd
    cases replaced
    rw [Ending.replaced, String.toList_ofList, List.mem_append] at isIn
    rcases isIn with isBefore | isBehind
    · have isWhole : c ∈ (Words.pascalCase raw).toList := by
        unfold Ending.before at isBefore
        split at isBefore
        · cases isBefore
        · exact List.mem_of_mem_take isBefore
      rw [Words.toList_pascalCase] at isWhole
      exact Words.isPart_of_mem_pascal isWhole
    · have parts : "AdapterParams".toList.all Words.isPart = true := by decide
      exact List.all_eq_true.mp parts c isBehind
  | false =>
    obtain rfl := ofNoEnd isEnd
    rw [Words.toList_pascalCase] at isIn
    exact Words.isPart_of_mem_pascal isIn

namespace Python

/-- The keywords that begin with a large letter are constants. -/
theorem isSome_word? {name : String} (capital : ∀ c ∈ name.toList.head?, c.isLower = false) :
    (Reading.word? name).isSome = true := by
  have small : keywords.all (fun word => word = "None" || word = "True" || word = "False" ||
      word.toList.head?.any Char.isLower) = true := by
    decide
  by_cases reserved : isKeyword name = true
  · have begins := List.all_eq_true.mp small name (List.contains_iff_mem.mp reserved)
    simp only [Bool.or_eq_true, decide_eq_true_eq, Option.any_eq_true] at begins
    rcases begins with ((rfl | rfl) | rfl) | ⟨c, first, isSmall⟩
    · rfl
    · rfl
    · rfl
    · rw [capital c first] at isSmall
      cases isSmall
  · rw [Reading.word?, if_neg reserved]
    split
    · rfl
    · split
      · rfl
      · split <;> rfl

theorem isSome_baseExpr? {kind : Kind} {target : Option String}
    (named : ∀ name ∈ (FieldType.plain kind target).referenced?,
      (Reading.word? name).isSome = true) : (baseExpr? kind target).isSome = true := by
  unfold baseExpr?
  split
  next => rfl
  next noMap =>
    cases referenced : (FieldType.plain kind target).referenced? with
    | none =>
      rw [baseType, referenced]
      cases kind <;> decide
    | some name =>
      obtain ⟨rfl, _⟩ := FieldType.referenced_eq_some referenced
      rw [baseType, referenced]
      exact named name referenced

/-- Under names as by default, the annotation of a field whose reference does not begin with a digit
can be read exactly if no more than two hundred brackets are open at once. -/
theorem exists_writes_of_ofNode {field : Field} {path : String} {node : Value}
    (resolved : FieldType.ofNode (.typed {}) path node = .ok field.type)
    (noDigit : ∀ name ∈ field.type.references, ∀ c ∈ name.toList.head?, c.isDigit = false) :
    (∃ type, Writes field type) ↔ brackets field.type ≤ 200 := by
  -- what is referred to has a class name, so it is an identifier and stands for an expression
  have named : ∀ name ∈ field.type.coreReference?, Text.isIdentifier name.toList = true ∧
      (Reading.word? name).isSome = true := by
    intro name isCore
    have refers : name ∈ field.type.references := by
      rw [FieldType.references_eq_core]
      exact Option.mem_toList.mpr isCore
    have inner := refers
    rw [FieldType.references_eq, Option.mem_toList, Option.filter_eq_some_iff] at inner
    obtain ⟨raw, className⟩ := FieldType.exists_className_of_ofNode resolved inner.1
    have some_ : name.toList ≠ [] :=
      fun none_ => of_decide_eq_true inner.2 (String.toList_eq_nil_iff.mp none_)
    have parts := fun c => @Naming.isPart_of_mem_className raw name className c
    exact ⟨Words.isIdentifier_of_isPart some_ parts (noDigit name refers),
      isSome_word? fun _ first => Naming.isLower_head_className className first⟩
  rw [exists_writes_iff fun name isCore => (named name isCore).1, and_iff_right]
  exact isSome_baseExpr? fun name isCore => (named name isCore).2

end Python

/-! ## What is read from a document -/

/-- Whether a model has the fields of some node. -/
def Model.HasFieldsOfNode (naming : Setting Naming) (model : Model) : Prop :=
  ∃ name label members description read,
    Model.ofNode naming name label members description = .ok read ∧ read.fields = model.fields

/-- The three models of a conditional schema differ from what is read in their marks only. -/
theorem Conditional.hasFieldsOfNode {config : Config} {members : Members} {models : List Model}
    (formed : Conditional.split config members = .ok models) :
    ∀ model ∈ models, model.HasFieldsOfNode config.naming := by
  obtain ⟨names, _, formed⟩ := Outcome.bind_eq_ok.mp formed
  split at formed
  next =>
    cases formed
    exact nofun
  next =>
    obtain ⟨title, base, first, second, _, ofBase, ofFirst, ofSecond, rfl⟩ :=
      Conditional.models_eq_ok formed
    simp only [List.forall_mem_cons]
    exact ⟨⟨_, _, _, _, base, ofBase, rfl⟩, ⟨_, _, _, _, first, ofFirst, rfl⟩,
      ⟨_, _, _, _, second, ofSecond, rfl⟩, nofun⟩

/-- Every model of a document has the fields of a node. -/
theorem Schema.hasFieldsOfNode {config : Config} {document : Value} {schema : Schema}
    (parsed : Schema.ofDocument config document = .ok schema) :
    ∀ model ∈ schema.models, model.HasFieldsOfNode config.naming := by
  cases document with
  | obj members =>
    obtain ⟨models, formed, same⟩ := Outcome.bind_eq_ok.mp parsed
    cases same
    unfold Document.models at formed
    split at formed
    next => exact Conditional.hasFieldsOfNode formed
    next =>
      obtain ⟨found, ofSteps, formed⟩ := Outcome.bind_eq_ok.mp formed
      split at formed
      next =>
        obtain ⟨root, ofRoot, same⟩ := Outcome.bind_eq_ok.mp formed
        cases same
        obtain ⟨conventions, _, ofRoot⟩ := Outcome.bind_eq_ok.mp ofRoot
        obtain ⟨name, _, ofNode⟩ := Outcome.bind_eq_ok.mp ofRoot
        exact List.forall_mem_singleton.mpr ⟨_, _, _, _, root, ofNode, rfl⟩
      next =>
        cases formed
        intro model isModel
        obtain ⟨_, _, _, ofNode⟩ := Outcome.exists_left (Document.form_eq_ok ofSteps) isModel
        exact ⟨_, _, _, _, model, ofNode, rfl⟩
  | _ =>
    cases parsed
    exact nofun

/-- The type of every field of a document is that of some property. -/
theorem Schema.exists_type {config : Config} {document : Value} {schema : Schema}
    (parsed : Schema.ofDocument config document = .ok schema) {model : Model}
    (isModel : model ∈ schema.models) {field : Field} (isField : field ∈ model.fields) :
    ∃ path node, FieldType.ofNode config.naming.namer path node = .ok field.type := by
  obtain ⟨name, label, members, description, read, ofNode, same⟩ := hasFieldsOfNode parsed model isModel
  rw [← same] at isField
  obtain ⟨_, _, _, each⟩ := Model.ofNode_eq_ok ofNode
  obtain ⟨⟨node, _, resolved, _⟩, _⟩ := each field isField
  exact ⟨"", node, resolved "" ⟩

theorem Config.HasTextRules.exists_stem {config : Config} (textRules : config.HasTextRules)
    (name : String) : ∃ stem, config.stem name = .ok stem := by
  obtain ⟨naming, rules, isNamer, isTyped, texts⟩ := textRules
  exact Config.exists_stem isNamer isTyped texts name

theorem Config.hasTextRules_of_default {config : Config} (byDefault : config.naming = .typed {}) :
    config.HasTextRules := by
  refine ⟨{}, _, ?_, rfl, ?_⟩
  · rw [Config.namer, byDefault]
    rfl
  · simp only [List.forall_mem_cons]
    exact ⟨⟨_, rfl⟩, ⟨_, rfl⟩, nofun⟩

namespace Generation

/-- Under names as by default, a model without references that begin with a digit can be rendered
unless too many brackets are open in an annotation, or the formatting tool cannot be asked. -/
theorem isRenderable_iff {generation : Generation} {tool : Option Formatter} {model : Model}
    (byDefault : generation.config.naming = .typed {}) {document : Value}
    (parsed : Schema.ofDocument generation.config document = .ok generation.schema)
    (isModel : model ∈ generation.schema.models)
    (noDigit : ∀ name ∈ model.references, ∀ c ∈ name.toList.head?, c.isDigit = false) :
    generation.IsRenderable tool model ↔
      (generation.config.language = .python →
        ∀ field ∈ model.fields, Python.brackets field.type ≤ 200) ∧ generation.CanFormat tool := by
  have written : model.IsWritable generation.config ↔ (generation.config.language = .python →
      ∀ field ∈ model.fields, Python.brackets field.type ≤ 200) := by
    refine imp_congr_right fun _ => forall₂_congr fun field isField => ?_
    obtain ⟨path, node, resolved⟩ := Schema.exists_type parsed isModel isField
    rw [byDefault] at resolved
    apply Python.exists_writes_of_ofNode resolved
    intro name refers
    apply noDigit name
    rw [Model.references, Model.mem_distinct, List.mem_flatMap]
    exact ⟨field, List.mem_append_left _ isField, refers⟩
  have stems := (Config.hasTextRules_of_default byDefault).exists_stem
  rw [← written]
  constructor
  · intro renders
    exact ⟨renders.written, renders.formatted⟩
  · rintro ⟨written, formats⟩
    exact ⟨written, fun name _ => stems name, formats⟩

/-- The unit of a model without arms is in a split, unless a later model has its stem. -/
theorem exists_unit {generation : Generation} {tool : Option Formatter} {output : Option String}
    {result : Result} (returns : generation.split tool output = .ok result) {model : Model}
    (flat : model.IsFlat) {before after : List Model}
    (parted : generation.schema.models = before ++ model :: after) :
    ∃ stem code, generation.config.stem model.name = .ok stem ∧
      generation.modelCode tool output model stem = .ok code ∧
        ((∀ later ∈ after, generation.config.stem later.name ≠ .ok stem) →
          result.files.get? stem = some code) := by
  obtain ⟨units, given, isFiles, _⟩ := split_eq_ok returns
  have each := Outcome.mapM_eq_ok.mp given
  rw [parted] at each
  obtain ⟨unitsBefore, others, rfl, ofRest⟩ := Outcome.exists_parted each
  obtain ⟨unit, unitsAfter, ofModel, ofAfter, rfl⟩ := List.forall₂_cons_left_iff.mp ofRest
  obtain ⟨code, isOk, coded⟩ := code_of_flat flat ofModel
  refine ⟨unit.stem, code, (modelUnit_eq_ok ofModel).2, coded, ?_⟩
  intro noLater
  have isFile : unit.file? = some (unit.stem, code) := by rw [ModelUnit.file?, isOk]
  rw [isFiles, List.filterMap_append, List.filterMap_cons, isFile]
  -- a later file at this stem would be that of a later model
  apply Entries.get?_putAll_of_last
  intro isKey
  obtain ⟨file, isLater, same⟩ := List.mem_map.mp isKey
  obtain ⟨other, isUnit, ofUnit⟩ := List.mem_filterMap.mp isLater
  obtain ⟨later, isModel, ofLater⟩ := Outcome.exists_left ofAfter isUnit
  rcases other.file_or_fault with ⟨text, _, isFile, _⟩ | ⟨_, _, noFile, _⟩
  · rw [isFile] at ofUnit
    cases ofUnit
    apply noLater later isModel
    rw [(modelUnit_eq_ok ofLater).2, ← same]
  · rw [noFile] at ofUnit
    cases ofUnit

/-- What is read from a document has one unit for each model exactly if each model can be rendered: a
model that cannot keeps the others from it and is not reported. Then each model has its unit, unless a
later one has its stem. In Dart there always are units, if the rules on stems are texts. Under names
as by default each model can be rendered whose references do not begin with a digit, unless more than
two hundred brackets are open in an annotation of Python or the formatting tool cannot be asked. -/
theorem ofDocument_split {name : String} {config : Config} {document : Value}
    {generation : Generation} (formed : ofDocument name config document = .ok generation)
    (tool : Option Formatter) (output : Option String) :
    ((∃ result, generation.split tool output = .ok result) ↔
      ∀ model ∈ generation.schema.models, generation.IsRenderable tool model) ∧
    (∀ result, generation.split tool output = .ok result → result.faults = [] ∧
      ∀ before model after, generation.schema.models = before ++ model :: after →
        ∃ stem code, config.stem model.name = .ok stem ∧
          generation.modelCode tool output model stem = .ok code ∧
            ((∀ later ∈ after, config.stem later.name ≠ .ok stem) →
              result.files.get? stem = some code)) ∧
    (config.language = .dart → config.HasTextRules →
      ∃ result, generation.split tool output = .ok result) ∧
    (config.naming = .typed {} → ∀ model ∈ generation.schema.models,
      (∀ name ∈ model.references, ∀ c ∈ name.toList.head?, c.isDigit = false) →
        (generation.IsRenderable tool model ↔
          (config.language = .python →
            ∀ field ∈ model.fields, Python.brackets field.type ≤ 200) ∧
            generation.CanFormat tool)) := by
  obtain ⟨schema, parsed, ofSchema⟩ := Outcome.bind_eq_ok.mp formed
  have isParsed := Schema.isParsed_of_document parsed
  obtain rfl := schema_of_ofSchema isParsed.normalize ofSchema
  obtain rfl := config_of_ofSchema ofSchema
  have flat : ∀ model ∈ generation.schema.models, model.IsFlat :=
    fun model isModel => (isParsed.models model isModel).noVariants
  have renders := @exists_split generation tool output flat
  refine ⟨renders, ?_, ?_, ?_⟩
  · intro result returns
    refine ⟨@faults_eq_nil generation tool true output result flat returns, ?_⟩
    intro before model after parted
    exact exists_unit returns (flat model (by rw [parted]; simp)) parted
  · intro isDart textRules
    rw [renders]
    intro model _
    refine ⟨?_, fun name _ => textRules.exists_stem name, ?_⟩
    · intro isPython
      rw [isDart] at isPython
      cases isPython
    · exact canFormat_of_unformatted (formatting_of_ofSchema ofSchema isDart) tool
  · intro byDefault model isModel noDigit
    exact isRenderable_iff byDefault parsed isModel noDigit

/-- A task with a list of tags and an owner, and the persons that own tasks. -/
def ownedDocument : Value :=
  .obj [
    ("task", .obj [("properties", .obj [
      ("tags", .obj [("type", .str "array"), ("items", .obj [("type", .str "string")])]),
      ("owner", .obj [("$ref", .str "#/person")])])]),
    ("person", .obj [("properties", .obj [])])]

/-- Both models of the owned task have their units in Python. -/
theorem ofDocument_split_owned : ∃ generation result,
    ofDocument "owned" { language := .python } ownedDocument = .ok generation ∧
      generation.split none none = .ok result ∧ result.faults = [] ∧
      generation.schema.names = ["Task", "Person"] ∧
      (result.files.get? "task").isSome = true ∧ (result.files.get? "person").isSome = true := by
  have isOk : Outcome.any (ofDocument "owned" { language := .python } ownedDocument)
      (fun generation => generation.schema.names = ["Task", "Person"] &&
        generation.schema.models.all fun model =>
          (model.references.all fun name => name.toList.head?.all (!·.isDigit)) &&
            model.fields.all (Python.brackets ·.type ≤ 200)) = true := by
    decide +kernel
  obtain ⟨generation, formed, isOk⟩ := Outcome.any_iff.mp isOk
  simp only [Bool.and_eq_true, decide_eq_true_eq, List.all_eq_true, Option.all_eq_true,
    Bool.not_eq_true'] at isOk
  obtain ⟨names, each⟩ := isOk
  obtain ⟨returnsIff, holds, _, byDefault⟩ := ofDocument_split formed none none
  have renders : ∀ model ∈ generation.schema.models, generation.IsRenderable none model := by
    intro model isModel
    obtain ⟨noDigit, few⟩ := each model isModel
    exact (byDefault rfl model isModel noDigit).mpr ⟨fun _ => few, nofun⟩
  obtain ⟨result, returns⟩ := returnsIff.mpr renders
  obtain ⟨noFaults, units⟩ := holds result returns
  obtain ⟨task, others, isCons, isTask, isOthers⟩ := List.map_eq_cons_iff.mp names
  obtain ⟨person, rest, rfl, isPerson, isRest⟩ := List.map_eq_cons_iff.mp isOthers
  obtain rfl := List.map_eq_nil_iff.mp isRest
  refine ⟨generation, result, formed, returns, noFaults, names, ?_, ?_⟩
  · obtain ⟨stem, code, stemmed, _, kept⟩ := units [] task [person] isCons
    rw [isTask] at stemmed
    obtain rfl : "task" = stem := Except.ok.inj stemmed
    rw [kept]
    · rfl
    · rw [List.forall_mem_singleton, isPerson]
      decide +kernel
  · obtain ⟨stem, code, stemmed, _, kept⟩ := units [task] person [] isCons
    rw [isPerson] at stemmed
    obtain rfl : "person" = stem := Except.ok.inj stemmed
    rw [kept nofun]
    rfl

/-- A task that refers to a model whose name begins with a digit, and a job beside it. -/
def digitDocument : Value :=
  .obj [
    ("task", .obj [("properties", .obj [("owner", .obj [("$ref", .str "#/3d")])])]),
    ("job", .obj [("properties", .obj [])])]

/-- The job could be rendered on its own, but there are no units in Python: the name `3D` in the
annotation of the task is no expression, and that is not reported of the task alone. -/
theorem split_stops_at_digit : ∃ generation,
    ofDocument "tasks" { language := .python } digitDocument = .ok generation ∧
      generation.schema.names = ["Task", "Job"] ∧
      generation.split none none = .error .notAnExpression ∧
      ∃ job ∈ generation.schema.models, job.name = "Job" ∧
        ∃ unit, generation.modelUnit none none job = .ok unit ∧ unit.code.isOk = true := by
  have run : Outcome.any (ofDocument "tasks" { language := .python } digitDocument)
      (fun generation => generation.schema.names = ["Task", "Job"] &&
        (generation.split none none).map (fun _ => ()) = .error .notAnExpression &&
        generation.schema.models.any fun job => job.name = "Job" &&
          Outcome.any (generation.modelUnit none none job) (·.code.isOk)) = true := by
    decide +kernel
  obtain ⟨generation, formed, run⟩ := Outcome.any_iff.mp run
  simp only [Bool.and_eq_true, decide_eq_true_eq, List.any_eq_true, Outcome.any_iff] at run
  obtain ⟨⟨names, fails⟩, alone⟩ := run
  refine ⟨generation, formed, names, ?_, alone⟩
  cases given : generation.split none none with
  | ok result =>
    rw [given] at fails
    cases fails
  | error fault =>
    rw [given] at fails
    cases fails
    rfl

end Generation

end SchemaCodegen
