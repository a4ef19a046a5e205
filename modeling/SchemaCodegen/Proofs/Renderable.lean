import SchemaCodegen.Proofs.Parsed
import SchemaCodegen.Proofs.Splitting
import SchemaCodegen.Proofs.Units
import SchemaCodegen.Proofs.WrittenTypes

/-!
# What was read can be rendered

The only fault that a rendering reports of a model is that of a union, and what is read from a
document has none. So nothing is reported of it, in either language. In Dart nothing else can fail but
the forming of a stem, so it is rendered exactly if the stems that are asked for can be formed; they
always can by rules that are texts. In Python the annotations of the fields must be expressions, too,
and the formatting tool must know what it is asked for.
-/

namespace SchemaCodegen

open Outcome (FailsBy failsBy_ok failsBy_error)

/-! ## Faults that are not reported -/

/-- A fault that is not one of the schema or its output. -/
def Fault.IsUnreported (fault : Fault) : Prop := fault.isReported = false

theorem failsBy_conventions (naming : Setting Naming) :
    FailsBy Fault.IsUnreported naming.conventions := by
  cases naming with
  | typed conventions => exact failsBy_ok conventions
  | untyped found => exact failsBy_error rfl

theorem failsBy_applyRules (rules : Entries (Setting String)) (stem : String) :
    FailsBy Fault.IsUnreported (Naming.applyRules rules stem) := by
  induction rules with
  | nil => exact failsBy_ok stem
  | cons rule rest ih =>
    obtain ⟨ending, replacement⟩ := rule
    rw [Naming.applyRules]
    split
    next =>
      cases replacement with
      | typed text => exact failsBy_ok _
      | untyped found => exact failsBy_error rfl
    next => exact ih

theorem failsBy_stem (config : Config) (name : String) :
    FailsBy Fault.IsUnreported (config.stem name) := by
  apply (failsBy_conventions _).bind
  intro naming _
  unfold Naming.fileStem
  split
  next rules _ => exact failsBy_applyRules rules _
  next => exact failsBy_error rfl

/-- Imports fail where a stem does. -/
theorem failsBy_imports {α : Type} {config : Config} {form : String → String → α}
    (names : List String) :
    FailsBy Fault.IsUnreported (names.mapM fun name => do
      return form name (← config.stem name)) := by
  apply FailsBy.mapM
  intro name _
  apply (failsBy_stem config name).bind
  intro stem _
  exact failsBy_ok _

theorem Formatting.failsBy_apply (formatting : Formatting) (tool : Option Formatter)
    (code : String) : FailsBy Fault.IsUnreported (formatting.apply tool code) := by
  cases tool with
  | none => exact failsBy_ok code
  | some tool =>
    have versions : FailsBy Fault.IsUnreported (formatting.requestedVersions tool.versions) := by
      unfold requestedVersions
      split
      next => exact failsBy_ok []
      next =>
        split
        next => exact failsBy_ok _
        next => exact failsBy_error rfl
    apply FailsBy.bind
    · apply versions.bind
      intro versions _
      exact failsBy_ok _
    · intro request _
      exact failsBy_ok _

/-! ## Models without arms -/

namespace Model

/-- A model that is no union. -/
def IsFlat (model : Model) : Prop := model.variants = none

theorem IsFlat.isUnion {model : Model} (flat : model.IsFlat) : model.isUnion = false := by
  rw [Model.isUnion, flat]
  rfl

theorem IsFlat.flattened {model : Model} (flat : model.IsFlat) : model.flattened = model.fields := by
  rw [Model.flattened, Model.arms, flat]
  rfl

/-- Whether the fields of a model can be written: in Python their annotations must be expressions. -/
def IsWritable (config : Config) (model : Model) : Prop :=
  config.language = .python → ∀ field ∈ model.fields, ∃ type, Python.Writes field type

end Model

theorem Dart.exists_classOf {config : Config} {model : Model} (flat : model.IsFlat) :
    ∃ cls, Dart.classOf config model = .ok cls := by
  unfold Dart.classOf
  rw [flat.isUnion]
  split
  next => exact ⟨_, rfl⟩
  next => exact ⟨_, rfl⟩

namespace Python

theorem failsBy_fieldPart (config : Config) (field : Field) :
    FailsBy Fault.IsUnreported (fieldPart config field) := by
  have reading : FailsBy Fault.IsUnreported (Expr.read (nullableType field.type field.nullable)) := by
    unfold Expr.read
    split
    next => exact failsBy_error rfl
    next =>
      split
      next e _ => exact failsBy_ok e
      next => exact failsBy_error rfl
  apply reading.bind
  intro type _
  exact failsBy_ok _

/-- The classes of a model without arms fail where the annotation of a field cannot be read. -/
theorem failsBy_classesOf {config : Config} {model : Model} (flat : model.IsFlat) :
    FailsBy Fault.IsUnreported (classesOf config model) := by
  have fieldsFail : ∀ fields : List Field, FailsBy Fault.IsUnreported
      (fields.mapM fun field => fieldPart config field) := by
    intro fields
    apply FailsBy.mapM
    intro field _
    exact failsBy_fieldPart config field
  have plainFails : FailsBy Fault.IsUnreported (plainClass config model) := by
    apply (fieldsFail model.flattened).bind
    intro parts _
    exact failsBy_ok _
  have dataFails : FailsBy Fault.IsUnreported (dataClass config model) := by
    apply (fieldsFail model.fields).bind
    intro parts _
    exact failsBy_ok _
  unfold classesOf
  rw [flat.isUnion]
  split
  next =>
    apply plainFails.bind
    intro cls _
    exact failsBy_ok _
  next =>
    apply dataFails.bind
    intro cls _
    exact failsBy_ok _

theorem exists_fieldPart {config : Config} {field : Field} :
    (∃ part, fieldPart config field = .ok part) ↔ ∃ type, Writes field type := by
  unfold fieldPart
  rw [Outcome.exists_bind]
  exact exists_congr fun type => and_iff_left_of_imp fun _ => ⟨_, rfl⟩

/-- A model without arms has its classes exactly if each annotation can be read. -/
theorem exists_classesOf {config : Config} {model : Model} (flat : model.IsFlat) :
    (∃ classes, classesOf config model = .ok classes) ↔
      ∀ field ∈ model.fields, ∃ type, Writes field type := by
  have fields : (∃ parts, (model.fields.mapM fun field => fieldPart config field) = .ok parts) ↔
      ∀ field ∈ model.fields, ∃ type, Writes field type := by
    rw [Outcome.exists_mapM]
    exact forall₂_congr fun _ _ => exists_fieldPart
  unfold classesOf
  rw [flat.isUnion]
  split
  next =>
    rw [plainClass, flat.flattened, ← fields]
    simp only [Outcome.bind_eq_ok]
    exact ⟨fun ⟨_, _, ⟨parts, given, _⟩, _⟩ => ⟨parts, given⟩,
      fun ⟨parts, given⟩ => ⟨_, _, ⟨parts, given, rfl⟩, rfl⟩⟩
  next =>
    rw [if_neg Bool.false_ne_true, dataClass, ← fields]
    simp only [Outcome.bind_eq_ok]
    exact ⟨fun ⟨_, _, ⟨parts, given, _⟩, _⟩ => ⟨parts, given⟩,
      fun ⟨parts, given⟩ => ⟨_, _, ⟨parts, given, rfl⟩, rfl⟩⟩

end Python

theorem Model.IsFlat.exists_declarationsOf {config : Config} {model : Model} (flat : model.IsFlat) :
    (∃ list, declarationsOf config model = .ok list) ↔ model.IsWritable config := by
  unfold declarationsOf Model.IsWritable
  cases config.language with
  | dart =>
    obtain ⟨cls, ofModel⟩ := @Dart.exists_classOf config model flat
    rw [ofModel]
    exact ⟨fun _ => nofun, fun _ => ⟨_, rfl⟩⟩
  | python =>
    simp only [Outcome.map_eq_ok, true_imp_iff]
    rw [← Python.exists_classesOf flat]
    exact ⟨fun ⟨_, classes, given, _⟩ => ⟨classes, given⟩,
      fun ⟨classes, given⟩ => ⟨_, classes, given, rfl⟩⟩

section Units

variable {config : Config} {models : List Model} (flat : ∀ model ∈ models, model.IsFlat)
include flat

/-- No fault of a unit of models without arms is reported. -/
theorem failsBy_renderUnit (fileStem : String) (atHand : List String) :
    FailsBy Fault.IsUnreported (renderUnit config models fileStem atHand) := by
  apply FailsBy.map
  rw [Backend.draft_fst]
  unfold Draft.ofModels
  split
  next =>
    apply FailsBy.map
    apply (failsBy_imports _).bind
    intro imports _
    apply FailsBy.bind
    · apply FailsBy.mapM
      intro model isModel
      obtain ⟨cls, ofModel⟩ := @Dart.exists_classOf config model (flat model isModel)
      rw [ofModel]
      exact failsBy_ok cls
    · intro classes _
      exact failsBy_ok _
  next =>
    apply FailsBy.map
    apply FailsBy.bind
    · apply FailsBy.mapM
      intro model isModel
      exact Python.failsBy_classesOf (flat model isModel)
    · intro classes _
      apply (failsBy_imports _).bind
      intro siblings _
      exact failsBy_ok _

/-- There is a unit of models without arms exactly if their fields can be written and the stems of
its imports can be formed. -/
theorem exists_renderUnit {fileStem : String} {atHand : List String} :
    (∃ code, renderUnit config models fileStem atHand = .ok code) ↔
      (∀ model ∈ models, model.IsWritable config) ∧
        ∀ name ∈ Model.imported models atHand, ∃ stem, config.stem name = .ok stem := by
  have written : (∃ code, renderUnit config models fileStem atHand = .ok code) ↔
      ∃ draft, Draft.ofModels config models fileStem atHand = .ok draft := by
    unfold renderUnit
    simp only [Backend.draft_fst, Outcome.map_eq_ok]
    exact ⟨fun ⟨_, draft, formed, _⟩ => ⟨draft, formed⟩,
      fun ⟨draft, formed⟩ => ⟨_, draft, formed, rfl⟩⟩
  rw [written, Draft.exists_ofModels, Outcome.exists_mapM]
  exact and_congr_left' (forall₂_congr fun model isModel => (flat model isModel).exists_declarationsOf)

end Units

/-! ## Renderings -/

namespace Generation

theorem failsBy_formatted (generation : Generation) (tool : Option Formatter) (code : String) :
    FailsBy Fault.IsUnreported (generation.formatted tool code) := by
  unfold formatted
  split
  next => exact failsBy_ok code
  next formatting _ => exact formatting.failsBy_apply tool code

theorem failsBy_modelCode {generation : Generation} {tool : Option Formatter}
    {output : Option String} {model : Model} (flat : model.IsFlat) (stem : String) :
    FailsBy Fault.IsUnreported (generation.modelCode tool output model stem) := by
  have alone : ∀ other ∈ [model], other.IsFlat := by simpa using flat
  apply (failsBy_renderUnit alone _ _).bind
  intro code _
  exact failsBy_formatted generation tool code

/-- A model without arms has a unit where it has any outcome. -/
theorem code_of_flat {generation : Generation} {tool : Option Formatter} {output : Option String}
    {model : Model} (flat : model.IsFlat) {unit : ModelUnit}
    (given : generation.modelUnit tool output model = .ok unit) :
    ∃ code, unit.code = .ok code ∧ generation.modelCode tool output model unit.stem = .ok code := by
  obtain ⟨stem, _, given⟩ := Outcome.bind_eq_ok.mp given
  cases ofModel : generation.modelCode tool output model stem with
  | ok code =>
    rw [ofModel] at given
    cases given
    exact ⟨code, rfl, ofModel⟩
  | error fault =>
    have unreported : fault.isReported = false := failsBy_modelCode flat stem fault ofModel
    rw [ofModel] at given
    simp only [unreported] at given
    cases given

/-- A model without arms has an outcome exactly if its stem can be formed and its unit rendered. -/
theorem exists_modelUnit {generation : Generation} {tool : Option Formatter}
    {output : Option String} {model : Model} (flat : model.IsFlat) :
    (∃ unit, generation.modelUnit tool output model = .ok unit) ↔
      ∃ stem, generation.config.stem model.name = .ok stem ∧
        ∃ code, generation.modelCode tool output model stem = .ok code := by
  constructor
  · rintro ⟨unit, given⟩
    obtain ⟨code, _, ofModel⟩ := code_of_flat flat given
    exact ⟨unit.stem, (modelUnit_eq_ok given).2, code, ofModel⟩
  · rintro ⟨stem, stemmed, code, ofModel⟩
    refine ⟨⟨model.name, stem, .ok code⟩, Outcome.bind_eq_ok.mpr ⟨stem, stemmed, ?_⟩⟩
    rw [ofModel]
    rfl

/-- Nothing is reported of models without arms. -/
theorem faults_eq_nil {generation : Generation} {tool : Option Formatter} {isSplit : Bool}
    {output : Option String} {result : Result}
    (flat : ∀ model ∈ generation.schema.models, model.IsFlat)
    (returns : generation.render tool isSplit output = .ok result) : result.faults = [] := by
  cases isSplit with
  | false =>
    obtain ⟨text, _, returns⟩ := Outcome.bind_eq_ok.mp returns
    obtain ⟨code, _, same⟩ := Outcome.bind_eq_ok.mp returns
    cases same
    rfl
  | true =>
    obtain ⟨units, given, _, isFaults⟩ := split_eq_ok returns
    have none_ : units.filterMap (·.fault?) = [] := by
      rw [List.filterMap_eq_nil_iff]
      intro unit isUnit
      obtain ⟨model, isModel, ofModel⟩ := Outcome.exists_left (Outcome.mapM_eq_ok.mp given) isUnit
      obtain ⟨code, isOk, _⟩ := code_of_flat (flat model isModel) ofModel
      rw [ModelUnit.fault?, isOk]
    rw [isFaults, none_]
    rfl

/-- The names whose stems are asked for: those of imports, and with one unit for each model those of
the models. -/
def stemNames (generation : Generation) (isSplit : Bool) : List String :=
  if isSplit then
    generation.schema.models.flatMap fun model =>
      model.name :: Model.imported [model] [model.name]
  else Model.imported generation.schema.models generation.schema.names

/-- Whether the formatting tool can be asked to format a unit, if units are handed to it. -/
def CanFormat (generation : Generation) (tool : Option Formatter) : Prop :=
  ∀ formatting ∈ generation.formatting, ∀ given ∈ tool,
    ∃ request, formatting.request given.versions = .ok request

theorem exists_formatted {generation : Generation} {tool : Option Formatter} {code : String} :
    (∃ text, generation.formatted tool code = .ok text) ↔ generation.CanFormat tool := by
  unfold formatted CanFormat
  cases generation.formatting with
  | none => exact ⟨fun _ => nofun, fun _ => ⟨code, rfl⟩⟩
  | some formatting =>
    unfold Formatting.apply
    cases tool with
    | none => exact ⟨fun _ _ _ => nofun, fun _ => ⟨code, rfl⟩⟩
    | some given =>
      simp only [Outcome.exists_bind, Option.mem_some_iff, forall_eq']
      exact exists_congr fun request => and_iff_left_of_imp fun _ => ⟨_, rfl⟩

theorem canFormat_of_unformatted {generation : Generation} (unformatted : generation.formatting = none)
    (tool : Option Formatter) : generation.CanFormat tool := by
  intro formatting isFormatting
  rw [unformatted] at isFormatting
  cases isFormatting

/-- What a model needs to be rendered on its own: its fields can be written, the stems of its name and
of what it imports can be formed, and the tool can be asked to format it. -/
structure IsRenderable (generation : Generation) (tool : Option Formatter) (model : Model) : Prop where
  written : model.IsWritable generation.config
  stems : ∀ name ∈ model.name :: Model.imported [model] [model.name],
    ∃ stem, generation.config.stem name = .ok stem
  formatted : generation.CanFormat tool

/-- A model without arms has an outcome exactly if it can be rendered. -/
theorem exists_modelUnit_iff {generation : Generation} {tool : Option Formatter}
    {output : Option String} {model : Model} (flat : model.IsFlat) :
    (∃ unit, generation.modelUnit tool output model = .ok unit) ↔
      generation.IsRenderable tool model := by
  have alone : ∀ other ∈ [model], other.IsFlat := by simpa using flat
  have coded : ∀ stem, (∃ code, generation.modelCode tool output model stem = .ok code) ↔
      (model.IsWritable generation.config ∧
        ∀ name ∈ Model.imported [model] [model.name],
          ∃ stem, generation.config.stem name = .ok stem) ∧ generation.CanFormat tool := by
    intro stem
    unfold modelCode
    simp only [Outcome.exists_bind, exists_formatted, exists_and_right, exists_renderUnit alone,
      List.forall_mem_singleton]
  rw [exists_modelUnit flat]
  simp only [coded, exists_and_right]
  constructor
  · rintro ⟨named, ⟨written, imports⟩, formats⟩
    exact ⟨written, List.forall_mem_cons.mpr ⟨named, imports⟩, formats⟩
  · rintro ⟨written, stems, formats⟩
    obtain ⟨named, imports⟩ := List.forall_mem_cons.mp stems
    exact ⟨named, ⟨written, imports⟩, formats⟩

/-- Models without arms have one unit each exactly if each can be rendered: what keeps one model from
it keeps them all. -/
theorem exists_split {generation : Generation} {tool : Option Formatter} {output : Option String}
    (flat : ∀ model ∈ generation.schema.models, model.IsFlat) :
    (∃ result, generation.split tool output = .ok result) ↔
      ∀ model ∈ generation.schema.models, generation.IsRenderable tool model := by
  rw [exists_split_iff]
  exact forall₂_congr fun model isModel => exists_modelUnit_iff (flat model isModel)

/-- In Dart models without arms are rendered exactly if all stems that are asked for can be formed. -/
theorem exists_render {generation : Generation} {tool : Option Formatter} {isSplit : Bool}
    {output : Option String} (isDart : generation.config.language = .dart)
    (unformatted : generation.formatting = none)
    (flat : ∀ model ∈ generation.schema.models, model.IsFlat) :
    (∃ result, generation.render tool isSplit output = .ok result) ↔
      ∀ name ∈ generation.stemNames isSplit, ∃ stem, generation.config.stem name = .ok stem := by
  have written : ∀ model : Model, model.IsWritable generation.config := by
    intro model isPython
    rw [isDart] at isPython
    cases isPython
  have formats := canFormat_of_unformatted unformatted tool
  cases isSplit with
  | false =>
    have unit : (∃ code, generation.combinedUnit output = .ok code) ↔
        (∀ model ∈ generation.schema.models, model.IsWritable generation.config) ∧
          ∀ name ∈ Model.imported generation.schema.models generation.schema.names,
            ∃ stem, generation.config.stem name = .ok stem := exists_renderUnit flat
    rw [and_iff_right fun model _ => written model] at unit
    show (∃ result, generation.combined tool output = .ok result) ↔
      ∀ name ∈ Model.imported generation.schema.models generation.schema.names, _
    rw [← unit, combined, Outcome.exists_bind]
    refine exists_congr fun code => and_iff_left_of_imp fun _ => ?_
    rw [Outcome.exists_bind]
    obtain ⟨text, isText⟩ := exists_formatted.mpr formats
    exact ⟨text, isText, _, rfl⟩
  | true =>
    show (∃ result, generation.split tool output = .ok result) ↔
      ∀ name ∈ generation.schema.models.flatMap fun model =>
        model.name :: Model.imported [model] [model.name], _
    rw [exists_split flat, List.forall_mem_flatMap]
    refine forall₂_congr fun model _ => ?_
    exact ⟨fun renders => renders.stems, fun stems => ⟨written model, stems, formats⟩⟩

/-! ## What is read from a document -/

/-- Units in Dart are handed to no tool. -/
theorem formatting_of_ofSchema {name : String} {config : Config} {schema : Schema}
    {generation : Generation} (formed : ofSchema name config schema = .ok generation)
    (isDart : config.language = .dart) : generation.formatting = none := by
  obtain ⟨_, options, isFormatted, _, _, isOptions, given, rfl⟩ := ofSchema_eq_ok formed
  have noPython : (config.language == .python) = false := by
    rw [isDart]
    rfl
  rw [Config.isFormatted, isOptions, Outcome.ok_bind, noPython, Bool.and_false] at given
  cases given
  rfl

theorem schema_of_ofSchema {name : String} {config : Config} {schema renamed : Schema}
    {generation : Generation} (normalized : schema.normalize config.naming = .ok renamed)
    (formed : ofSchema name config schema = .ok generation) : generation.schema = renamed := by
  obtain ⟨_, _, _, given, _, _, _, rfl⟩ := ofSchema_eq_ok formed
  rw [normalized] at given
  cases given
  rfl

/-- A schema is made ready where its names are settled, its references pass the check that is asked
for, and the options of the formatting tool are some. -/
theorem exists_ofSchema {name : String} {config : Config} {schema renamed : Schema}
    (normalized : schema.normalize config.naming = .ok renamed) :
    (∃ generation, ofSchema name config schema = .ok generation) ↔
      (config.checkReferences.isOn = true → renamed.check = .ok ()) ∧
        ∃ options, config.formatting.options = .ok options := by
  have rest : (∃ generation, (do
      let options ← config.formatting.options
      let isFormatted ← config.isFormatted
      return ({ name, config, schema := renamed
                formatting := if isFormatted then some options else none } : Generation)) =
        Except.ok generation) ↔ ∃ options, config.formatting.options = .ok options := by
    rw [Outcome.exists_bind]
    refine exists_congr fun options => and_iff_left_of_imp fun ofConfig => ?_
    rw [Config.isFormatted, ofConfig]
    exact ⟨_, rfl⟩
  unfold ofSchema
  rw [normalized, Outcome.ok_bind]
  split
  next isOn =>
    rw [Outcome.exists_bind]
    simp only [rest, exists_and_right, isOn, true_imp_iff]
    exact and_congr_left' ⟨fun ⟨_, passes⟩ => passes, fun passes => ⟨(), passes⟩⟩
  next isOff =>
    rw [rest, and_iff_right]
    exact fun isOn => absurd isOn isOff

end Generation

/-- Rules on stems as they should be: texts for texts. -/
def Config.HasTextRules (config : Config) : Prop :=
  ∃ naming rules, config.namer = .ok naming ∧ naming.stemRules = .typed rules ∧
    ∀ rule ∈ rules, ∃ text, rule.2 = .typed text

/-- What is read from a document has no unions yet, is named for good, and can be rendered: in both
languages nothing is reported of it, and in Dart it is rendered exactly if the stems that are asked
for can be formed, in one unit or in one for each model. Rules that are texts always form them. -/
theorem ofDocument_renders {config : Config} {document : Json.Value} {schema : Schema}
    (parsed : Schema.ofDocument config document = .ok schema) :
    schema.IsParsed config.naming ∧ schema.normalize config.naming = .ok schema ∧
    ∀ name,
      ((∃ generation, Generation.ofSchema name config schema = .ok generation) ↔
        (config.checkReferences.isOn = true → schema.check = .ok ()) ∧
          ∃ options, config.formatting.options = .ok options) ∧
      ∀ generation, Generation.ofSchema name config schema = .ok generation →
        ∀ tool isSplit output,
          (config.language = .dart →
            ((∃ result, generation.render tool isSplit output = .ok result) ↔
              ∀ needed ∈ generation.stemNames isSplit, ∃ stem, config.stem needed = .ok stem) ∧
            (config.HasTextRules → ∃ result, generation.render tool isSplit output = .ok result)) ∧
          ∀ result, generation.render tool isSplit output = .ok result → result.faults = [] := by
  have isParsed := Schema.isParsed_of_document parsed
  have stays := isParsed.normalize
  refine ⟨isParsed, stays, fun name => ⟨Generation.exists_ofSchema stays, ?_⟩⟩
  intro generation formed tool isSplit output
  have sameSchema := Generation.schema_of_ofSchema stays formed
  have sameConfig := Generation.config_of_ofSchema formed
  have flat : ∀ model ∈ generation.schema.models, model.IsFlat := by
    rw [sameSchema]
    exact fun model isModel => (isParsed.models model isModel).noVariants
  refine ⟨?_, fun result returns => Generation.faults_eq_nil flat returns⟩
  intro isDart
  have unformatted := Generation.formatting_of_ofSchema formed isDart
  have renders : (∃ result, generation.render tool isSplit output = .ok result) ↔
      ∀ needed ∈ generation.stemNames isSplit, ∃ stem, config.stem needed = .ok stem := by
    rw [← sameConfig]
    exact Generation.exists_render (sameConfig ▸ isDart) unformatted flat
  refine ⟨renders, ?_⟩
  rintro ⟨naming, rules, isNamer, isTyped, texts⟩
  rw [renders]
  intro needed _
  exact Config.exists_stem isNamer isTyped texts needed

/-- The three models of a ticket are rendered in one unit and in one for each model. -/
theorem ofDocument_renders_ticket : ∃ schema generation,
    Schema.ofDocument {} (.obj Conditional.ticketDocument) = .ok schema ∧
      schema.models.length = 3 ∧ Generation.ofSchema "ticket" {} schema = .ok generation ∧
      ∀ isSplit, ∃ result, generation.render none isSplit none = .ok result ∧
        result.faults = [] := by
  have isOk : Outcome.any (Schema.ofDocument {} (.obj Conditional.ticketDocument))
      (fun schema => schema.models.length = 3) = true := by
    decide +kernel
  obtain ⟨schema, parsed, three⟩ := Outcome.any_iff.mp isOk
  obtain ⟨_, _, renders⟩ := ofDocument_renders parsed
  obtain ⟨prepared, rendered⟩ := renders "ticket"
  obtain ⟨generation, formed⟩ := prepared.mpr ⟨nofun, _, rfl⟩
  refine ⟨schema, generation, parsed, of_decide_eq_true three, formed, ?_⟩
  intro isSplit
  have textRules : Config.HasTextRules {} := by
    refine ⟨{}, _, rfl, rfl, ?_⟩
    simp only [List.forall_mem_cons]
    exact ⟨⟨_, rfl⟩, ⟨_, rfl⟩, nofun⟩
  obtain ⟨inDart, noFaults⟩ := rendered generation formed none isSplit none
  obtain ⟨result, returns⟩ := (inDart rfl).2 textRules
  exact ⟨result, returns, noFaults result returns⟩

end SchemaCodegen
