import SchemaCodegen.Proofs.CheckedUnions
import SchemaCodegen.Proofs.SplitReturns

/-!
# What keeps a unit in Dart from being rendered

In Dart a rendering fails by the stem of a file that cannot be formed, or by a union that does not pass its
check, and by nothing else. With one unit for each model the unions that do not pass are the ones that are
reported, in order, and all models together have a unit exactly if there are none; otherwise the fault of
the first of them is that of the whole.
-/

namespace SchemaCodegen

open Outcome (FailsBy fault?_eq_none fault?_eq_some fault?_map fault?_bind_ok fault?_bind fault?_mapM)

/-! ## Unions that do not pass their check -/

namespace Model

/-- Whether a model is a union that is not told apart by a key: it has no key, no arms, or an arm without a
field that is named as the key. -/
def IsBroken (model : Model) : Prop :=
  model.isUnion = true ∧ ((∀ key ∈ model.unionKey, key = "") ∨ model.arms = [] ∨
    ∃ arm ∈ model.arms, ∃ key ∈ model.unionKey, key ∉ arm.fields.map (·.name))

instance : DecidablePred IsBroken := fun _ => inferInstanceAs (Decidable (_ ∧ _))

/-- A union is told apart by a key exactly if it is not broken. -/
theorem exists_isTagged_iff {model : Model} (isUnion : model.isUnion = true) :
    (∃ key, model.IsTagged key) ↔ ¬model.IsBroken := by
  constructor
  · rintro ⟨key, tagged⟩ ⟨_, noKey | noArms | ⟨arm, isArm, other, isOther, noField⟩⟩
    · exact tagged.isText (noKey key tagged.named)
    · exact tagged.hasArms noArms
    · cases isOther.symm.trans tagged.named
      exact noField (tagged.each arm isArm)
  · intro whole
    simp only [IsBroken, isUnion, true_and, not_or, not_forall, not_exists, not_and, not_not] at whole
    obtain ⟨⟨key, named, isText⟩, hasArms, each⟩ := whole
    exact ⟨key, named, isText, hasArms, fun arm isArm => each arm isArm key named⟩

/-- The check of a union fails exactly if the union is broken. -/
theorem isSome_fault?_checkUnion {model : Model} (isUnion : model.isUnion = true) :
    model.checkUnion.fault?.isSome = true ↔ model.IsBroken := by
  rw [← not_iff_not, ← exists_isTagged_iff isUnion, Option.not_isSome_iff_eq_none, fault?_eq_none]
  exact exists_congr fun key => checkUnion_eq_ok_iff

/-- A union that does not pass its check is reported. -/
theorem isReported_of_checkUnion {model : Model} :
    FailsBy (fun fault => fault.isReported = true) model.checkUnion := by
  intro fault fails
  unfold checkUnion at fails
  split at fails
  next =>
    cases fails
    rfl
  next =>
    split at fails
    · cases fails
      rfl
    · split at fails
      · cases fails
        rfl
      · cases fails

end Model

/-! ## Units -/

namespace Dart

/-- Why there is no class of a model. -/
def unionFault? (config : Config) (model : Model) : Option Fault :=
  if config.unions.isOn && model.isUnion then model.checkUnion.fault? else none

theorem isReported_of_unionFault? {config : Config} {model : Model} {fault : Fault}
    (fails : unionFault? config model = some fault) : fault.isReported = true := by
  unfold unionFault? at fails
  split at fails
  · exact Model.isReported_of_checkUnion fault (fault?_eq_some.mp fails)
  · cases fails

theorem isSome_unionFault? {config : Config} {model : Model} :
    (unionFault? config model).isSome = true ↔ config.unions.isOn = true ∧ model.IsBroken := by
  unfold unionFault?
  split
  next both =>
    obtain ⟨unions, isUnion⟩ := Bool.and_eq_true_iff.mp both
    rw [Model.isSome_fault?_checkUnion isUnion, and_iff_right unions]
  next notBoth =>
    refine ⟨nofun, fun ⟨unions, broken⟩ => absurd ?_ notBoth⟩
    rw [unions, broken.1]
    rfl

/-- A class fails by the check of a union only. -/
theorem fault?_classOf (config : Config) (model : Model) :
    (classOf config model).fault? = unionFault? config model := by
  unfold classOf unionFault?
  cases config.unions.isOn with
  | false => rfl
  | true =>
    cases model.isUnion with
    | false => rfl
    | true => exact fault?_bind_ok _ _

/-- A library fails by its imports, or else by the first of its models that does. -/
theorem fault?_ofModels (config : Config) (models : List Model) (fileStem : String)
    (atHand : List String) : (Library.ofModels config models fileStem atHand).fault? =
      (modelImports config (Model.imported models atHand)).fault?.or
        (models.findSome? (unionFault? config)) := by
  refine fault?_bind fun imports => ?_
  rw [← funext (fault?_classOf config), ← fault?_mapM]
  exact fault?_bind_ok _ _

end Dart

section

variable {config : Config} (isDart : config.language = .dart)
include isDart

theorem fault?_renderUnit (models : List Model) (fileStem : String) (atHand : List String) :
    (renderUnit config models fileStem atHand).fault? =
      (Dart.modelImports config (Model.imported models atHand)).fault?.or
        (models.findSome? (Dart.unionFault? config)) := by
  rw [renderUnit, fault?_map, Backend.draft_fst, Draft.ofModels]
  simp only [isDart]
  rw [fault?_map, Dart.fault?_ofModels]

end

namespace Generation

theorem formatted_of_unformatted {generation : Generation} (unformatted : generation.formatting = none)
    (tool : Option Formatter) (code : String) : generation.formatted tool code = .ok code := by
  rw [formatted, unformatted]

/-- A fault of imports is none that is reported. -/
theorem isReported_of_modelImports {config : Config} {names : List String} {fault : Fault}
    (fails : (Dart.modelImports config names).fault? = some fault) : fault.isReported = false := by
  have unreported : FailsBy Fault.IsUnreported (Dart.modelImports config names) := failsBy_imports names
  exact unreported fault (fault?_eq_some.mp fails)

section

variable {generation : Generation} (isDart : generation.config.language = .dart)
variable (unformatted : generation.formatting = none)
variable {tool : Option Formatter} {output : Option String}
include isDart unformatted

theorem fault?_modelCode (model : Model) (stem : String) :
    (generation.modelCode tool output model stem).fault? =
      (Dart.modelImports generation.config (Model.imported [model] [model.name])).fault?.or
        (Dart.unionFault? generation.config model) := by
  have unit := @fault?_renderUnit generation.config isDart [model]
  simp only [List.findSome?_singleton] at unit
  unfold modelCode
  rw [funext (formatted_of_unformatted unformatted tool), ← unit]
  exact fault?_bind_ok _ id

/-- All models together fail by their imports, or else by the first of them that does. -/
theorem fault?_combined : (generation.combined tool output).fault? =
    (Dart.modelImports generation.config
      (Model.imported generation.schema.models generation.schema.names)).fault?.or
        (generation.schema.models.findSome? (Dart.unionFault? generation.config)) := by
  have unit : (generation.combinedUnit output).fault? =
      (Dart.modelImports generation.config
        (Model.imported generation.schema.models generation.schema.names)).fault?.or
          (generation.schema.models.findSome? (Dart.unionFault? generation.config)) :=
    fault?_renderUnit isDart _ _ _
  rw [combined, funext (formatted_of_unformatted unformatted tool), ← unit]
  simp only [Outcome.ok_bind]
  exact fault?_bind_ok _ _

/-- What is reported of a model in a split is why it has no class. -/
theorem fault?_of_modelUnit {model : Model} {unit : ModelUnit}
    (given : generation.modelUnit tool output model = .ok unit) :
    unit.fault? = (Dart.unionFault? generation.config model).map (model.name, ·) := by
  obtain ⟨stem, _, given⟩ := Outcome.bind_eq_ok.mp given
  have coded := @fault?_modelCode generation isDart unformatted tool output model stem
  cases ofModel : generation.modelCode tool output model stem with
  | ok code =>
    rw [ofModel] at given coded
    cases given
    rw [(Option.or_eq_none_iff.mp coded.symm).2]
    rfl
  | error fault =>
    rw [ofModel] at given coded
    cases reported : fault.isReported with
    | false =>
      simp only [reported] at given
      cases given
    | true =>
      simp only [reported] at given
      cases given
      rcases Option.or_eq_some_iff.mp coded.symm with ofImports | ⟨_, ofUnion⟩
      · cases reported.symm.trans (isReported_of_modelImports ofImports)
      · rw [ofUnion]
        rfl

/-- A model has an outcome in a split exactly if its stem and those of its imports can be formed. -/
theorem exists_modelUnit_iff_stems {model : Model} :
    (∃ unit, generation.modelUnit tool output model = .ok unit) ↔
      ∀ name ∈ model.name :: Model.imported [model] [model.name],
        ∃ stem, generation.config.stem name = .ok stem := by
  have imports : (Dart.modelImports generation.config (Model.imported [model] [model.name])).fault? = none ↔
      ∀ name ∈ Model.imported [model] [model.name], ∃ stem, generation.config.stem name = .ok stem :=
    fault?_eq_none.trans exists_imports
  have coded := @fault?_modelCode generation isDart unformatted tool output model
  rw [List.forall_mem_cons, ← imports]
  constructor
  · rintro ⟨unit, given⟩
    obtain ⟨stem, stemmed, given⟩ := Outcome.bind_eq_ok.mp given
    refine ⟨⟨stem, stemmed⟩, ?_⟩
    -- the fault of an import is none that is reported, so there would be no outcome
    have coded := coded stem
    cases ofImports : (Dart.modelImports generation.config
        (Model.imported [model] [model.name])).fault? with
    | none => rfl
    | some fault =>
      rw [ofImports] at coded
      rw [fault?_eq_some.mp coded] at given
      simp only [isReported_of_modelImports ofImports] at given
      cases given
  · rintro ⟨⟨stem, stemmed⟩, noFault⟩
    have coded := coded stem
    rw [noFault, Option.none_or] at coded
    rw [modelUnit, stemmed, Outcome.ok_bind]
    cases ofModel : generation.modelCode tool output model stem with
    | ok code => exact ⟨_, rfl⟩
    | error fault =>
      rw [ofModel] at coded
      simp only [Dart.isReported_of_unionFault? coded.symm]
      exact ⟨_, rfl⟩

/-- A split returns exactly if all stems that are asked for can be formed. -/
theorem exists_split_iff_stems : (∃ result, generation.split tool output = .ok result) ↔
    ∀ name ∈ generation.stemNames true, ∃ stem, generation.config.stem name = .ok stem := by
  show _ ↔ ∀ name ∈ generation.schema.models.flatMap fun model =>
    model.name :: Model.imported [model] [model.name], _
  rw [exists_split_iff, List.forall_mem_flatMap]
  exact forall₂_congr fun model _ => exists_modelUnit_iff_stems isDart unformatted

theorem fault?_of_units {models : List Model} {units : List ModelUnit}
    (each : List.Forall₂ (fun model unit => generation.modelUnit tool output model = .ok unit)
      models units) :
    units.filterMap (·.fault?) = models.filterMap fun model =>
      (Dart.unionFault? generation.config model).map (model.name, ·) := by
  induction each with
  | nil => rfl
  | cons first _ ih =>
    rw [List.filterMap_cons, List.filterMap_cons, fault?_of_modelUnit isDart unformatted first, ih]

/-- What is reported in a split, model by model. -/
theorem faults_of_split (distinct : generation.schema.names.Nodup) {result : Result}
    (returns : generation.split tool output = .ok result) :
    result.faults = generation.schema.models.filterMap fun model =>
      (Dart.unionFault? generation.config model).map (model.name, ·) := by
  obtain ⟨units, given, _, isFaults⟩ := split_eq_ok returns
  have each := Outcome.mapM_eq_ok.mp given
  rw [isFaults, Entries.putAll_of_nodup, List.nil_append, fault?_of_units isDart unformatted each]
  exact (models_of_faults each).nodup distinct

/-- Where a split returns, all models together fail by the first fault that it reports. -/
theorem fault?_combined_of_split (distinct : generation.schema.names.Nodup) {result : Result}
    {splitOutput : Option String} (returns : generation.split tool splitOutput = .ok result) :
    (generation.combined tool output).fault? = (result.faults.map Prod.snd).head? := by
  have stems := (exists_split_iff_stems isDart unformatted).mp ⟨result, returns⟩
  have imports : (Dart.modelImports generation.config
      (Model.imported generation.schema.models generation.schema.names)).fault? = none := by
    refine fault?_eq_none.mpr (exists_imports.mpr fun name isImport => stems name ?_)
    -- what all models import together, one of them imports
    obtain ⟨⟨model, isModel, refers⟩, notDeclared⟩ := Model.mem_imported.mp isImport
    refine List.mem_flatMap.mpr ⟨model, isModel, List.mem_cons_of_mem _ ?_⟩
    refine Model.mem_imported_self.mpr ⟨refers, ?_⟩
    rintro rfl
    exact notDeclared (List.mem_map_of_mem isModel)
  rw [fault?_combined isDart unformatted, imports, Option.none_or,
    faults_of_split isDart unformatted distinct returns, List.map_filterMap, List.head?_filterMap]
  congr 1
  funext model
  rw [Option.map_map]
  exact Option.map_id'.symm

end

/-- The models that are reported are the unions that are broken, in the style of unions. -/
theorem keys_of_unionFaults (config : Config) (models : List Model) :
    Entries.keys (models.filterMap fun model => (Dart.unionFault? config model).map (model.name, ·)) =
      (models.filter fun model => config.unions.isOn && model.IsBroken).map (·.name) := by
  induction models with
  | nil => rfl
  | cons model rest ih =>
    have isBroken := @Dart.isSome_unionFault? config model
    rw [List.filterMap_cons, List.filter_cons]
    cases fault : Dart.unionFault? config model with
    | none =>
      rw [fault] at isBroken
      rw [if_neg fun broken => nomatch isBroken.mpr (by simpa using broken)]
      exact ih
    | some cause =>
      rw [fault] at isBroken
      rw [if_pos (by simpa using isBroken.mp rfl), List.map_cons, ← ih]
      rfl

/-- In Dart there is one unit for each model exactly if all stems that are asked for can be formed, which
rules that are texts always allow. Then the models that are reported are the broken unions, in order, in the
style of unions, and none in the plain style. All models together have a unit exactly if nothing is
reported, and otherwise fail by what is reported first. -/
theorem dart_fails_by_broken_unions {name : String} {config : Config} {schema : Schema}
    {generation : Generation} (formed : ofSchema name config schema = .ok generation)
    (isDart : config.language = .dart) (distinct : generation.schema.names.Nodup)
    (tool : Option Formatter) (splitOutput output : Option String) :
    ((∃ result, generation.render tool true splitOutput = .ok result) ↔
      ∀ needed ∈ generation.stemNames true, ∃ stem, config.stem needed = .ok stem) ∧
    (config.HasTextRules → ∃ result, generation.render tool true splitOutput = .ok result) ∧
    ∀ result, generation.render tool true splitOutput = .ok result →
      (config.unions.isOn = true →
        result.faults.keys = (generation.schema.models.filter (·.IsBroken)).map (·.name)) ∧
      (config.unions.isOn = false → result.faults = []) ∧
      ((∃ whole, generation.render tool false output = .ok whole) ↔ result.faults = []) ∧
      ∀ model fault rest, result.faults = (model, fault) :: rest →
        generation.render tool false output = .error fault := by
  obtain rfl := config_of_ofSchema formed
  have unformatted := formatting_of_ofSchema formed isDart
  have returnsIff := @exists_split_iff_stems generation isDart unformatted tool splitOutput
  refine ⟨returnsIff, fun textRules => returnsIff.mpr fun needed _ => textRules.exists_stem needed, ?_⟩
  intro result returns
  have faults := faults_of_split isDart unformatted distinct returns
  have keys := keys_of_unionFaults generation.config generation.schema.models
  rw [← faults] at keys
  have whole := @fault?_combined_of_split generation isDart unformatted tool output distinct result _ returns
  refine ⟨?_, ?_, ?_, ?_⟩
  · intro unions
    rw [keys, unions]
    simp only [Bool.true_and]
  · intro plain
    rw [plain] at keys
    simp only [Bool.false_and, List.filter_false, List.map_nil] at keys
    exact List.map_eq_nil_iff.mp keys
  · rw [← fault?_eq_none]
    show (generation.combined tool output).fault? = none ↔ _
    rw [whole, List.head?_eq_none_iff, List.map_eq_nil_iff]
  · intro model fault rest isFirst
    rw [isFirst] at whole
    exact fault?_eq_some.mp whole

/-- Stays that can be told apart, and three unions and a model without arms between them: one union has no
key, one no arms, and one an arm without a field for its key. -/
def mixedStays : Schema where
  models :=
    [Dart.stayUnion, { Dart.stayUnion with name := "Keyless", unionKey := none }, { name := "Guest" },
      { Dart.stayUnion with name := "Armless", variants := some [] },
      { Dart.stayUnion with name := "Fieldless", variants := some [Dart.paidArm, {}] }]

/-- Three unions of the mixed stays are reported, and all models together fail by the fault of the first. -/
theorem dart_fails_by_mixedStays : ∃ generation result fault,
    ofSchema "stays" {} mixedStays = .ok generation ∧ generation.render none true none = .ok result ∧
      result.faults.keys = ["Keyless", "Armless", "Fieldless"] ∧
      result.faults.get? "Keyless" = some fault ∧ generation.render none false none = .error fault := by
  have isOk : Outcome.any (ofSchema "stays" {} mixedStays) (fun generation =>
      generation.schema.names.Nodup && (generation.schema.models.filter (·.IsBroken)).map (·.name) =
        ["Keyless", "Armless", "Fieldless"]) = true := by
    decide +kernel
  obtain ⟨generation, formed, isOk⟩ := Outcome.any_iff.mp isOk
  simp only [Bool.and_eq_true, decide_eq_true_eq] at isOk
  obtain ⟨_, returns, fails⟩ := dart_fails_by_broken_unions formed rfl isOk.1 none none none
  obtain ⟨result, returns⟩ := returns (Config.hasTextRules_of_default rfl)
  obtain ⟨reports, _, _, first⟩ := fails result returns
  have keys := (reports rfl).trans isOk.2
  obtain ⟨⟨model, fault⟩, rest, isCons, isFirst, _⟩ := List.map_eq_cons_iff.mp keys
  obtain rfl : model = "Keyless" := isFirst
  refine ⟨generation, result, fault, formed, returns, keys, ?_, first _ fault rest isCons⟩
  rw [isCons, Entries.get?_cons, if_pos rfl]

/-- A plain style whose rule on stems has a number for a text. -/
def numberedStems : Config where
  unions := .typed false
  naming := .typed { stemRules := .typed [("_params", .untyped (.int 5))] }

/-- In the plain style a model has no unit of its own where its stem cannot be formed, though all models
together have one. -/
theorem split_fails_by_stem : Outcome.any
    (ofSchema "task" numberedStems { models := [{ name := "TaskParams" }] }) (fun generation =>
      generation.schema.names = ["TaskAdapterParams"] &&
        (generation.render none true none).fault? = some .wrongType &&
        (generation.render none false none).isOk) = true := by
  decide +kernel

end Generation

end SchemaCodegen
