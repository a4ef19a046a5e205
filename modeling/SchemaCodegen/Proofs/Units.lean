import SchemaCodegen.Proofs.Forming
import SchemaCodegen.Proofs.Outcome
import SchemaCodegen.Rendering

/-!
# One unit for all models, and one for each

What a backend was asked for before does not show in the units that it renders. The unit of all
models has the classes of their own units in order, the helpers that some of those import, and of
their imports of models those that the schema does not declare.
-/

namespace SchemaCodegen

/-! ## What a unit holds -/

/-- A class of a unit. -/
inductive Declaration where
  | dart (cls : Dart.Class)
  | python (cls : Python.ClassDef)

/-- All imports of a module, in the order in which they may stand. -/
def Python.Module.imports (module : Python.Module) : List Python.Import :=
  module.helpers.flatten ++ module.siblings

namespace Draft

/-- The classes of a unit in order. -/
def classes : Draft → List Declaration
  | .dart library => library.classes.map .dart
  | .python module => module.classes.map .python

/-- The names that a unit imports from modules by their full names, each with its module. -/
def helpers : Draft → List (String × String)
  | .dart _ => []
  | .python module =>
    (module.imports.filter (·.level = 0)).flatMap fun entry => entry.names.map (entry.module, ·)

/-- The models that a unit imports from the units beside it. -/
def models : Draft → List String
  | .dart library => library.imports.map (·.model)
  | .python module => (module.imports.filter (·.level ≠ 0)).flatMap (·.names)

/-- The unit of models in the file of a stem, apart from any backend. -/
def ofModels (config : Config) (models : List Model) (fileStem : String) (atHand : List String) :
    Outcome Draft :=
  match config.language with
  | .dart => Draft.dart <$> Dart.Library.ofModels config models fileStem atHand
  | .python => Draft.python <$> Python.Module.ofModels config models atHand

end Draft

/-! ## Units do not depend on what was noted before -/

theorem Backend.draft_fst (backend : Backend) (models : List Model) (fileStem : String)
    (atHand : List String) :
    (backend.draft models fileStem atHand).1 =
      Draft.ofModels backend.config models fileStem atHand := by
  unfold Backend.draft Draft.ofModels
  cases language : backend.config.language with
  | dart => simp only [language]
  | python =>
    simp only [language]
    rw [← Python.module_run backend.config models atHand backend.noted]
    rfl

theorem Backend.after_config (backend : Backend) (call : Backend.Call) :
    (backend.after call).config = backend.config := by
  cases call with
  | unit models fileStem atHand =>
    simp only [Backend.after, Backend.draft]
    split <;> rfl
  | typeText type nullable =>
    simp only [Backend.after, Backend.typeText]
    split <;> rfl

/-- Calls change what is noted, never the configuration. -/
theorem Backend.afterAll_config (backend : Backend) (calls : List Backend.Call) :
    (backend.afterAll calls).config = backend.config := by
  induction calls generalizing backend with
  | nil => rfl
  | cons call rest ih =>
    have later := ih (backend.after call)
    rw [Backend.after_config] at later
    exact later

/-! ## References and their imports -/

/-- Rules that are texts never fail. -/
theorem exists_applyRules {rules : Entries (Setting String)}
    (typed : ∀ rule ∈ rules, ∃ text, rule.2 = .typed text) (stem : String) :
    ∃ result, Naming.applyRules rules stem = .ok result := by
  induction rules with
  | nil => exact ⟨stem, rfl⟩
  | cons rule rest ih =>
    obtain ⟨ending, replacement⟩ := rule
    obtain ⟨⟨text, rfl⟩, typedRest⟩ := List.forall_mem_cons.mp typed
    rw [Naming.applyRules]
    split
    · exact ⟨_, rfl⟩
    · exact ih typedRest

/-- The stems of all names can be formed by conventions whose rules are texts. -/
theorem Config.exists_stem {config : Config} {naming : Naming} {rules : Entries (Setting String)}
    (conventions : config.namer = .ok naming) (typed : naming.stemRules = .typed rules)
    (texts : ∀ rule ∈ rules, ∃ text, rule.2 = .typed text) (name : String) :
    ∃ stem, config.stem name = .ok stem := by
  rw [Config.stem, conventions]
  show ∃ stem, naming.fileStem name = .ok stem
  rw [Naming.fileStem, typed]
  exact exists_applyRules texts (Words.snakeCase name)

section
variable {α : Type} {config : Config} {names : List String} {form : String → String → α}

/-- Imports that are formed of names and their stems are one for each name. -/
theorem imports_eq_ok {imports : List α}
    (formed : (names.mapM fun name => do
      return form name (← config.stem name)) = .ok imports) :
    List.Forall₂ (fun name entry => ∃ stem, config.stem name = .ok stem ∧ form name stem = entry)
      names imports := by
  refine (Outcome.mapM_eq_ok.mp formed).imp fun name entry step => ?_
  obtain ⟨stem, stemmed, same⟩ := Outcome.bind_eq_ok.mp step
  exact ⟨stem, stemmed, Except.ok.inj same⟩

/-- Imports can be formed exactly if all stems can. -/
theorem exists_imports :
    (∃ imports, (names.mapM fun name => do
      return form name (← config.stem name)) = .ok imports) ↔
      ∀ name ∈ names, ∃ stem, config.stem name = .ok stem := by
  rw [Outcome.exists_mapM]
  refine forall_congr' fun name => imp_congr_right fun _ => ?_
  rw [Outcome.exists_bind]
  constructor
  · rintro ⟨stem, stemmed, _⟩
    exact ⟨stem, stemmed⟩
  · rintro ⟨stem, stemmed⟩
    exact ⟨stem, stemmed, _, rfl⟩

end

namespace Model

/-- What units import are the references that are not at hand. -/
theorem mem_imported {models : List Model} {atHand : List String} {name : String} :
    name ∈ imported models atHand ↔
      (∃ model ∈ models, name ∈ model.references) ∧ name ∉ atHand := by
  rw [imported, mem_distinct, List.mem_filter, List.mem_flatMap]
  simp

/-- A model that refers to itself is at hand in its own unit. -/
theorem mem_imported_self {model : Model} {name : String} :
    name ∈ imported [model] [model.name] ↔ name ∈ model.references ∧ name ≠ model.name := by
  rw [mem_imported]
  simp

end Model

/-! ## Python -/

namespace Python

theorem Helper.level_of_mem_imports {used : List Helper} {entry : Import}
    (member : entry ∈ (Helper.imports used).flatten) : entry.level = 0 := by
  obtain ⟨group, isGroup, inGroup⟩ := List.mem_flatten.mp member
  have formed := (List.mem_filter.mp isGroup).1
  obtain ⟨modules, _, rfl⟩ := List.mem_map.mp formed
  obtain ⟨helpers, _, ofHelpers⟩ := List.mem_flatMap.mp inGroup
  unfold Helper.importOf at ofHelpers
  split at ofHelpers
  · cases ofHelpers
  · rw [List.mem_singleton.mp ofHelpers]

/-- The names that one import brings in are the used helpers of its module. -/
theorem Helper.mem_importOf {used helpers : List Helper} {shared : String}
    (one : ∀ helper ∈ helpers, helper.module = shared) {pair : String × String} :
    (∃ entry ∈ Helper.importOf used helpers, ∃ name ∈ entry.names, (entry.module, name) = pair) ↔
      ∃ helper ∈ helpers, helper ∈ used ∧ (helper.module, helper.name) = pair := by
  unfold Helper.importOf
  have ofUsed : ∀ helper, helper ∈ helpers.filter used.contains ↔ helper ∈ helpers ∧ helper ∈ used := by
    intro helper
    rw [List.mem_filter, List.contains_iff_mem]
  split
  next none_ =>
    rw [none_] at ofUsed
    constructor
    · rintro ⟨_, impossible, _⟩
      cases impossible
    · rintro ⟨helper, member, isUsed, _⟩
      cases (ofUsed helper).mpr ⟨member, isUsed⟩
  next first more some_ =>
    rw [some_] at ofUsed
    have ofFirst := one first ((ofUsed first).mp (List.mem_cons_self ..)).1
    constructor
    · rintro ⟨entry, isEntry, name, isName, rfl⟩
      rw [List.mem_singleton.mp isEntry] at isName ⊢
      obtain ⟨helper, member, rfl⟩ := List.mem_map.mp isName
      have both := (ofUsed helper).mp member
      exact ⟨helper, both.1, both.2, by rw [one helper both.1, ofFirst]⟩
    · rintro ⟨helper, member, isUsed, rfl⟩
      refine ⟨_, List.mem_singleton_self _, helper.name, ?_, by rw [one helper member, ofFirst]⟩
      exact List.mem_map_of_mem ((ofUsed helper).mpr ⟨member, isUsed⟩)

/-- Helpers that are imported together are of one module. -/
theorem Helper.module_of_mem_groups {modules : List (List Helper)} {helpers : List Helper}
    (isGroup : modules ∈ groups) (isModule : helpers ∈ modules) :
    ∃ shared, ∀ helper ∈ helpers, helper.module = shared := by
  have named : ∀ modules ∈ groups, ∀ helpers ∈ modules, ∃ first : Helper,
      ∀ helper ∈ helpers, helper.module = first.module := by
    simp only [groups, List.forall_mem_cons, List.not_mem_nil, false_implies, implies_true]
    refine ⟨⟨⟨.annotations, ?_⟩, trivial⟩, ⟨⟨.abc, ?_⟩, ⟨.field, ?_⟩, ⟨.datetime, ?_⟩,
      ⟨.any, ?_⟩, trivial⟩, ⟨⟨.config, ?_⟩, trivial⟩, trivial⟩ <;> decide
  obtain ⟨first, same⟩ := named modules isGroup helpers isModule
  exact ⟨first.module, same⟩

/-- Every helper is imported with some module. -/
theorem Helper.exists_group (helper : Helper) :
    ∃ modules ∈ groups, ∃ helpers ∈ modules, helper ∈ helpers := by
  cases helper <;> simp [groups]

/-- What a module imports by full names are the helpers that are used. -/
theorem Helper.mem_imports {used : List Helper} {pair : String × String} :
    (∃ entry ∈ (Helper.imports used).flatten, ∃ name ∈ entry.names, (entry.module, name) = pair) ↔
      ∃ helper ∈ used, (helper.module, helper.name) = pair := by
  rw [Helper.imports, List.flatten_filter_not_isEmpty]
  constructor
  · rintro ⟨entry, member, named⟩
    obtain ⟨group, isGroup, inGroup⟩ := List.mem_flatten.mp member
    obtain ⟨modules, isModules, rfl⟩ := List.mem_map.mp isGroup
    obtain ⟨helpers, isHelpers, ofHelpers⟩ := List.mem_flatMap.mp inGroup
    obtain ⟨shared, one⟩ := Helper.module_of_mem_groups isModules isHelpers
    obtain ⟨helper, _, isUsed, same⟩ := (Helper.mem_importOf one).mp ⟨entry, ofHelpers, named⟩
    exact ⟨helper, isUsed, same⟩
  · rintro ⟨helper, isUsed, same⟩
    obtain ⟨modules, isModules, helpers, isHelpers, member⟩ := Helper.exists_group helper
    obtain ⟨shared, one⟩ := Helper.module_of_mem_groups isModules isHelpers
    obtain ⟨entry, ofHelpers, named⟩ := (Helper.mem_importOf one).mpr ⟨helper, member, isUsed, same⟩
    refine ⟨entry, ?_, named⟩
    rw [List.mem_flatten]
    exact ⟨_, List.mem_map_of_mem isModules, List.mem_flatMap.mpr ⟨helpers, isHelpers, ofHelpers⟩⟩

/-- Models are imported each on its own from a unit beside this one. -/
theorem modelImports_eq_ok {config : Config} {names : List String} {imports : List Import}
    (formed : modelImports config names = .ok imports) :
    (∀ entry ∈ imports, entry.level = 1) ∧ imports.flatMap (·.names) = names := by
  have each := imports_eq_ok formed
  clear formed
  induction each with
  | nil => exact ⟨nofun, rfl⟩
  | cons first _ ih =>
    obtain ⟨stem, _, rfl⟩ := first
    exact ⟨List.forall_mem_cons.mpr ⟨rfl, ih.1⟩, congrArg (_ :: ·) ih.2⟩

theorem Module.ofModels_eq_ok {config : Config} {models : List Model} {atHand : List String}
    {module : Module} :
    Module.ofModels config models atHand = .ok module ↔
      ∃ classes, models.mapM (classesOf config) = .ok classes ∧
        ∃ siblings, modelImports config (Model.imported models atHand) = .ok siblings ∧
          .of config (unitHelpers config models) classes.flatten siblings = module := by
  simp only [Module.ofModels, Outcome.bind_eq_ok, Pure.pure, Except.pure, Except.ok.injEq]

/-- The imports of a module are told apart by their levels. -/
theorem Module.imports_of {config : Config} {used : List Helper} {classes : List ClassDef}
    {names : List String} {siblings : List Import}
    (formed : modelImports config names = .ok siblings) :
    (Module.of config used classes siblings).imports.filter (·.level = 0) =
        (Helper.imports used).flatten ∧
      (Module.of config used classes siblings).imports.filter (·.level ≠ 0) = siblings := by
  have ofHelpers : ∀ entry ∈ (Helper.imports used).flatten, entry.level = 0 :=
    fun _ member => Helper.level_of_mem_imports member
  have ofSiblings := (modelImports_eq_ok formed).1
  simp only [Module.imports, Module.of, List.filter_append]
  constructor
  · rw [List.filter_eq_self.mpr, List.filter_eq_nil_iff.mpr, List.append_nil]
    · intro entry member
      simp [ofSiblings entry member]
    · intro entry member
      simp [ofHelpers entry member]
  · rw [List.filter_eq_nil_iff.mpr, List.filter_eq_self.mpr, List.nil_append]
    · intro entry member
      simp [ofSiblings entry member]
    · intro entry member
      simp [ofHelpers entry member]

end Python

/-! ## Dart -/

namespace Dart

theorem modelImports_eq_ok {config : Config} {names : List String} {imports : List ModelImport}
    (formed : modelImports config names = .ok imports) : imports.map (·.model) = names := by
  have each := imports_eq_ok formed
  clear formed
  induction each with
  | nil => rfl
  | cons first _ ih =>
    obtain ⟨stem, _, rfl⟩ := first
    exact congrArg (_ :: ·) ih

theorem Library.ofModels_eq_ok {config : Config} {models : List Model} {fileStem : String}
    {atHand : List String} {library : Library} :
    Library.ofModels config models fileStem atHand = .ok library ↔
      ∃ imports, modelImports config (Model.imported models atHand) = .ok imports ∧
        ∃ classes, models.mapM (classOf config) = .ok classes ∧
          { comment := if config.comment.isOn then ["// GENERATED CODE - DO NOT MODIFY MANUALLY"] else []
            packages := Dart.packages config, imports, parts := Dart.parts config fileStem
            classes } = library := by
  simp only [Library.ofModels, Outcome.bind_eq_ok, Pure.pure, Except.pure, Except.ok.injEq]

end Dart

/-! ## Either language -/

/-- The classes of a model in the language of a configuration. -/
def declarationsOf (config : Config) (model : Model) : Outcome (List Declaration) :=
  match config.language with
  | .dart => (fun cls => [.dart cls]) <$> Dart.classOf config model
  | .python => List.map .python <$> Python.classesOf config model

/-- The names that the unit of models imports from modules by their full names. -/
def helpersOf (config : Config) (models : List Model) : List (String × String) :=
  match config.language with
  | .dart => []
  | .python => (Python.unitHelpers config models).map fun helper => (helper.module, helper.name)

/-- Each model asks for its own helpers, so those of a unit are those of its models. -/
theorem mem_helpersOf {config : Config} {models : List Model} (inhabited : models ≠ [])
    {pair : String × String} :
    pair ∈ helpersOf config models ↔ ∃ model ∈ models, pair ∈ helpersOf config [model] := by
  obtain ⟨first, rest, rfl⟩ := List.exists_cons_of_ne_nil inhabited
  unfold helpersOf
  cases config.language with
  | dart => simp
  | python =>
    simp only [Python.unitHelpers, List.map_append, List.mem_append, List.flatMap_singleton,
      List.map_flatMap, List.mem_flatMap]
    constructor
    · rintro (common | ⟨model, isModel, asks⟩)
      · exact ⟨first, List.mem_cons_self .., .inl common⟩
      · exact ⟨model, isModel, .inr asks⟩
    · rintro ⟨model, isModel, common | asks⟩
      · exact .inl common
      · exact .inr ⟨model, isModel, asks⟩

/-- What a unit of models holds: the classes of each model in order, the helpers that they ask for,
and the models that they refer to and that are not at hand. -/
structure Draft.Holds (draft : Draft) (config : Config) (models : List Model)
    (atHand : List String) : Prop where
  classes : ∃ lists, models.mapM (declarationsOf config) = .ok lists ∧ draft.classes = lists.flatten
  helpers : ∀ pair, pair ∈ draft.helpers ↔ pair ∈ helpersOf config models
  models : draft.models = Model.imported models atHand

theorem Draft.ofModels_holds {config : Config} {models : List Model} {fileStem : String}
    {atHand : List String} {draft : Draft}
    (formed : Draft.ofModels config models fileStem atHand = .ok draft) :
    draft.Holds config models atHand := by
  unfold Draft.ofModels at formed
  cases language : config.language with
  | dart =>
    simp only [language, Outcome.map_eq_ok] at formed
    obtain ⟨library, ofModels, rfl⟩ := formed
    obtain ⟨imports, ofImports, classes, ofClasses, rfl⟩ := Dart.Library.ofModels_eq_ok.mp ofModels
    have each : declarationsOf config = fun model => (fun cls => [.dart cls]) <$> Dart.classOf config model := by
      funext model
      simp only [declarationsOf, language]
    refine ⟨⟨classes.map fun cls => [.dart cls], ?_, ?_⟩, ?_, ?_⟩
    · rw [each, Outcome.mapM_map, ofClasses]
      rfl
    · exact List.map_eq_flatMap
    · intro pair
      simp only [Draft.helpers, helpersOf, language]
    · exact Dart.modelImports_eq_ok ofImports
  | python =>
    simp only [language, Outcome.map_eq_ok] at formed
    obtain ⟨module, ofModels, rfl⟩ := formed
    obtain ⟨classes, ofClasses, siblings, ofSiblings, rfl⟩ :=
      Python.Module.ofModels_eq_ok.mp ofModels
    obtain ⟨full, relative⟩ := @Python.Module.imports_of config (Python.unitHelpers config models)
      classes.flatten _ _ ofSiblings
    have each : declarationsOf config = fun model => List.map .python <$> Python.classesOf config model := by
      funext model
      simp only [declarationsOf, language]
    refine ⟨⟨classes.map (List.map .python), ?_, ?_⟩, ?_, ?_⟩
    · rw [each, Outcome.mapM_map, ofClasses]
      rfl
    · exact List.map_flatten
    · intro pair
      simp only [Draft.helpers, full, helpersOf, language, List.mem_flatMap, List.mem_map]
      exact Python.Helper.mem_imports
    · simp only [Draft.models, relative]
      exact (Python.modelImports_eq_ok ofSiblings).2

theorem exists_declarationsOf {config : Config} {models : List Model} :
    (∃ lists, models.mapM (declarationsOf config) = .ok lists) ↔
      match config.language with
      | .dart => ∃ classes, models.mapM (Dart.classOf config) = .ok classes
      | .python => ∃ classes, models.mapM (Python.classesOf config) = .ok classes := by
  rw [Outcome.exists_mapM]
  unfold declarationsOf
  cases config.language with
  | dart =>
    simp only [Outcome.exists_mapM, Outcome.map_eq_ok]
    refine forall_congr' fun model => imp_congr_right fun _ => ?_
    exact ⟨fun ⟨_, cls, given, _⟩ => ⟨cls, given⟩, fun ⟨cls, given⟩ => ⟨_, cls, given, rfl⟩⟩
  | python =>
    simp only [Outcome.exists_mapM, Outcome.map_eq_ok]
    refine forall_congr' fun model => imp_congr_right fun _ => ?_
    exact ⟨fun ⟨_, cls, given, _⟩ => ⟨cls, given⟩, fun ⟨cls, given⟩ => ⟨_, cls, given, rfl⟩⟩

/-- There is a unit of models exactly if each has its classes and the stems of all imports can be
formed. -/
theorem Draft.exists_ofModels {config : Config} {models : List Model} {fileStem : String}
    {atHand : List String} :
    (∃ draft, Draft.ofModels config models fileStem atHand = .ok draft) ↔
      (∃ lists, models.mapM (declarationsOf config) = .ok lists) ∧
        ∀ name ∈ Model.imported models atHand, ∃ stem, config.stem name = .ok stem := by
  rw [exists_declarationsOf]
  unfold Draft.ofModels
  cases config.language with
  | dart =>
    constructor
    · rintro ⟨draft, formed⟩
      obtain ⟨library, ofModels, _⟩ := Outcome.map_eq_ok.mp formed
      obtain ⟨imports, ofImports, classes, ofClasses, _⟩ := Dart.Library.ofModels_eq_ok.mp ofModels
      exact ⟨⟨classes, ofClasses⟩, exists_imports.mp ⟨imports, ofImports⟩⟩
    · rintro ⟨⟨classes, ofClasses⟩, stems⟩
      obtain ⟨imports, ofImports⟩ : ∃ imports,
          Dart.modelImports config (Model.imported models atHand) = .ok imports :=
        exists_imports.mpr stems
      obtain ⟨library, ofModels⟩ : ∃ library,
          Dart.Library.ofModels config models fileStem atHand = .ok library :=
        ⟨_, Dart.Library.ofModels_eq_ok.mpr ⟨imports, ofImports, classes, ofClasses, rfl⟩⟩
      exact ⟨_, Outcome.map_eq_ok.mpr ⟨library, ofModels, rfl⟩⟩
  | python =>
    constructor
    · rintro ⟨draft, formed⟩
      obtain ⟨module, ofModels, _⟩ := Outcome.map_eq_ok.mp formed
      obtain ⟨classes, ofClasses, siblings, ofSiblings, _⟩ :=
        Python.Module.ofModels_eq_ok.mp ofModels
      exact ⟨⟨classes, ofClasses⟩, exists_imports.mp ⟨siblings, ofSiblings⟩⟩
    · rintro ⟨⟨classes, ofClasses⟩, stems⟩
      obtain ⟨siblings, ofSiblings⟩ : ∃ siblings,
          Python.modelImports config (Model.imported models atHand) = .ok siblings :=
        exists_imports.mpr stems
      obtain ⟨module, ofModels⟩ : ∃ module,
          Python.Module.ofModels config models atHand = .ok module :=
        ⟨_, Python.Module.ofModels_eq_ok.mpr ⟨classes, ofClasses, siblings, ofSiblings, rfl⟩⟩
      exact ⟨_, Outcome.map_eq_ok.mpr ⟨module, ofModels, rfl⟩⟩

/-! ## The unit of all models -/

/-- The unit of one model from a backend. -/
def Backend.unitOf (backend : Backend) (model : Model) (fileStem : String) : Outcome Draft :=
  (backend.draft [model] fileStem [model.name]).1

/-- The units of models, each from a backend that was not used before and in a file of its own. -/
def unitsOf (config : Config) (models : List Model) (stems : Model → String) :
    Outcome (List Draft) :=
  models.mapM fun model => Backend.unitOf { config } model (stems model)

/-- A unit of all models agrees with the units of each: it has their classes in order and their
helpers, and it imports what they import and the schema does not declare. -/
structure Unites (whole : Draft) (units : List Draft) (declared : List String) : Prop where
  classes : whole.classes = units.flatMap (·.classes)
  helpers : ∀ pair, pair ∈ whole.helpers ↔ ∃ unit ∈ units, pair ∈ unit.helpers
  models : ∀ name, name ∈ whole.models ↔ (∃ unit ∈ units, name ∈ unit.models) ∧ name ∉ declared

/-- Units of single models hold what each of the models asks for, at their places. -/
theorem units_hold {config : Config} {models : List Model} {stems : Model → String}
    {units : List Draft} (formed : unitsOf config models stems = .ok units) :
    List.Forall₂ (fun model unit => unit.Holds config [model] [model.name]) models units := by
  refine (Outcome.mapM_eq_ok.mp formed).imp fun model unit given => ?_
  rw [Backend.unitOf, Backend.draft_fst] at given
  exact Draft.ofModels_holds given

/-- The classes of the unit of one model are those of the model. -/
theorem Draft.Holds.declarationsOf {unit : Draft} {config : Config} {model : Model}
    {atHand : List String} (holds : unit.Holds config [model] atHand) :
    declarationsOf config model = .ok unit.classes := by
  obtain ⟨lists, formed, same⟩ := holds.classes
  rw [List.mapM_cons, List.mapM_nil] at formed
  obtain ⟨first, ofModel, rest⟩ := Outcome.bind_eq_ok.mp formed
  cases rest
  rw [ofModel, same, List.flatten_singleton]

/-- What holds of some model holds of some unit, if it does so place by place. -/
theorem exists_mem_iff {α β : Type} {related : α → β → Prop} {p : α → Prop} {q : β → Prop}
    {models : List α} {units : List β} (each : List.Forall₂ related models units)
    (same : ∀ model unit, related model unit → (p model ↔ q unit)) :
    (∃ model ∈ models, p model) ↔ ∃ unit ∈ units, q unit := by
  induction each with
  | nil => simp
  | cons first _ ih => simp only [List.exists_mem_cons_iff, same _ _ first, ih]

theorem unites_of_holds {config : Config} {models : List Model} {whole : Draft} {units : List Draft}
    (inhabited : models ≠ []) (all : whole.Holds config models (models.map (·.name)))
    (each : List.Forall₂ (fun model unit => unit.Holds config [model] [model.name]) models units) :
    Unites whole units (models.map (·.name)) := by
  refine ⟨?_, ?_, ?_⟩
  · obtain ⟨lists, ofModels, same⟩ := all.classes
    have placed : models.mapM (declarationsOf config) = .ok (units.map (·.classes)) := by
      rw [Outcome.mapM_eq_ok, List.forall₂_map_right_iff]
      exact each.imp fun _ _ holds => holds.declarationsOf
    rw [ofModels] at placed
    rw [same, Except.ok.inj placed, List.flatMap_def]
  · intro pair
    rw [all.helpers, mem_helpersOf inhabited]
    exact exists_mem_iff each fun _ _ holds => (holds.helpers pair).symm
  · intro name
    have own : (∃ model ∈ models, name ∈ Model.imported [model] [model.name]) ↔
        ∃ unit ∈ units, name ∈ unit.models :=
      exists_mem_iff each fun _ _ holds => by rw [holds.models]
    -- a model imports all that it refers to but itself, and it is declared
    rw [all.models, Model.mem_imported, ← own]
    refine and_congr_left fun undeclared => ?_
    refine exists_congr fun model => and_congr_right fun isModel => ?_
    rw [Model.mem_imported_self]
    constructor
    · intro refers
      refine ⟨refers, ?_⟩
      rintro rfl
      exact undeclared (List.mem_map_of_mem isModel)
    · exact And.left

/-- There is a unit of each model exactly if the stems of the other models that they refer to can be
formed, given that they have classes at all. -/
theorem exists_units {config : Config} {models : List Model} {stems : Model → String}
    (formed : ∃ lists, models.mapM (declarationsOf config) = .ok lists) :
    (∃ units, unitsOf config models stems = .ok units) ↔
      ∀ model ∈ models, ∀ name ∈ model.references, name ≠ model.name →
        ∃ stem, config.stem name = .ok stem := by
  have classes := Outcome.exists_mapM.mp formed
  rw [unitsOf, Outcome.exists_mapM]
  refine forall_congr' fun model => forall_congr' fun isModel => ?_
  have alone : ∃ lists, [model].mapM (declarationsOf config) = .ok lists :=
    Outcome.exists_mapM.mpr (by simpa using classes model isModel)
  simp only [Backend.unitOf, Backend.draft_fst, Draft.exists_ofModels, alone, true_and,
    Model.mem_imported_self, and_imp]

/-- The unit of all models is the units of each taken together, whatever a backend was asked for
before those. There is a unit of each exactly if the stems of the models that they refer to can be
formed; the unit of all models takes only the stems of those that are not declared. -/
theorem combined_unites {generation : Generation} {tool : Option Formatter} {output : Option String}
    {result : Generation.Result} (isPlain : generation.formatting = none)
    (inhabited : generation.schema.models ≠ [])
    (returns : generation.combined tool output = .ok result) :
    ∃ fileStem whole,
      (Backend.draft { config := generation.config } generation.schema.models fileStem
        generation.schema.names).1 = .ok whole ∧
      result = { files := [(generation.name, whole.written)] } ∧
      ∀ stems : Model → String,
        (∀ model ∈ generation.schema.models, ∀ calls,
          (Backend.afterAll { config := generation.config } calls).unitOf model (stems model) =
            Backend.unitOf { config := generation.config } model (stems model)) ∧
        ((∃ units, unitsOf generation.config generation.schema.models stems = .ok units) ↔
          ∀ model ∈ generation.schema.models, ∀ name ∈ model.references, name ≠ model.name →
            ∃ stem, generation.config.stem name = .ok stem) ∧
        ∀ units, unitsOf generation.config generation.schema.models stems = .ok units →
          Unites whole units generation.schema.names := by
  obtain ⟨code, ofUnit, formatted⟩ := Outcome.bind_eq_ok.mp returns
  obtain ⟨given, same, formatted⟩ := Outcome.bind_eq_ok.mp formatted
  simp only [Generation.formatted, isPlain] at same
  cases same
  cases formatted
  obtain ⟨whole, drafted, rfl⟩ := Outcome.map_eq_ok.mp ofUnit
  refine ⟨_, whole, drafted, rfl, fun stems => ⟨?_, ?_, ?_⟩⟩
  · intro model _ calls
    rw [Backend.unitOf, Backend.unitOf, Backend.draft_fst, Backend.draft_fst,
      Backend.afterAll_config]
  · rw [Backend.draft_fst] at drafted
    exact exists_units (Draft.exists_ofModels.mp ⟨whole, drafted⟩).1
  · intro units formed
    rw [Backend.draft_fst] at drafted
    exact unites_of_holds inhabited (Draft.ofModels_holds drafted) (units_hold formed)

/-- Owners of pets: two models, of which the first refers to the second and to one that is not
declared. -/
def petGeneration : Generation where
  name := "pets"
  config := { language := .python }
  schema.models :=
    [{ name := "Owner"
       fields := [{ name := "pet", type := .reference "Pet" },
        { name := "shops", type := .array (.reference "Shop") }] },
      { name := "Pet", fields := [{ name := "born", type := .of .dateTime }] }]
  formatting := none

/-- The unit of owners and pets agrees with the unit of owners, which imports pets, and the one of
pets. -/
theorem combined_unites_pets : ∃ result whole units,
    petGeneration.combined none none = .ok result ∧ result.files = [("pets", Draft.written whole)] ∧
      unitsOf petGeneration.config petGeneration.schema.models (·.name) = .ok units ∧
        Unites whole units ["Owner", "Pet"] := by
  have isOk : Outcome.any (petGeneration.combined none none) (fun _ => true) = true := by
    decide +kernel
  obtain ⟨result, returns, _⟩ := Outcome.any_iff.mp isOk
  obtain ⟨fileStem, whole, _, rfl, agree⟩ := combined_unites rfl (by simp [petGeneration]) returns
  obtain ⟨_, formed, unites⟩ := agree (·.name)
  have stems : ∀ name, ∃ stem, petGeneration.config.stem name = .ok stem :=
    Config.exists_stem rfl rfl (by simp)
  obtain ⟨units, given⟩ := formed.mpr fun _ _ name _ _ => stems name
  exact ⟨_, whole, units, returns, rfl, given, unites units given⟩

end SchemaCodegen
