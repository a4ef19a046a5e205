import SchemaCodegen.Proofs.Outcome
import SchemaCodegen.Proofs.Stems
import SchemaCodegen.Rendering

/-!
# One unit for each model

Units are kept by the stems of their files. A unit is lost when that of another model has its stem,
so no model is lost exactly if the stems of the models that can be rendered differ. Which names have
the same stem by default is said by their words.
-/

namespace SchemaCodegen

/-! ## Writes -/

namespace Entries

variable {α : Type}

theorem put_of_not_mem {entries : Entries α} {key : String} (fresh : key ∉ entries.keys) (value : α) :
    entries.put key value = entries ++ [(key, value)] := by
  induction entries with
  | nil => rfl
  | cons entry rest ih =>
    obtain ⟨k, v⟩ := entry
    have parts : key ≠ k ∧ key ∉ keys rest := by simpa [keys] using fresh
    rw [put, if_neg (Ne.symm parts.1), ih parts.2, List.cons_append]

theorem length_put_of_mem {entries : Entries α} {key : String} (present : key ∈ entries.keys)
    (value : α) : (entries.put key value).length = entries.length := by
  have same := congrArg List.length (keys_put entries key value)
  rw [if_pos present] at same
  simpa [keys] using same

/-- The entries after some writes, one after the other. -/
def putAll (entries : Entries α) (writes : List (String × α)) : Entries α :=
  writes.foldl (fun entries write => entries.put write.1 write.2) entries

@[simp] theorem putAll_cons (entries : Entries α) (write : String × α) (rest : List (String × α)) :
    entries.putAll (write :: rest) = (entries.put write.1 write.2).putAll rest := rfl

theorem mem_put {entries : Entries α} {key : String} {value : α} {entry : String × α}
    (isEntry : entry ∈ entries.put key value) : entry ∈ entries ∨ entry = (key, value) := by
  induction entries with
  | nil => exact .inr (List.mem_singleton.mp isEntry)
  | cons first rest ih =>
    obtain ⟨k, v⟩ := first
    rw [put] at isEntry
    split at isEntry
    next =>
      rcases List.mem_cons.mp isEntry with rfl | isLater
      · exact .inr (by simp [*])
      · exact .inl (List.mem_cons_of_mem _ isLater)
    next =>
      rcases List.mem_cons.mp isEntry with rfl | isLater
      · exact .inl (List.mem_cons_self ..)
      · exact (ih isLater).imp_left (List.mem_cons_of_mem _)

/-- What is there after some writes was there before or is one of them. -/
theorem mem_putAll {writes : List (String × α)} {entries : Entries α} {entry : String × α}
    (isEntry : entry ∈ entries.putAll writes) : entry ∈ entries ∨ entry ∈ writes := by
  induction writes generalizing entries with
  | nil => exact .inl isEntry
  | cons write rest ih =>
    rcases ih isEntry with isEarlier | isLater
    · rcases mem_put isEarlier with isOld | rfl
      · exact .inl isOld
      · exact .inr (List.mem_cons_self ..)
    · exact .inr (List.mem_cons_of_mem _ isLater)

/-- Writes add at most one entry each. -/
theorem length_putAll_le (writes : List (String × α)) (entries : Entries α) :
    (entries.putAll writes).length ≤ entries.length + writes.length := by
  induction writes generalizing entries with
  | nil => exact Nat.le_refl _
  | cons write rest ih =>
    have later := ih (entries.put write.1 write.2)
    have first : (entries.put write.1 write.2).length ≤ entries.length + 1 := by
      by_cases present : write.1 ∈ entries.keys
      · rw [length_put_of_mem present]
        omega
      · simp [put_of_not_mem present]
    rw [putAll_cons, List.length_cons]
    omega

/-- Writes at new keys that differ are all kept, in order. -/
theorem putAll_of_nodup {writes : List (String × α)} {entries : Entries α}
    (fresh : (entries.keys ++ writes.map Prod.fst).Nodup) :
    entries.putAll writes = entries ++ writes := by
  induction writes generalizing entries with
  | nil => exact (List.append_nil _).symm
  | cons write rest ih =>
    have isNew : write.1 ∉ entries.keys := by
      intro present
      exact (List.nodup_append.mp fresh).2.2 _ present _ (List.mem_cons_self ..) rfl
    rw [putAll_cons, put_of_not_mem isNew, ih, List.append_assoc, List.singleton_append]
    simpa [keys] using fresh

/-- All writes are kept exactly if their keys are new and differ. -/
theorem length_putAll_iff {writes : List (String × α)} {entries : Entries α}
    (distinct : entries.keys.Nodup) :
    (entries.putAll writes).length = entries.length + writes.length ↔
      (entries.keys ++ writes.map Prod.fst).Nodup := by
  constructor
  · intro all
    induction writes generalizing entries with
    | nil => simpa using distinct
    | cons write rest ih =>
      rw [putAll_cons, List.length_cons] at all
      by_cases present : write.1 ∈ entries.keys
      · -- one entry is missing then, and later writes add one each at most
        have few := length_putAll_le rest (entries.put write.1 write.2)
        rw [length_put_of_mem present] at few
        omega
      · have keysPut : (entries.put write.1 write.2).keys = entries.keys ++ [write.1] := by
          rw [keys_put, if_neg present]
        have lengthPut : (entries.put write.1 write.2).length = entries.length + 1 := by
          rw [put_of_not_mem present, List.length_append, List.length_singleton]
        have distinctPut : (entries.put write.1 write.2).keys.Nodup := by
          rw [keysPut]
          refine List.nodup_append.mpr ⟨distinct, List.pairwise_singleton _ _, ?_⟩
          intro key isOld new isNew same
          exact present (List.mem_singleton.mp isNew ▸ same ▸ isOld)
        have later := ih distinctPut (by omega)
        rw [keysPut] at later
        simpa using later
  · intro fresh
    rw [putAll_of_nodup fresh, List.length_append]

end Entries

namespace Generation

/-! ## Preparation -/

/-- What is prepared of a schema: its names are settled, and its references pass the check if that is
asked for. -/
theorem ofSchema_eq_ok {name : String} {config : Config} {schema : Schema} {generation : Generation}
    (formed : ofSchema name config schema = .ok generation) :
    ∃ renamed options isFormatted, schema.normalize config.naming = .ok renamed ∧
      (config.checkReferences.isOn = true → renamed.check = .ok ()) ∧
      config.formatting.options = .ok options ∧ config.isFormatted = .ok isFormatted ∧
      generation = { name, config, schema := renamed
                     formatting := if isFormatted then some options else none } := by
  obtain ⟨renamed, normalized, formed⟩ := Outcome.bind_eq_ok.mp formed
  split at formed
  next =>
    obtain ⟨_, passes, formed⟩ := Outcome.bind_eq_ok.mp formed
    obtain ⟨options, isOptions, formed⟩ := Outcome.bind_eq_ok.mp formed
    obtain ⟨isFormatted, given, same⟩ := Outcome.bind_eq_ok.mp formed
    cases same
    exact ⟨renamed, options, isFormatted, normalized, fun _ => passes, isOptions, given, rfl⟩
  next isOff =>
    obtain ⟨options, isOptions, formed⟩ := Outcome.bind_eq_ok.mp formed
    obtain ⟨isFormatted, given, same⟩ := Outcome.bind_eq_ok.mp formed
    cases same
    exact ⟨renamed, options, isFormatted, normalized, fun isOn => absurd isOn isOff, isOptions,
      given, rfl⟩

theorem config_of_ofSchema {name : String} {config : Config} {schema : Schema}
    {generation : Generation} (formed : ofSchema name config schema = .ok generation) :
    generation.config = config := by
  obtain ⟨_, _, _, _, _, _, _, rfl⟩ := ofSchema_eq_ok formed
  rfl

/-! ## The units of models -/

/-- The unit of a model as a file. -/
def ModelUnit.file? (unit : ModelUnit) : Option (String × String) :=
  match unit.code with
  | .ok code => some (unit.stem, code)
  | .error _ => none

/-- Why there is no unit of a model. -/
def ModelUnit.fault? (unit : ModelUnit) : Option (String × Fault) :=
  match unit.code with
  | .ok _ => none
  | .error fault => some (unit.model, fault)

/-- A unit is a file or has a fault, never both. -/
theorem ModelUnit.file_or_fault (unit : ModelUnit) :
    (∃ code, unit.code = .ok code ∧ unit.file? = some (unit.stem, code) ∧ unit.fault? = none) ∨
      ∃ fault, unit.code = .error fault ∧ unit.file? = none ∧
        unit.fault? = some (unit.model, fault) := by
  unfold file? fault?
  cases unit.code with
  | ok code => exact .inl ⟨code, rfl, rfl, rfl⟩
  | error fault => exact .inr ⟨fault, rfl, rfl, rfl⟩

/-- Files and faults are written apart from each other. -/
theorem foldl_add (units : List ModelUnit) (result : Result) :
    units.foldl Result.add result =
      { files := result.files.putAll (units.filterMap (·.file?))
        faults := result.faults.putAll (units.filterMap (·.fault?)) } := by
  induction units generalizing result with
  | nil => rfl
  | cons unit rest ih =>
    rw [List.foldl_cons, ih, List.filterMap_cons, List.filterMap_cons]
    rcases unit.file_or_fault with ⟨code, isOk, isFile, noFault⟩ | ⟨fault, isError, noFile, isFault⟩
    · simp only [Result.add, isOk, isFile, noFault, Entries.putAll_cons]
    · simp only [Result.add, isError, noFile, isFault, Entries.putAll_cons]

/-- Each unit is counted as a file or as a fault. -/
theorem length_files_add_faults (units : List ModelUnit) :
    (units.filterMap (·.file?)).length + (units.filterMap (·.fault?)).length = units.length := by
  induction units with
  | nil => rfl
  | cons unit rest ih =>
    rw [List.filterMap_cons, List.filterMap_cons, List.length_cons]
    rcases unit.file_or_fault with ⟨code, _, isFile, noFault⟩ | ⟨fault, _, noFile, isFault⟩
    · simp only [isFile, noFault, List.length_cons]
      omega
    · simp only [noFile, isFault, List.length_cons]
      omega

/-- Whether the unit of a model can be rendered. -/
def renders (generation : Generation) (tool : Option Formatter) (output : Option String)
    (model : Model) : Bool :=
  Outcome.any (generation.modelUnit tool output model) (·.code.isOk)

theorem modelUnit_eq_ok {generation : Generation} {tool : Option Formatter} {output : Option String}
    {model : Model} {unit : ModelUnit} (given : generation.modelUnit tool output model = .ok unit) :
    unit.model = model.name ∧ generation.config.stem model.name = .ok unit.stem := by
  obtain ⟨stem, stemmed, given⟩ := Outcome.bind_eq_ok.mp given
  rw [stemmed]
  split at given
  next =>
    cases given
    exact ⟨rfl, rfl⟩
  next =>
    split at given
    · cases given
      exact ⟨rfl, rfl⟩
    · cases given

theorem code_of_modelUnit {generation : Generation} {tool : Option Formatter}
    {output : Option String} {model : Model} {unit : ModelUnit} {code : String}
    (given : generation.modelUnit tool output model = .ok unit) (isOk : unit.code = .ok code) :
    generation.modelCode tool output model unit.stem = .ok code := by
  obtain ⟨stem, _, given⟩ := Outcome.bind_eq_ok.mp given
  split at given
  next rendered =>
    cases given
    cases isOk
    exact rendered
  next =>
    split at given
    · cases given
      cases isOk
    · cases given

/-- A file of a split is the unit of one of the models. -/
theorem exists_of_files {generation : Generation} {tool : Option Formatter} {output : Option String}
    {result : Result} (returns : generation.split tool output = .ok result)
    {file : String × String} (isFile : file ∈ result.files) :
    ∃ model ∈ generation.schema.models, generation.config.stem model.name = .ok file.1 ∧
      generation.modelCode tool output model file.1 = .ok file.2 := by
  obtain ⟨units, given, same⟩ := Outcome.bind_eq_ok.mp returns
  cases same
  rw [foldl_add] at isFile
  rcases Entries.mem_putAll isFile with impossible | isUnit
  · cases impossible
  obtain ⟨unit, isUnit, ofUnit⟩ := List.mem_filterMap.mp isUnit
  obtain ⟨model, isModel, given⟩ := Outcome.exists_left (Outcome.mapM_eq_ok.mp given) isUnit
  have stemmed := (modelUnit_eq_ok given).2
  rcases unit.file_or_fault with ⟨code, isOk, isFile, _⟩ | ⟨_, _, noFile, _⟩
  · rw [isFile] at ofUnit
    cases ofUnit
    exact ⟨model, isModel, stemmed, code_of_modelUnit given isOk⟩
  · rw [noFile] at ofUnit
    cases ofUnit

theorem renders_eq {generation : Generation} {tool : Option Formatter} {output : Option String}
    {model : Model} {unit : ModelUnit} (given : generation.modelUnit tool output model = .ok unit) :
    generation.renders tool output model = unit.code.isOk := by
  rw [renders, given, Outcome.any]

/-- Files have the stems of the rendered models, in order. -/
theorem stems_of_files {generation : Generation} {tool : Option Formatter} {output : Option String}
    {models : List Model} {units : List ModelUnit}
    (each : List.Forall₂ (fun model unit => generation.modelUnit tool output model = .ok unit)
      models units) :
    (units.filterMap (·.file?)).map (fun file => Except.ok file.1) =
      (models.filter (generation.renders tool output)).map (generation.config.stem ·.name) := by
  induction each with
  | nil => rfl
  | @cons model unit models units given _ ih =>
    have stem := (modelUnit_eq_ok given).2
    rw [List.filterMap_cons]
    rcases unit.file_or_fault with ⟨code, isOk, isFile, _⟩ | ⟨fault, isError, noFile, _⟩
    · have renders : generation.renders tool output model = true := by
        rw [renders_eq given, isOk]
        rfl
      rw [List.filter_cons_of_pos renders, isFile, List.map_cons, List.map_cons, stem, ih]
    · have rendersNot : ¬generation.renders tool output model = true := by
        rw [renders_eq given, isError]
        exact Bool.false_ne_true
      rw [List.filter_cons_of_neg rendersNot, noFile, ih]

theorem models_of_faults {generation : Generation} {tool : Option Formatter} {output : Option String}
    {models : List Model} {units : List ModelUnit}
    (each : List.Forall₂ (fun model unit => generation.modelUnit tool output model = .ok unit)
      models units) :
    ((units.filterMap (·.fault?)).map Prod.fst).Sublist (models.map (·.name)) := by
  induction each with
  | nil => exact List.Sublist.refl _
  | @cons model unit models units given _ ih =>
    rw [List.filterMap_cons, List.map_cons]
    rcases unit.file_or_fault with ⟨_, _, _, noFault⟩ | ⟨fault, _, _, isFault⟩
    · rw [noFault]
      exact ih.cons _
    · rw [isFault, List.map_cons, (modelUnit_eq_ok given).1]
      exact ih.cons_cons _

/-- The stems of models differ by default: the words of their names do so at the end, where `params`
counts as `adapter`, and `adapter` and `params` behind other words as `adapter` alone. -/
def StemsDiffer (models : List Model) : Prop :=
  models.Pairwise fun model other =>
    Words.ofStem (Words.ofName model.name) ≠ Words.ofStem (Words.ofName other.name)

theorem nodup_stems_iff {config : Config} (byDefault : config.namer = .ok {}) {models : List Model} :
    (models.map (config.stem ·.name)).Nodup ↔ StemsDiffer models := by
  have stem : ∀ name, config.stem name = Naming.fileStem {} name := by
    intro name
    rw [Config.stem, byDefault, Outcome.ok_bind]
  rw [List.Nodup, List.pairwise_map, StemsDiffer]
  simp only [stem, ne_eq, Naming.fileStem_default_eq_iff]

theorem split_eq_ok {generation : Generation} {tool : Option Formatter} {output : Option String}
    {result : Result} (returns : generation.split tool output = .ok result) :
    ∃ units, generation.schema.models.mapM (generation.modelUnit tool output) = .ok units ∧
      result.files = Entries.putAll [] (units.filterMap (·.file?)) ∧
      result.faults = Entries.putAll [] (units.filterMap (·.fault?)) := by
  obtain ⟨units, given, same⟩ := Outcome.bind_eq_ok.mp returns
  cases same
  rw [foldl_add]
  exact ⟨units, given, rfl, rfl⟩

/-- A split returns exactly if each model has an outcome. -/
theorem exists_split_iff {generation : Generation} {tool : Option Formatter} {output : Option String} :
    (∃ result, generation.split tool output = .ok result) ↔
      ∀ model ∈ generation.schema.models, ∃ unit, generation.modelUnit tool output model = .ok unit := by
  rw [split, Outcome.exists_bind, ← Outcome.exists_mapM]
  exact exists_congr fun units => and_iff_left_of_imp fun _ => ⟨_, rfl⟩

/-- A schema whose models have different names is rendered model by model with none lost exactly if
the stems of those that can be rendered differ. Then each of these has a file of its own, in order;
the others always have their fault. -/
theorem split_keeps_all_iff {generation : Generation} {tool : Option Formatter}
    {output : Option String} {result : Result} (byDefault : generation.config.namer = .ok {})
    (distinct : generation.schema.names.Nodup) (returns : generation.split tool output = .ok result) :
    (result.files.length + result.faults.length = generation.schema.models.length ↔
      StemsDiffer (generation.schema.models.filter (generation.renders tool output))) ∧
    ∃ units, generation.schema.models.mapM (generation.modelUnit tool output) = .ok units ∧
      result.faults = units.filterMap (·.fault?) ∧
      (StemsDiffer (generation.schema.models.filter (generation.renders tool output)) →
        result.files = units.filterMap (·.file?)) := by
  obtain ⟨units, given, isFiles, isFaults⟩ := split_eq_ok returns
  have each := Outcome.mapM_eq_ok.mp given
  have faults : result.faults = units.filterMap (·.fault?) := by
    rw [isFaults, Entries.putAll_of_nodup, List.nil_append]
    exact (models_of_faults each).nodup distinct
  have stems : ((units.filterMap (·.file?)).map Prod.fst).Nodup ↔
      StemsDiffer (generation.schema.models.filter (generation.renders tool output)) := by
    rw [← nodup_stems_iff byDefault, ← stems_of_files each, List.Nodup, List.Nodup,
      List.pairwise_map, List.pairwise_map]
    simp only [ne_eq, Except.ok.injEq]
  have kept : result.files.length = (units.filterMap (·.file?)).length ↔
      ((units.filterMap (·.file?)).map Prod.fst).Nodup := by
    have writes := @Entries.length_putAll_iff _ (units.filterMap (·.file?)) [] List.nodup_nil
    simpa [isFiles, Entries.keys] using writes
  have counted := length_files_add_faults units
  have sameLength : units.length = generation.schema.models.length := each.length_eq.symm
  refine ⟨?_, units, given, faults, ?_⟩
  · rw [← stems, ← kept, faults]
    omega
  · intro differ
    rw [isFiles, Entries.putAll_of_nodup, List.nil_append]
    exact stems.mpr differ

/-- Two models without fields, whose stems differ. -/
def taskGeneration : Generation where
  name := "task"
  config := {}
  schema := { models := [{ name := "Task" }, { name := "TaskAdapter" }] }
  formatting := none

/-- Neither of two models with the stems `task` and `task_adapter` is lost. -/
theorem split_keeps_task : ∃ result, taskGeneration.split none none = .ok result ∧
    result.files.length + result.faults.length = 2 := by
  have isOk : Outcome.any (taskGeneration.split none none) (fun _ => true) = true := by
    decide +kernel
  obtain ⟨result, returns, _⟩ := Outcome.any_iff.mp isOk
  have differ : StemsDiffer (taskGeneration.schema.models.filter (taskGeneration.renders none none)) := by
    unfold StemsDiffer
    decide +kernel
  exact ⟨result, returns, (split_keeps_all_iff rfl (by decide) returns).1.mpr differ⟩

/-- Two models without fields, the second with the reserved ending. -/
def taskDocument : Json.Value :=
  .obj [("task_adapter", .obj [("properties", .obj [])]),
    ("task_params", .obj [("properties", .obj [])])]

/-- Two models with different names become one file: that of the second replaces that of the first,
and nothing is reported. -/
theorem split_loses_task_adapter : ∃ generation result,
    Generation.ofDocument "task" {} taskDocument = .ok generation ∧
      generation.split none none = .ok result ∧ generation.config = {} ∧
      generation.schema.names = ["TaskAdapter", "TaskAdapterParams"] ∧
      result.files.length + result.faults.length = 1 := by
  have run : Outcome.any (Generation.ofDocument "task" {} taskDocument) (fun generation =>
      Outcome.any (generation.split none none) fun result =>
        generation.config = {} && generation.schema.names = ["TaskAdapter", "TaskAdapterParams"] &&
          result.files.length + result.faults.length = 1) = true := by
    decide +kernel
  obtain ⟨generation, formed, run⟩ := Outcome.any_iff.mp run
  obtain ⟨result, returns, run⟩ := Outcome.any_iff.mp run
  simp only [Bool.and_eq_true, decide_eq_true_eq] at run
  exact ⟨generation, result, formed, returns, run.1.1, run.1.2, run.2⟩

end Generation

end SchemaCodegen
