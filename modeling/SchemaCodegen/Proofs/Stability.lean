import SchemaCodegen.Proofs.Parsed

/-!
# Renaming is done once

After models were renamed, none of them needs a new name, whatever the reserved ending and its
replacement have in common. So renaming again changes nothing, and neither does renaming what was read
from a document, since the names that are formed there had their ending looked at already.
-/

namespace SchemaCodegen

/-- A name that was taken from a map of new names needs no other. -/
theorem Naming.needsNewEnding_newName {naming : Naming} {schema : Schema} {name : String}
    (declared : schema.declares name = true)
    (known : ∃ needs, naming.needsNewEnding name = .ok needs) :
    naming.needsNewEnding (schema.newName naming name) = .ok false := by
  obtain ⟨needs, known⟩ := known
  rw [Schema.newName, if_pos declared]
  cases needs with
  | false =>
    rw [newName?_of_needs_not known]
    exact known
  | true =>
    obtain ⟨new, given, renamed⟩ := newName?_of_needs known
    rw [renamed]
    exact needsNewEnding_withNewEnding given

namespace Schema

theorem newNames_of_none {naming : Setting Naming} {schema : Schema} (none_ : schema.models = []) :
    schema.newNames naming = .ok [] := by
  rw [newNames, none_]

theorem newNames_of_some {naming : Setting Naming} {schema : Schema} (some_ : schema.models ≠ []) :
    schema.newNames naming = naming.namer.conventions >>= fun conventions =>
      Renaming.ofModels conventions schema.models := by
  unfold newNames
  split
  next none_ => exact absurd none_ some_
  next => rfl

/-- There are no new names for models that were given theirs. -/
theorem newNames_rename {naming : Setting Naming} {schema : Schema} {newNames : Renaming}
    (formed : schema.newNames naming = .ok newNames) :
    (schema.rename newNames.apply).newNames naming = .ok [] := by
  by_cases none_ : schema.models = []
  · apply newNames_of_none
    rw [rename, none_, List.map_nil]
  · have stillSome : (schema.rename newNames.apply).models ≠ [] := by
      rwa [rename, ne_eq, List.map_eq_nil_iff]
    rw [newNames_of_some none_] at formed
    obtain ⟨conventions, isNamer, formed⟩ := Outcome.bind_eq_ok.mp formed
    rw [newNames_of_some stillSome, isNamer, Outcome.ok_bind, apply_ofModels formed]
    apply Renaming.ofModels_eq_nil
    intro model isModel
    obtain ⟨before, isBefore, rfl⟩ := List.mem_map.mp isModel
    apply Naming.needsNewEnding_newName
    · exact List.contains_iff_mem.mpr (List.mem_map_of_mem isBefore)
    · exact Renaming.exists_ofModels.mp ⟨newNames, formed⟩ before isBefore

theorem normalize_normalize {naming : Setting Naming} {schema result : Schema}
    (renamed : schema.normalize naming = .ok result) : result.normalize naming = .ok result := by
  obtain ⟨newNames, formed, same⟩ := Outcome.bind_eq_ok.mp renamed
  cases same
  exact normalize_of_newNames (newNames_rename formed)

/-- Renaming is stable: once it is done, doing it again changes nothing, under all conventions that are
texts it can be done, and what is read from a document stays as it is, because no class name needs a
new ending. -/
theorem normalize_stable (naming : Setting Naming) :
    (∀ schema : Schema,
      (schema.normalize naming >>= fun result => result.normalize naming) =
        schema.normalize naming) ∧
    (∀ conventions ending replacement, naming.namer = .typed conventions →
      conventions.ending = .typed ending → conventions.replacement = .typed replacement →
      ∀ schema : Schema, ∃ result,
        schema.normalize naming = .ok result ∧ result.normalize naming = .ok result) ∧
    (∀ config document parsed, config.naming = naming →
      Schema.ofDocument config document = .ok parsed → parsed.normalize naming = .ok parsed) ∧
    ∀ conventions raw name, naming.namer.conventions = .ok conventions →
      conventions.className raw = .ok name → conventions.needsNewEnding name = .ok false := by
  refine ⟨?twice, ?returns, ?parsed, fun _ _ _ _ => Naming.needsNewEnding_className⟩
  case twice =>
    intro schema
    cases renamed : schema.normalize naming with
    | error fault => rfl
    | ok result => exact normalize_normalize renamed
  case returns =>
    intro conventions ending replacement isNamer isEnding isReplacement schema
    have given : naming.namer.conventions = .ok conventions := by
      rw [isNamer]
      rfl
    obtain ⟨newNames, formed⟩ := Renaming.exists_ofModels.mpr fun model (_ : model ∈ schema.models) =>
      ⟨_, Naming.needsNewEnding_of_typed isEnding isReplacement model.name⟩
    have renamed : schema.normalize naming = .ok (schema.rename newNames.apply) := by
      rw [normalize, newNames_eq schema given, formed]
      rfl
    exact ⟨_, renamed, normalize_normalize renamed⟩
  case parsed =>
    rintro config document parsed rfl ofDocument
    exact (isParsed_of_document ofDocument).normalize

/-- The parameters of a task get the new ending when they are read, and keep it. -/
theorem normalize_stable_task : ∃ parsed,
    Schema.ofDocument {} (.obj [("task_params", .obj [("properties", .obj [])])]) = .ok parsed ∧
      parsed.names = ["TaskAdapterParams"] ∧ parsed.normalize (.typed {}) = .ok parsed := by
  have run : Outcome.any
      (Schema.ofDocument {} (.obj [("task_params", .obj [("properties", .obj [])])]))
      (fun parsed => decide (parsed.names = ["TaskAdapterParams"])) = true := by
    decide +kernel
  obtain ⟨parsed, ofDocument, named⟩ := Outcome.any_iff.mp run
  exact ⟨parsed, ofDocument, of_decide_eq_true named,
    (normalize_stable (.typed {})).2.2.1 {} _ parsed rfl ofDocument⟩

end Schema

end SchemaCodegen
