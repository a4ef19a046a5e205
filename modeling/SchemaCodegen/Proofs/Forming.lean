import SchemaCodegen.Backend

/-!
# Forming a unit gives what the unit holds

The classes of a unit are formed one after the other, and each adds what it asks for to the notes of
those before it, also when a later part of it fails. `Forms` says that a program gives a fixed result
whatever was noted before, and that the notes of a result grow by fixed helpers. It holds of every
step, hence of whole models, and so the module that is formed is the one that `Module.ofModels`
describes.
-/

namespace SchemaCodegen.Python

/-- A program that gives `result` whatever was noted before it; if that is no failure, `helpers` are
noted after it beside what was noted before. -/
def Forms {α : Type} (program : Forming α) (result : Outcome α) (helpers : List Helper) : Prop :=
  ∀ noted, (program.run.run noted).1 = result ∧
    ∀ value, result = .ok value →
      ∀ helper, helper ∈ (program.run.run noted).2 ↔ helper ∈ noted ∨ helper ∈ helpers

theorem mem_noting {noted helpers : List Helper} {helper : Helper} :
    helper ∈ Forming.noting noted helpers ↔ helper ∈ noted ∨ helper ∈ helpers := by
  by_cases present : helper ∈ noted <;> simp [Forming.noting, present]

/-- The second of two programs starts from the notes of the first, unless that fails. -/
theorem Forming.run_bind {α β : Type} (program : Forming α) (next : α → Forming β)
    (noted : List Helper) :
    (program >>= next).run.run noted =
      match program.run.run noted with
      | (.ok value, noted) => (next value).run.run noted
      | (.error fault, noted) => (.error fault, noted) := by
  simp only [Bind.bind, ExceptT.bind, ExceptT.mk, ExceptT.run, StateT.run, StateT.bind]
  generalize program noted = after
  obtain ⟨outcome, _⟩ := after
  cases outcome <;> rfl

namespace Forms

variable {α β : Type}

theorem pure (value : α) : Forms (Pure.pure value) (.ok value) [] := by
  intro noted
  refine ⟨rfl, ?_⟩
  intro _ _ helper
  show helper ∈ noted ↔ helper ∈ noted ∨ helper ∈ []
  simp

theorem of (result : Outcome α) : Forms (Forming.of result) result [] := by
  intro noted
  refine ⟨rfl, ?_⟩
  intro _ _ helper
  show helper ∈ noted ↔ helper ∈ noted ∨ helper ∈ []
  simp

theorem note (helpers : List Helper) : Forms (Forming.note helpers) (.ok ⟨⟩) helpers := by
  intro noted
  refine ⟨rfl, ?_⟩
  intro _ _ helper
  exact mem_noting

/-- What two programs ask for one after the other is noted together. -/
theorem bind {program : Forming α} {result : Outcome α} {helpers : List Helper}
    {next : α → Forming β} {nextResult : α → Outcome β} {nextHelpers : List Helper}
    (first : Forms program result helpers)
    (second : ∀ value, result = .ok value → Forms (next value) (nextResult value) nextHelpers) :
    Forms (program >>= next) (result >>= nextResult) (helpers ++ nextHelpers) := by
  intro noted
  obtain ⟨same, grows⟩ := first noted
  rw [Forming.run_bind]
  generalize program.run.run noted = after at same grows
  obtain ⟨outcome, between⟩ := after
  subst same
  cases outcome with
  | error fault => exact ⟨rfl, fun value impossible => nomatch impossible⟩
  | ok value =>
    obtain ⟨sameNext, growsNext⟩ := second value rfl between
    refine ⟨sameNext, ?_⟩
    intro final given helper
    rw [growsNext final given helper, grows value rfl helper, List.mem_append, or_assoc]

theorem map {program : Forming α} {result : Outcome α} {helpers : List Helper} (f : α → β)
    (first : Forms program result helpers) :
    Forms (do return f (← program)) (do return f (← result)) helpers := by
  have both := bind first fun value _ => Forms.pure (f value)
  rwa [List.append_nil] at both

/-- Only the set of helpers counts. -/
theorem congr {program : Forming α} {result : Outcome α} {helpers others : List Helper}
    (first : Forms program result helpers)
    (same : ∀ value, result = .ok value → ∀ helper, helper ∈ helpers ↔ helper ∈ others) :
    Forms program result others := by
  intro noted
  obtain ⟨given, grows⟩ := first noted
  refine ⟨given, ?_⟩
  intro value ok helper
  rw [grows value ok helper, same value ok helper]

/-- A list of programs asks for what each of them asks for. -/
theorem mapM {f : α → Forming β} {g : α → Outcome β} {helpers : α → List Helper} (list : List α)
    (each : ∀ a, Forms (f a) (g a) (helpers a)) :
    Forms (list.mapM f) (list.mapM g) (list.flatMap helpers) := by
  induction list with
  | nil => exact Forms.pure []
  | cons head tail ih =>
    rw [List.mapM_cons, List.mapM_cons, List.flatMap_cons]
    exact bind (each head) fun first _ => map (first :: ·) ih

end Forms

/-! ## Classes -/

variable (config : Config)

theorem forms_field (field : Field) (default : Option Expr) :
    Forms (Forming.field config field default) (fieldPart config field default)
      (fieldHelpers config field) := by
  have annotated := Forms.bind (Forms.of (Expr.read (nullableType field.type field.nullable)))
    fun type _ => Forms.bind (Forms.note (valueHelpers config field))
      fun _ _ => Forms.pure (fieldOf config field default type)
  have whole := Forms.bind (Forms.note (Helper.ofType field.type)) fun _ _ => annotated
  refine Forms.congr whole ?_
  intro _ _ helper
  simp [fieldHelpers]

theorem forms_armClass (model : Model) (key : String) (variant : Variant) :
    Forms (Forming.armClass config model key variant) (armClass config model key variant)
      (variant.fields.flatMap (fieldHelpers config) ++ libraryHelpers config) := by
  have fields := Forms.mapM variant.fields
    fun field => forms_field config field (armDefault key variant field)
  have noted := Forms.bind fields fun parts _ =>
    Forms.bind (Forms.note (libraryHelpers config))
      fun _ _ => Forms.pure (armClassOf config model variant parts)
  refine Forms.congr noted ?_
  intro _ _ helper
  simp

/-- The library is asked for with every arm, so it takes an arm to ask for it. -/
theorem forms_arms (model : Model) (key : String) (arms : List Variant) (present : arms ≠ []) :
    Forms (arms.mapM (Forming.armClass config model key)) (arms.mapM (armClass config model key))
      ((arms.flatMap (·.fields)).flatMap (fieldHelpers config) ++ libraryHelpers config) := by
  refine Forms.congr (Forms.mapM arms (forms_armClass config model key)) ?_
  intro _ _ helper
  obtain ⟨first, rest, rfl⟩ := List.exists_cons_of_ne_nil present
  simp only [List.mem_flatMap, List.mem_append]
  constructor
  · rintro ⟨variant, isArm, ⟨field, isField, asks⟩ | library⟩
    · exact .inl ⟨field, ⟨variant, isArm, isField⟩, asks⟩
    · exact .inr library
  · rintro (⟨field, ⟨variant, isArm, isField⟩, asks⟩ | library)
    · exact ⟨variant, isArm, .inl ⟨field, isField, asks⟩⟩
    · exact ⟨first, by simp, .inr library⟩

theorem forms_unionBase (model : Model) (key : String) :
    Forms (Forming.unionBase config model key) (unionBase config model key)
      (.abc :: model.fields.flatMap (fieldHelpers config) ++ objectHelpers config) := by
  have fields := Forms.mapM model.fields fun field => forms_field config field none
  have rest := Forms.bind fields fun parts _ =>
    Forms.bind (Forms.note (objectHelpers config))
      fun _ _ => Forms.pure (unionBaseOf config model key parts)
  refine Forms.congr (Forms.bind (Forms.note [.abc]) fun _ _ => rest) ?_
  intro _ _ helper
  simp

/-- A union that passes its check has arms. -/
theorem arms_ne_nil_of_checkUnion {model : Model} {key : String}
    (passes : model.checkUnion = .ok key) : model.arms ≠ [] := by
  intro none_
  unfold Model.checkUnion at passes
  split at passes
  · cases passes
  · simp [none_] at passes

theorem forms_unionClasses (model : Model) :
    Forms (Forming.unionClasses config model) (unionClasses config model)
      (.abc :: model.allFields.flatMap (fieldHelpers config) ++ objectHelpers config ++
        libraryHelpers config) := by
  have classes := Forms.bind (Forms.of model.checkUnion) fun key passes =>
    Forms.bind (forms_unionBase config model key) fun base _ =>
      Forms.map (base :: ·)
        (forms_arms config model key model.arms (arms_ne_nil_of_checkUnion passes))
  refine Forms.congr classes ?_
  intro _ _ helper
  simp only [Model.allFields, List.flatMap_append, List.mem_append, List.mem_cons,
    List.nil_append, List.cons_append]
  grind

theorem forms_dataClass (model : Model) :
    Forms (Forming.dataClass config model) (dataClass config model)
      (model.fields.flatMap (fieldHelpers config) ++ libraryHelpers config) := by
  have fields := Forms.mapM model.fields fun field => forms_field config field none
  have noted := Forms.bind fields fun parts _ =>
    Forms.bind (Forms.note (libraryHelpers config))
      fun _ _ => Forms.pure (dataClassOf config model parts)
  refine Forms.congr noted ?_
  intro _ _ helper
  simp

theorem forms_plainClass (model : Model) :
    Forms (Forming.plainClass config model) (plainClass config model)
      (model.flattened.flatMap (fieldHelpers config) ++ objectHelpers config ++
        castHelpers config model.flattened) := by
  have fields := Forms.mapM model.flattened fun field => forms_field config field none
  have noted := Forms.bind fields fun parts _ =>
    Forms.bind (Forms.note (objectHelpers config)) fun _ _ =>
      Forms.bind (Forms.note (castHelpers config model.flattened))
        fun _ _ => Forms.pure (plainClassOf config model parts)
  refine Forms.congr noted ?_
  intro _ _ helper
  simp

/-- The classes of a model, in whichever style, ask for the helpers of the model. -/
theorem forms_classesOf (model : Model) :
    Forms (Forming.classesOf config model) (classesOf config model) (modelHelpers config model) := by
  unfold Forming.classesOf classesOf modelHelpers
  split
  · exact Forms.map (fun cls => [cls]) (forms_plainClass config model)
  · split
    · exact forms_unionClasses config model
    · exact Forms.map (fun cls => [cls]) (forms_dataClass config model)

/-! ## Modules -/

/-- Imports depend on the set of helpers only. -/
theorem importOf_congr {used others : List Helper} (same : ∀ helper, helper ∈ used ↔ helper ∈ others)
    (helpers : List Helper) : Helper.importOf used helpers = Helper.importOf others helpers := by
  have contains : used.contains = others.contains := by
    funext helper
    rw [Bool.eq_iff_iff, List.contains_iff_mem, List.contains_iff_mem, same helper]
  rw [Helper.importOf, Helper.importOf, contains]

theorem imports_congr {used others : List Helper} (same : ∀ helper, helper ∈ used ↔ helper ∈ others) :
    Helper.imports used = Helper.imports others := by
  have each : Helper.importOf used = Helper.importOf others := by
    funext helpers
    exact importOf_congr same helpers
  rw [Helper.imports, Helper.imports, each]

/-- The module that is formed is the one that models describe, whatever was noted before. -/
theorem module_run (models : List Model) (atHand : List String) (noted : List Helper) :
    ((Forming.module config models atHand).run.run noted).1 =
      Module.ofModels config models atHand := by
  obtain ⟨same, grows⟩ := Forms.mapM models (forms_classesOf config) (commonHelpers config)
  -- a module begins with the common helpers, whatever was noted before
  have start : (set (commonHelpers config) : Forming PUnit).run.run noted =
      (.ok ⟨⟩, commonHelpers config) := rfl
  simp only [Forming.module, Forming.run_bind, start]
  unfold Module.ofModels
  rw [← same]
  generalize (models.mapM (Forming.classesOf config)).run.run (commonHelpers config) = after
    at same grows ⊢
  obtain ⟨outcome, between⟩ := after
  cases outcome with
  | error fault => rfl
  | ok classes =>
    have helpers : Helper.imports between = Helper.imports (unitHelpers config models) := by
      refine imports_congr fun helper => ?_
      rw [grows classes same.symm helper, unitHelpers, List.mem_append]
    cases imports : modelImports config (Model.imported models atHand) with
    | error fault => rfl
    | ok siblings =>
      show Except.ok (Module.of config between classes.flatten siblings) =
        Except.ok (Module.of config (unitHelpers config models) classes.flatten siblings)
      rw [Module.of, Module.of, helpers]

end SchemaCodegen.Python
