import SchemaCodegen.Proofs.Renaming
import Mathlib.Data.List.Infix
import Mathlib.Data.List.Nodup

/-!
# Which models renaming keeps apart

By the conventions that hold if none are set, a new name can be one that another model has already:
then two models have one name after renaming, and what led to the later one leads to the earlier one.
This happens for names that differ in the new ending only, and for no others.
-/

namespace SchemaCodegen

/-! ## Names that become others -/

namespace Naming

/-- Whether a name becomes the other by the conventions that hold if none are set: what stands before
`Params` gets `AdapterParams` behind it, unless it ends with `Adapter` already. -/
def Becomes (name new : String) : Prop :=
  ∃ front, Ending.isEndOf "Adapter" front = false ∧ name = front ++ "Params" ∧
    new = front ++ "AdapterParams"

theorem isEndOf_adapterParams (front : String) :
    Ending.isEndOf "AdapterParams" (front ++ "Params") = Ending.isEndOf "Adapter" front :=
  Ending.isEndOf_append_append front "Adapter" "Params"

theorem replaced_of_newName? {name new : String} (renamed : newName? {} name = some new) :
    new = Ending.replaced "Params" "AdapterParams" name := by
  obtain ⟨ending, replacement, isEnding, isReplacement, same⟩ := newName?_eq_some renamed
  cases isEnding
  cases isReplacement
  exact same

theorem newName?_default_iff {name new : String} :
    newName? {} name = some new ↔ Becomes name new := by
  have needs := @needsNewEnding_of_typed {} _ _ rfl rfl name
  constructor
  · intro renamed
    have isNeeded : (Ending.isEndOf "Params" name && !Ending.isEndOf "AdapterParams" name) = true := by
      by_contra notNeeded
      rw [Bool.not_eq_true] at notNeeded
      rw [notNeeded] at needs
      rw [newName?_of_needs_not needs] at renamed
      cases renamed
    rw [Bool.and_eq_true, Bool.not_eq_true'] at isNeeded
    obtain ⟨front, rfl⟩ := Ending.exists_of_isEndOf isNeeded.1
    rw [isEndOf_adapterParams] at isNeeded
    refine ⟨front, isNeeded.2, rfl, ?_⟩
    rw [replaced_of_newName? renamed, Ending.replaced_append (by decide)]
  · rintro ⟨front, noAdapter, rfl, rfl⟩
    rw [Ending.isEndOf_append, isEndOf_adapterParams, noAdapter] at needs
    obtain ⟨new, _, renamed⟩ := newName?_of_needs needs
    rw [renamed, replaced_of_newName? renamed, Ending.replaced_append (by decide)]

instance (name new : String) : Decidable (Becomes name new) :=
  decidable_of_iff _ newName?_default_iff

/-- A new name needs no other, so no name becomes itself. -/
theorem Becomes.ne {name new : String} (becomes : Becomes name new) : name ≠ new := by
  rintro rfl
  have renamed := newName?_default_iff.mpr becomes
  rw [newName?_new renamed] at renamed
  cases renamed

/-- A front is told by the name that ends with it. -/
theorem Becomes.injective {name other new : String} (first : Becomes name new)
    (second : Becomes other new) : name = other := by
  obtain ⟨front, _, rfl, rfl⟩ := first
  obtain ⟨front', _, rfl, same⟩ := second
  rw [(String.append_left_inj "AdapterParams").mp same]

/-- Two names are given one new name exactly if one of them becomes the other. -/
theorem getD_newName?_eq_iff {name other : String} (different : name ≠ other) :
    (newName? {} name).getD name = (newName? {} other).getD other ↔
      Becomes name other ∨ Becomes other name := by
  rw [← newName?_default_iff, ← newName?_default_iff]
  cases ofName : newName? {} name with
  | none =>
    cases ofOther : newName? {} other with
    | none => simp [different]
    | some new => simp [eq_comm]
  | some new =>
    cases ofOther : newName? {} other with
    | none => simp
    | some new' =>
      constructor
      · rintro rfl
        exact absurd (Becomes.injective (newName?_default_iff.mp ofName)
          (newName?_default_iff.mp ofOther)) different
      · -- what a name becomes has no new name itself
        rintro (same | same)
        · cases same
          rw [newName?_new ofName] at ofOther
          cases ofOther
        · cases same
          rw [newName?_new ofOther] at ofName
          cases ofName

end Naming

/-! ## Links between models -/

/-- The names by which a model leads to others: the targets of its references, its parent and the
values of its union cases. -/
def Model.links (model : Model) : List String :=
  model.allFields.filterMap (·.type.innermost) ++ model.parent.toList ++
    (model.unionCases.getD []).map Prod.snd

theorem Model.links_rename (new : String → String) (model : Model) :
    (model.rename new).links = model.links.map new := by
  have targets : (model.rename new).allFields.filterMap (·.type.innermost) =
      (model.allFields.filterMap (·.type.innermost)).map new := by
    rw [allFields_rename, List.filterMap_map, List.map_filterMap]
    congr 1
    funext field
    exact FieldType.innermost_rename new field.type
  have parents : (model.rename new).parent.toList = model.parent.toList.map new := by
    rw [Model.rename]
    cases model.parent <;> rfl
  have cases_ : ((model.rename new).unionCases.getD []).map Prod.snd =
      ((model.unionCases.getD []).map Prod.snd).map new := by
    rw [Model.rename]
    cases model.unionCases <;> simp [Entries.mapValues]
  rw [links, links, List.map_append, List.map_append, targets, parents, cases_]

namespace Schema

/-- The links of all models, in order. -/
def links (schema : Schema) : List String := schema.models.flatMap (·.links)

theorem links_rename (new : String → String) (schema : Schema) :
    (schema.rename new).links = schema.links.map new := by
  rw [links, links, rename, List.flatMap_map, List.map_flatMap]
  congr 1
  funext model
  exact Model.links_rename new model

theorem names_rename (new : String → String) (schema : Schema) :
    (schema.rename new).names = schema.names.map new := by
  simp [names, rename, Model.rename]

/-- The place of the first model of a name. -/
def index? (schema : Schema) (name : String) : Option Nat := schema.names.findIdx? (· == name)

/-- The model that a name is looked up to is the one at its place. -/
theorem find?_eq_index? (schema : Schema) (name : String) :
    schema.find? name = (schema.index? name).bind (schema.models[·]?) := by
  rw [find?, index?, names, List.findIdx?_map]
  cases found : schema.models.findIdx? ((· == name) ∘ Model.name) with
  | none =>
    rw [Option.bind_none, List.find?_eq_none]
    intro model isModel
    simpa using List.findIdx?_eq_none_iff.mp found model isModel
  | some i =>
    obtain ⟨inRange, isHere, notEarlier⟩ := List.findIdx?_eq_some_iff_getElem.mp found
    rw [Option.bind_some, List.getElem?_eq_getElem inRange, List.find?_eq_some_iff_getElem]
    refine ⟨isHere, i, inRange, rfl, ?_⟩
    intro j isEarlier
    simpa using notEarlier j isEarlier

theorem index?_eq_some_iff {schema : Schema} {name : String} {i : Nat} :
    schema.index? name = some i ↔ schema.names[i]? = some name ∧ name ∉ schema.names.take i := by
  rw [index?, List.findIdx?_eq_some_iff_getElem, List.getElem?_eq_some_iff]
  constructor
  · rintro ⟨inRange, isHere, notEarlier⟩
    refine ⟨⟨inRange, by simpa using isHere⟩, ?_⟩
    intro isEarlier
    obtain ⟨j, before, same⟩ := List.mem_take_iff_getElem.mp isEarlier
    exact notEarlier j (by omega) (by simpa using same)
  · rintro ⟨⟨inRange, isHere⟩, notEarlier⟩
    refine ⟨inRange, by simpa using isHere, ?_⟩
    intro j before same
    apply notEarlier
    exact List.mem_take_iff_getElem.mpr ⟨j, by omega, by simpa using same⟩

/-- A name that stands at a place is found there or earlier. -/
theorem exists_index? {schema : Schema} {name : String} {i : Nat}
    (isHere : schema.names[i]? = some name) :
    ∃ j ≤ i, schema.index? name = some j ∧ (j = i ↔ name ∉ schema.names.take i) := by
  cases found : schema.index? name with
  | none =>
    have missing := List.findIdx?_eq_none_iff.mp found name (List.mem_of_getElem? isHere)
    simp at missing
  | some j =>
    obtain ⟨_, notEarlier⟩ := index?_eq_some_iff.mp found
    refine ⟨j, ?_, rfl, ?_⟩
    · by_contra after
      apply notEarlier
      rw [List.mem_take_iff_getElem]
      obtain ⟨inRange, same⟩ := List.getElem?_eq_some_iff.mp isHere
      exact ⟨i, by omega, same⟩
    · constructor
      · rintro rfl
        exact notEarlier
      · intro isFirst
        have foundHere := index?_eq_some_iff.mpr ⟨isHere, isFirst⟩
        rw [found] at foundHere
        exact Option.some.inj foundHere

/-- By default the new names are always formed. -/
theorem normalize_default {naming : Setting Naming}
    (byDefault : naming.namer.conventions = .ok {}) (schema : Schema) :
    schema.normalize naming = .ok (schema.rename (schema.newName {})) := by
  obtain ⟨newNames, formed⟩ := Renaming.exists_ofModels.mpr fun model (_ : model ∈ schema.models) =>
    ⟨_, @Naming.needsNewEnding_of_typed {} _ _ rfl rfl model.name⟩
  rw [normalize, newNames_eq schema byDefault, formed, Outcome.ok_bind, apply_ofModels formed]
  rfl

/-- Two declared names are given one new name exactly if one of them becomes the other. -/
theorem newName_eq_iff {schema : Schema} {name other : String} (isName : name ∈ schema.names)
    (isOther : other ∈ schema.names) (different : name ≠ other) :
    schema.newName {} name = schema.newName {} other ↔
      Naming.Becomes name other ∨ Naming.Becomes other name := by
  have declared : schema.declares name = true := List.contains_iff_mem.mpr isName
  have declaredOther : schema.declares other = true := List.contains_iff_mem.mpr isOther
  rw [← Naming.getD_newName?_eq_iff different, newName, newName, if_pos declared,
    if_pos declaredOther]

section Distinct

variable {schema : Schema} (distinct : schema.names.Nodup)

include distinct in
theorem nodup_rename_iff :
    (schema.rename (schema.newName {})).names.Nodup ↔
      ∀ name ∈ schema.names, ∀ other ∈ schema.names, ¬Naming.Becomes name other := by
  rw [names_rename, List.nodup_map_iff_inj_on distinct]
  constructor
  · intro injective name isName other isOther becomes
    have merged := (newName_eq_iff isName isOther becomes.ne).mpr (.inl becomes)
    exact becomes.ne (injective name isName other isOther merged)
  · intro apart name isName other isOther merged
    by_contra different
    rcases (newName_eq_iff isName isOther different).mp merged with becomes | becomes
    · exact apart name isName other isOther becomes
    · exact apart other isOther name isName becomes

/-- A model is found at its place after renaming, unless an earlier one is given the same name. -/
theorem exists_index?_rename {name : String} {i : Nat} (found : schema.index? name = some i) :
    ∃ j ≤ i, (schema.rename (schema.newName {})).index? (schema.newName {} name) = some j ∧
      (j = i ↔ ∀ earlier ∈ schema.names.take i,
        ¬Naming.Becomes earlier name ∧ ¬Naming.Becomes name earlier) := by
  obtain ⟨isHere, notEarlier⟩ := index?_eq_some_iff.mp found
  have isRenamed : (schema.rename (schema.newName {})).names[i]? = some (schema.newName {} name) := by
    rw [names_rename, List.getElem?_map, isHere]
    rfl
  obtain ⟨j, notBehind, foundNow, isSame⟩ := exists_index? isRenamed
  refine ⟨j, notBehind, foundNow, isSame.trans ?_⟩
  have merged : ∀ earlier ∈ schema.names.take i,
      (schema.newName {} earlier = schema.newName {} name ↔
        Naming.Becomes earlier name ∨ Naming.Becomes name earlier) := by
    intro earlier isEarlier
    apply newName_eq_iff (List.mem_of_mem_take isEarlier) (List.mem_of_getElem? isHere)
    rintro rfl
    exact notEarlier isEarlier
  rw [names_rename, ← List.map_take, List.mem_map]
  constructor
  · intro noneMerged earlier isEarlier
    rw [← not_or, ← merged earlier isEarlier]
    exact fun same => noneMerged ⟨earlier, isEarlier, same⟩
  · rintro apart ⟨earlier, isEarlier, same⟩
    have keeps := apart earlier isEarlier
    rw [← not_or, ← merged earlier isEarlier] at keeps
    exact keeps same

/-- Renaming by default keeps models of different names apart exactly if no name becomes that of
another model. A link never comes to lead to a model behind the one to which it led, and leads to the
same one exactly if the name of no earlier model becomes the name of this one or the reverse. -/
theorem normalize_keeps_apart_iff {naming : Setting Naming}
    (byDefault : naming.namer.conventions = .ok {}) (distinct : schema.names.Nodup) :
    ∃ result, schema.normalize naming = .ok result ∧
      (result.names.Nodup ↔
        ∀ name ∈ schema.names, ∀ other ∈ schema.names, ¬Naming.Becomes name other) ∧
      ∀ (link : Nat) (name : String) (i : Nat), schema.links[link]? = some name →
        schema.index? name = some i → ∃ j ≤ i, result.links[link]?.bind result.index? = some j ∧
          (j = i ↔ ∀ earlier ∈ schema.names.take i,
            ¬Naming.Becomes earlier name ∧ ¬Naming.Becomes name earlier) := by
  refine ⟨_, normalize_default byDefault schema, nodup_rename_iff distinct, ?_⟩
  intro link name i isLink found
  rw [links_rename, List.getElem?_map, isLink]
  exact exists_index?_rename found

end Distinct

/-- A model that is renamed with the reference of another to it. -/
def jobSchema : Schema where
  models := [{ name := "TaskParams" },
    { name := "Job", fields := [{ name := "task", type := .array (.reference "TaskParams") }] }]

/-- The reference of a job leads to the same model after that is renamed. -/
theorem normalize_keeps_job : ∃ result, jobSchema.normalize (.typed {}) = .ok result ∧
    result.names.Nodup ∧ result.links[0]?.bind result.index? = some 0 := by
  have apart : ∀ name ∈ jobSchema.names, ∀ other ∈ jobSchema.names, ¬Naming.Becomes name other := by
    decide
  obtain ⟨result, renamed, names, links⟩ :=
    @normalize_keeps_apart_iff jobSchema (.typed {}) rfl (by decide)
  obtain ⟨j, _, leads, isSame⟩ := links 0 "TaskParams" 0 rfl (by decide)
  rw [isSame.mpr nofun] at leads
  exact ⟨result, renamed, names.mpr apart, leads⟩

/-- The model whose name the task of a job gets, in front of it. -/
def clashSchema : Schema where
  models := { name := "TaskAdapterParams" } :: jobSchema.models

/-- Two models with different names get one, and a reference to the second leads to the first. -/
theorem normalize_merges_task : ∃ result, clashSchema.normalize (.typed {}) = .ok result ∧
    clashSchema.names.Nodup ∧ ¬result.names.Nodup ∧
      clashSchema.links[0]?.bind clashSchema.index? = some 1 ∧
        result.links[0]?.bind result.index? = some 0 := by
  refine ⟨_, rfl, ?_⟩
  decide

end Schema

end SchemaCodegen
