import SchemaCodegen.Proofs.Parsed
import SchemaCodegen.Proofs.WrittenTypes

/-!
# Values are read and given back alike

Reading a value of a type and giving it back do the same with the innermost items of arrays: both
convert points in time, both convert models, or both leave the values as they are. One kind of type
is excepted, in both languages: a reference without a name is read as anything and given back as a
model.
-/

namespace SchemaCodegen

/-- What is done with the innermost values of a type. -/
inductive Treatment where
  /-- They stay as they are. -/
  | asIs
  /-- They are points in time, which JSON holds as texts. -/
  | moment
  /-- They are models, which JSON holds as objects. -/
  | model
  deriving DecidableEq

namespace FieldType

/-- What is done with the innermost values when they are read. -/
def readAs (type : FieldType) : Treatment :=
  if type.coreKind = .dateTime then .moment
  else if type.coreReference?.isSome then .model
  else .asIs

/-- What is done with the innermost values when they are given back. -/
def givenAs (type : FieldType) : Treatment :=
  if type.coreKind = .dateTime then .moment
  else if type.coreKind = .reference then .model
  else .asIs

theorem readAs_of_referenced {target : Option String} {name : String}
    (named : (plain .reference target).referenced? = some name) :
    (plain .reference target).readAs = .model := by
  simp [readAs, coreReference?, coreKind, coreTarget, named]

theorem readAs_of_not_referenced {target : Option String}
    (unnamed : (plain .reference target).referenced? = none) :
    (plain .reference target).readAs = .asIs := by
  simp [readAs, coreReference?, coreKind, coreTarget, unnamed]

/-- Values of arrays are converted one by one if something is done with them. -/
theorem isConverted_iff (type : FieldType) : type.isConverted = true ↔ type.givenAs ≠ .asIs := by
  induction type using rec_core with
  | plain kind target => cases kind <;> simp [isConverted, givenAs, coreKind]
  | nested kind target item noArray =>
    cases kind <;> first | exact absurd rfl noArray | simp [isConverted, givenAs, coreKind]
  | array target item ih => exact ih

/-- A type that has its parts is read and given back alike unless it is a reference without a name, or an
array of such. -/
theorem readAs_eq_givenAs_iff {type : FieldType} (wellFormed : type.WellFormed) :
    type.readAs = type.givenAs ↔ type.innermost ≠ some "" := by
  induction type using rec_core with
  | plain kind target =>
    have named := wellFormed.target
    cases kind with
    | reference =>
      obtain ⟨name, rfl⟩ := Option.isSome_iff_exists.mp (named.mp rfl)
      by_cases isEmpty : name = ""
      · subst isEmpty
        decide
      · simp [readAs, givenAs, coreKind, coreReference?, referenced?, coreTarget, innermost, isEmpty,
          FieldType.kind, target?]
    | _ => simp [readAs, givenAs, coreKind, coreReference?, referenced?, innermost, FieldType.kind]
  | nested kind target item noArray => exact absurd (wellFormed.1.item.mpr rfl) noArray
  | array target item ih => exact ih wellFormed.2

/-- A reference without a name is read as it is and given back as a model, also in arrays. -/
theorem treatments_of_unnamed {type : FieldType} (unnamed : type.innermost = some "") :
    type.readAs = .asIs ∧ type.givenAs = .model := by
  induction type using rec_core with
  | plain kind target =>
    cases kind <;> cases unnamed
    decide
  | nested kind target item noArray =>
    cases kind <;> first | exact absurd rfl noArray | cases unnamed
    exact ⟨rfl, rfl⟩
  | array target item ih => exact ih unnamed

end FieldType

namespace Dart

/-- Whether an expression reads a source at some depth of arrays, with what is done with the innermost
values: they stay, perhaps cast to a type, or are handed to a function that makes a value of them. -/
def Reads : Nat → Bool → Expr → Expr → Treatment → Prop
  | 0, _, source, e, .asIs => e = source ∨ ∃ type, e = .asType source type
  | 0, nullable, source, e, .moment =>
    e = guardIf nullable source (.call "DateTime.parse" (.asType source "String"))
  | 0, nullable, source, e, .model => ∃ name,
    e = guardIf nullable source (.call (name ++ ".fromJson") (.asType source "Map<String, dynamic>"))
  | depth + 1, nullable, source, e, treatment => ∃ body,
    e = guardIf nullable source (.mapped (.group (.asType source "List")) false body) ∧
      Reads depth false (.source "e") body treatment

/-- Whether an expression gives back a value at some depth of arrays, with what is done with the
innermost values. Where they stay, so does the whole value. -/
def Gives : Nat → Bool → Expr → Expr → Treatment → Prop
  | _, _, value, e, .asIs => e = value
  | 0, nullable, value, e, .moment => e = .method value nullable "toIso8601String"
  | 0, nullable, value, e, .model => e = .method value nullable "toJson"
  | depth + 1, nullable, value, e, treatment => ∃ body,
    e = .mapped value nullable body ∧ Gives depth false (.source "e") body treatment

theorem guardIf_inj {nullable : Bool} {source value other : Expr} :
    guardIf nullable source value = guardIf nullable source other ↔ value = other := by
  cases nullable <;> simp [guardIf]

section

variable {nullable : Bool} {text : String} {treatment : Treatment}

theorem reads_source_iff :
    Reads 0 nullable (.source text) (.source text) treatment ↔ treatment = .asIs := by
  cases treatment <;> cases nullable <;> simp [Reads, guardIf]

theorem reads_asType_iff {type : String} :
    Reads 0 nullable (.source text) (.asType (.source text) type) treatment ↔ treatment = .asIs := by
  cases treatment <;> cases nullable <;> simp [Reads, guardIf]

theorem reads_moment_iff :
    Reads 0 nullable (.source text)
        (guardIf nullable (.source text) (.call "DateTime.parse" (.asType (.source text) "String")))
        treatment ↔ treatment = .moment := by
  cases treatment <;> cases nullable <;> simp [Reads, guardIf]

theorem reads_model_iff {name : String} :
    Reads 0 nullable (.source text)
        (guardIf nullable (.source text)
          (.call (name ++ ".fromJson") (.asType (.source text) "Map<String, dynamic>")))
        treatment ↔ treatment = .model := by
  cases treatment <;> cases nullable <;> simp [Reads, guardIf]

/-- A value that is no array is read in one way. -/
theorem reads_castBase_iff (kind : Kind) (target : Option String) :
    Reads 0 nullable (.source text) (castBase kind target nullable (.source text)) treatment ↔
      treatment = (FieldType.plain kind target).readAs := by
  cases kind with
  | string | integer | float | boolean => exact reads_asType_iff
  | dateTime => exact reads_moment_iff
  | reference =>
    unfold castBase
    cases named : (FieldType.plain .reference target).referenced? with
    | some name =>
      rw [FieldType.readAs_of_referenced named]
      exact reads_model_iff
    | none =>
      rw [FieldType.readAs_of_not_referenced named]
      exact reads_source_iff
  | array | map | enum | unknown => exact reads_source_iff

/-- A value is read in one way, as its type says. -/
theorem reads_cast_iff (type : FieldType) :
    Reads type.depth nullable (.source text) (cast type nullable (.source text)) treatment ↔
      treatment = type.readAs := by
  induction type using FieldType.rec_core generalizing nullable text with
  | plain kind target => exact reads_castBase_iff kind target
  | nested kind target item noArray =>
    cases kind <;> first | exact absurd rfl noArray | exact reads_castBase_iff _ target
  | array target item ih =>
    constructor
    · rintro ⟨body, same, reads⟩
      obtain ⟨_, _, rfl⟩ := Expr.mapped.inj (guardIf_inj.mp same)
      exact ih.mp reads
    · intro same
      exact ⟨_, rfl, ih.mpr same⟩

theorem gives_source_iff {depth : Nat} :
    Gives depth nullable (.source text) (.source text) treatment ↔ treatment = .asIs := by
  cases treatment <;> cases depth <;> simp [Gives]

theorem gives_mapped_iff {depth : Nat} {body : Expr} (changed : treatment ≠ .asIs) :
    Gives (depth + 1) nullable (.source text) (.mapped (.source text) nullable body) treatment ↔
      Gives depth false (.source "e") body treatment := by
  cases treatment with
  | asIs => exact absurd rfl changed
  | moment | model => simp [Gives]

theorem gives_dumpBase_iff (kind : Kind) (target : Option String) :
    Gives 0 nullable (.source text) (dumpBase kind nullable (.source text)) treatment ↔
      treatment = (FieldType.plain kind target).givenAs := by
  cases kind with
  | dateTime | reference =>
    cases treatment <;> simp [Gives, dumpBase, FieldType.givenAs, FieldType.coreKind]
  | _ => exact gives_source_iff

/-- A value is given back in one way, as its type says. -/
theorem gives_dump_iff (type : FieldType) :
    Gives type.depth nullable (.source text) (dump type nullable (.source text)) treatment ↔
      treatment = type.givenAs := by
  induction type using FieldType.rec_core generalizing nullable text with
  | plain kind target => exact gives_dumpBase_iff kind target
  | nested kind target item noArray =>
    cases kind <;> first | exact absurd rfl noArray | exact gives_dumpBase_iff _ target
  | array target item ih =>
    have sameAsItem : (FieldType.nested .array target item).givenAs = item.givenAs := rfl
    rw [sameAsItem, dump]
    -- an array whose items stay as they are is given back as a whole
    split
    next converted =>
      have changed := item.isConverted_iff.mp converted
      by_cases isKept : treatment = .asIs
      · subst isKept
        simp [Gives, changed.symm]
      · exact (gives_mapped_iff isKept).trans ih
    next kept =>
      have stays : item.givenAs = .asIs := not_not.mp (mt item.isConverted_iff.mpr kept)
      rw [stays]
      exact gives_source_iff

end

end Dart

namespace Python

/-- Whether an expression reads a source at some depth of arrays, with what is done with the innermost
values: they stay, perhaps taken to be of a type, or are handed to a function that makes a value of
them. -/
def Reads : Nat → Bool → Expr → Expr → Treatment → Prop
  | 0, _, source, e, .asIs => e = source ∨ ∃ type, e = taken type source
  | 0, nullable, source, e, .moment =>
    e = guardIf nullable source (method (.name "datetime") "fromisoformat" [taken (.name "str") source])
  | 0, nullable, source, e, .model => ∃ name,
    e = guardIf nullable source (method (.name name) "from_dict" [taken (.name "dict") source])
  | depth + 1, nullable, source, e, treatment => ∃ body,
    e = guardIf nullable source (.each body "e" (taken (.name "list") source)) ∧
      Reads depth false item body treatment

/-- Whether an expression gives back a value at some depth of arrays, with what is done with the
innermost values. Where they stay, so does the whole value. -/
def Gives : Nat → Bool → Expr → Expr → Treatment → Prop
  | _, _, value, e, .asIs => e = value
  | 0, nullable, value, e, .moment => e = guardIf nullable value (method value "isoformat" [])
  | 0, nullable, value, e, .model => e = guardIf nullable value (method value "to_dict" [])
  | depth + 1, nullable, value, e, treatment => ∃ body,
    e = guardIf nullable value (.each body "e" value) ∧ Gives depth false item body treatment

theorem guardIf_inj {nullable : Bool} {source value other : Expr} :
    guardIf nullable source value = guardIf nullable source other ↔ value = other := by
  cases nullable <;> simp [guardIf, guarded]

theorem method_inj {value value' : Expr} {name name' : String} {arguments arguments' : List Expr} :
    method value name arguments = method value' name' arguments' ↔
      value = value' ∧ name = name' ∧ arguments = arguments' := by
  simp [method, and_assoc]

/-- What holds an expression is another. -/
theorem ne_guardIf {nullable : Bool} {source value : Expr} (holds : sizeOf source < sizeOf value) :
    source ≠ guardIf nullable source value := by
  intro same
  have equal := congrArg sizeOf same
  cases nullable
  · simp [guardIf] at equal
    omega
  · simp [guardIf, guarded] at equal
    omega

section

variable {nullable : Bool} {source : Expr} {treatment : Treatment}

theorem sizeOf_method {name : String} {value : Expr} {arguments : List Expr} :
    sizeOf value < sizeOf (method value name arguments) := by
  simp [method]
  omega

theorem sizeOf_converted {name : String} {value type : Expr} :
    sizeOf source < sizeOf (method value name [taken type source]) := by
  simp [method, taken]
  omega

theorem reads_source_iff : Reads 0 nullable source source treatment ↔ treatment = .asIs := by
  cases treatment with
  | asIs => simp [Reads]
  | moment | model => simp [Reads, ne_guardIf sizeOf_converted]

theorem reads_taken_iff {type : Expr} :
    Reads 0 nullable source (taken type source) treatment ↔ treatment = .asIs := by
  cases treatment with
  | asIs => exact ⟨fun _ => rfl, fun _ => .inr ⟨type, rfl⟩⟩
  | moment | model => cases nullable <;> simp [Reads, guardIf, guarded, method, taken]

/-- A source that is handed to a method is not left as it is. -/
theorem not_reads_asIs {value type : Expr} {name : String} :
    ¬Reads 0 nullable source (guardIf nullable source (method value name [taken type source])) .asIs := by
  rintro (same | ⟨other, same⟩)
  · exact ne_guardIf sizeOf_converted same.symm
  · cases nullable <;> simp [guardIf, guarded, method, taken] at same

theorem reads_moment_iff :
    Reads 0 nullable source
        (guardIf nullable source
          (method (.name "datetime") "fromisoformat" [taken (.name "str") source]))
        treatment ↔ treatment = .moment := by
  cases treatment with
  | asIs => simp [not_reads_asIs]
  | moment => simp [Reads]
  | model => simp [Reads, guardIf_inj, method]

theorem reads_model_iff {name : String} :
    Reads 0 nullable source
        (guardIf nullable source (method (.name name) "from_dict" [taken (.name "dict") source]))
        treatment ↔ treatment = .model := by
  cases treatment with
  | asIs => simp [not_reads_asIs]
  | moment | model => simp [Reads, guardIf_inj, method]

/-- A value that is no array is read in one way. -/
theorem reads_castBase_iff (kind : Kind) (target : Option String) :
    Reads 0 nullable source (castBase kind target nullable source) treatment ↔
      treatment = (FieldType.plain kind target).readAs := by
  cases kind with
  | string | integer | float | boolean => exact reads_taken_iff
  | dateTime => exact reads_moment_iff
  | reference =>
    unfold castBase
    cases named : (FieldType.plain .reference target).referenced? with
    | some name =>
      rw [FieldType.readAs_of_referenced named]
      exact reads_model_iff
    | none =>
      rw [FieldType.readAs_of_not_referenced named]
      exact reads_source_iff
  | array | map | enum | unknown => exact reads_source_iff

/-- A value is read in one way, as its type says. -/
theorem reads_cast_iff (type : FieldType) :
    Reads type.depth nullable source (cast type nullable source) treatment ↔
      treatment = type.readAs := by
  induction type using FieldType.rec_core generalizing nullable source with
  | plain kind target => exact reads_castBase_iff kind target
  | nested kind target item noArray =>
    cases kind <;> first | exact absurd rfl noArray | exact reads_castBase_iff _ target
  | array target item ih =>
    constructor
    · rintro ⟨body, same, reads⟩
      obtain ⟨rfl, _⟩ := Expr.each.inj (guardIf_inj.mp same)
      exact ih.mp reads
    · intro same
      exact ⟨_, rfl, ih.mpr same⟩

/-- Something that is done with the items of a source changes it. -/
theorem ne_each (body : Expr) : source ≠ guardIf nullable source (.each body "e" source) := by
  apply ne_guardIf
  simp only [Expr.each.sizeOf_spec]
  omega

theorem gives_source_iff {depth : Nat} :
    Gives depth nullable source source treatment ↔ treatment = .asIs := by
  cases treatment <;> cases depth <;> simp [Gives, ne_each, ne_guardIf sizeOf_method]

theorem gives_each_iff {depth : Nat} {body : Expr} (changed : treatment ≠ .asIs) :
    Gives (depth + 1) nullable source (guardIf nullable source (.each body "e" source)) treatment ↔
      Gives depth false item body treatment := by
  cases treatment with
  | asIs => exact absurd rfl changed
  | moment | model => simp [Gives, guardIf_inj]

theorem gives_dumpBase_iff (kind : Kind) (target : Option String) :
    Gives 0 nullable source (dumpBase kind nullable source) treatment ↔
      treatment = (FieldType.plain kind target).givenAs := by
  cases kind with
  | dateTime | reference =>
    have changes (name : String) : guardIf nullable source (method source name []) ≠ source :=
      (ne_guardIf sizeOf_method).symm
    cases treatment <;>
      simp [Gives, dumpBase, FieldType.givenAs, FieldType.coreKind, guardIf_inj, changes, method_inj]
  | _ => exact gives_source_iff

/-- A value is given back in one way, as its type says. -/
theorem gives_dump_iff (type : FieldType) :
    Gives type.depth nullable source (dump type nullable source) treatment ↔
      treatment = type.givenAs := by
  induction type using FieldType.rec_core generalizing nullable source with
  | plain kind target => exact gives_dumpBase_iff kind target
  | nested kind target item noArray =>
    cases kind <;> first | exact absurd rfl noArray | exact gives_dumpBase_iff _ target
  | array target item ih =>
    have sameAsItem : (FieldType.nested .array target item).givenAs = item.givenAs := rfl
    rw [sameAsItem, dump]
    split
    next converted =>
      have changed := item.isConverted_iff.mp converted
      by_cases isKept : treatment = .asIs
      · subst isKept
        simp [Gives, (ne_each _).symm, changed.symm]
      · exact (gives_each_iff isKept).trans ih
    next kept =>
      have stays : item.givenAs = .asIs := not_not.mp (mt item.isConverted_iff.mpr kept)
      rw [stays]
      exact gives_source_iff

end

end Python

namespace FieldType

/-- In both languages and for each type that a node resolves to, the innermost values are read in exactly
one way and given back in exactly one way. The two are the same unless the type is a reference
without a name or holds such references, which are read as they are and given back as models. -/
theorem ofNode_treatments_agree_iff {naming : Setting Naming} {path : String} {node : Json.Value}
    {type : FieldType} (resolved : ofNode naming path node = .ok type) :
    ∃ read given : Treatment,
      (∀ nullable text treatment,
        (Dart.Reads type.depth nullable (.source text) (Dart.cast type nullable (.source text))
          treatment ↔ treatment = read) ∧
        (Dart.Gives type.depth nullable (.source text) (Dart.dump type nullable (.source text))
          treatment ↔ treatment = given)) ∧
      (∀ nullable source treatment,
        (Python.Reads type.depth nullable source (Python.cast type nullable source) treatment ↔
          treatment = read) ∧
        (Python.Gives type.depth nullable source (Python.dump type nullable source) treatment ↔
          treatment = given)) ∧
      (read = given ↔ type.innermost ≠ some "") ∧
      (type.innermost = some "" → read = .asIs ∧ given = .model) := by
  have wellFormed := wellFormed_of_ofNode resolved
  refine ⟨type.readAs, type.givenAs, ?_, ?_, readAs_eq_givenAs_iff wellFormed,
    treatments_of_unnamed⟩
  · intro nullable text treatment
    exact ⟨Dart.reads_cast_iff type, Dart.gives_dump_iff type⟩
  · intro nullable source treatment
    exact ⟨Python.reads_cast_iff type, Python.gives_dump_iff type⟩

/-- A property that holds lists of pets. -/
def petsNode : Json.Value :=
  .obj [("type", .str "array"), ("items", .obj [("type", .str "array"),
    ("items", .obj [("$ref", .str "#/pet")])])]

/-- Lists of pets are read as models and given back as such. -/
theorem ofNode_treatments_agree_pets :
    ofNode (.typed {}) "shop.pets" petsNode = .ok (.array (.array (.reference "Pet"))) ∧
      ∃ treatment,
        Dart.Reads 2 true (.source "json['pets']")
          (Dart.cast (.array (.array (.reference "Pet"))) true (.source "json['pets']")) treatment ∧
        Python.Gives 2 true (.name "pets")
          (Python.dump (.array (.array (.reference "Pet"))) true (.name "pets")) treatment := by
  have resolved :
      ofNode (.typed {}) "shop.pets" petsNode = .ok (.array (.array (.reference "Pet"))) := by
    decide +kernel
  obtain ⟨read, given, dart, python, same, -⟩ := ofNode_treatments_agree_iff resolved
  have agree : read = given := same.mpr (by decide)
  refine ⟨resolved, read, ?_, ?_⟩
  · exact (dart true _ read).1.mpr rfl
  · exact (python true _ read).2.mpr agree

/-- A node that refers to nothing is read as it is and given back as a model, in both languages. -/
theorem ofNode_treatments_differ_owner :
    ∃ type, ofNode (.typed {}) "task.owner" (.obj [("$ref", .str "#/")]) = .ok type ∧
      Dart.cast type true (.source "json['owner']") = .source "json['owner']" ∧
      Dart.dump type true (.source "owner") = .method (.source "owner") true "toJson" ∧
      Python.cast type true (.name "owner") = .name "owner" ∧
      Python.dump type true (.name "owner") =
        Python.guarded (.name "owner") (Python.method (.name "owner") "to_dict" []) ∧
      ¬∃ treatment,
        Dart.Reads type.depth true (.source "owner") (Dart.cast type true (.source "owner"))
          treatment ∧
        Dart.Gives type.depth true (.source "owner") (Dart.dump type true (.source "owner"))
          treatment := by
  refine ⟨.reference "", by decide +kernel, rfl, rfl, rfl, rfl, ?_⟩
  rintro ⟨treatment, reads, gives⟩
  cases (Dart.reads_cast_iff _).mp reads
  cases (Dart.gives_dump_iff _).mp gives

end FieldType

end SchemaCodegen
