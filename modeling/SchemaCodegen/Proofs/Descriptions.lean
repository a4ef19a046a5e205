import SchemaCodegen.Proofs.Stems
import SchemaCodegen.Proofs.Units

/-!
# Descriptions stay in comments

A Dart unit with descriptions is the unit without them, with lines of comments added. No line of a
description ends before its comment does, so nothing of a description is read as code.
-/

namespace SchemaCodegen

/-! ## Models without descriptions -/

/-- A field without its description. -/
def Field.undescribed (field : Field) : Field := { field with description := none }

/-- An arm whose fields have no descriptions. -/
def Variant.undescribed (variant : Variant) : Variant :=
  { variant with fields := variant.fields.map (·.undescribed) }

/-- A model without its description and those of its fields. -/
def Model.undescribed (model : Model) : Model :=
  { model with
    description := none
    fields := model.fields.map (·.undescribed)
    variants := model.variants.map (·.map (·.undescribed)) }

theorem Variant.has_undescribed (variant : Variant) (name : String) :
    variant.undescribed.has name = variant.has name := by
  rw [has, has, undescribed, List.any_map]
  rfl

namespace Model

variable (model : Model)

theorem arms_undescribed : model.undescribed.arms = model.arms.map (·.undescribed) := by
  rw [arms, arms, undescribed]
  cases model.variants <;> rfl

theorem references_undescribed : model.undescribed.references = model.references := by
  have fields : model.undescribed.allFields = model.allFields.map (·.undescribed) := by
    rw [allFields, allFields, arms_undescribed, List.map_append, List.map_flatMap, List.flatMap_map]
    rfl
  rw [references, references, fields, List.flatMap_map]
  rfl

theorem checkUnion_undescribed : model.undescribed.checkUnion = model.checkUnion := by
  unfold checkUnion
  rw [arms_undescribed, List.isEmpty_map]
  cases found : model.unionKey.filter (· ≠ "") with
  | none => simp only [undescribed, found]
  | some key =>
    simp only [undescribed, found, List.find?_map]
    have same : ((fun variant : Variant => !variant.has key) ∘ Variant.undescribed) =
        fun variant : Variant => !variant.has key := by
      funext variant
      rw [Function.comp_apply, Variant.has_undescribed]
    rw [same]
    cases model.arms.find? (!·.has key) <;> rfl

theorem defaultArm?_undescribed :
    model.undescribed.defaultArm? = model.defaultArm?.map (·.undescribed) := by
  rw [defaultArm?, defaultArm?, arms_undescribed, List.find?_map]
  rfl

theorem shared_undescribed (field : Field) :
    model.undescribed.shared field.undescribed = (model.shared field).undescribed := by
  have everywhere : model.undescribed.arms.all (·.has field.name) = model.arms.all (·.has field.name) := by
    rw [arms_undescribed, List.all_map]
    congr 1
    funext variant
    exact variant.has_undescribed field.name
  unfold shared
  rw [show field.undescribed.name = field.name from rfl, everywhere]
  split <;> rfl

theorem addShared_undescribed (fields added : List Field) :
    model.undescribed.addShared (fields.map (·.undescribed)) (added.map (·.undescribed)) =
      (model.addShared fields added).map (·.undescribed) := by
  induction added generalizing fields with
  | nil => rfl
  | cons field rest ih =>
    have named : (fields.map (·.undescribed)).any (·.name == field.undescribed.name) =
        fields.any (·.name == field.name) := by
      rw [List.any_map]
      rfl
    rw [List.map_cons, addShared, addShared, named]
    split
    next => exact ih fields
    next =>
      have longer := ih (fields ++ [model.shared field])
      rw [List.map_append, List.map_singleton, ← shared_undescribed] at longer
      exact longer

theorem flattened_undescribed :
    model.undescribed.flattened = model.flattened.map (·.undescribed) := by
  have armFields : model.undescribed.arms.flatMap (·.fields) =
      (model.arms.flatMap (·.fields)).map (·.undescribed) := by
    rw [arms_undescribed, List.map_flatMap, List.flatMap_map]
    rfl
  rw [flattened, flattened, armFields]
  exact addShared_undescribed model model.fields _

theorem imported_undescribed (models : List Model) (atHand : List String) :
    imported (models.map (·.undescribed)) atHand = imported models atHand := by
  rw [imported, imported, List.flatMap_map]
  congr 3
  funext model
  exact references_undescribed model

end Model

/-! ## Classes without comments -/

namespace Dart

/-- A parameter without its comment. -/
def Parameter.uncommented (parameter : Parameter) : Parameter := { parameter with comment := [] }

/-- A member without its comment. -/
def Member.uncommented (member : Member) : Member := { member with comment := [] }

/-- A constructor whose parameters have no comments. -/
def Constructor.uncommented (constructor : Constructor) : Constructor :=
  { constructor with parameters := constructor.parameters.map (·.uncommented) }

/-- A class without its comment and those of its parts. -/
def Class.uncommented (cls : Class) : Class :=
  { cls with
    comment := []
    members := cls.members.map (·.uncommented)
    constructors := cls.constructors.map (·.uncommented) }

section

variable (config : Config) (model : Model)

theorem parameters_undescribed (fields : List Field) :
    (fields.map (·.undescribed)).map (parameter config) =
      (fields.map (parameter config)).map (·.uncommented) := by
  rw [List.map_map, List.map_map]
  rfl

theorem plainClass_undescribed :
    plainClass config model.undescribed = (plainClass config model).uncommented := by
  unfold plainClass
  rw [model.flattened_undescribed]
  simp only [Class.uncommented, Constructor.uncommented, List.map_map, List.map_singleton,
    readFields, writeFields, List.isEmpty_map]
  rfl

theorem dataClass_undescribed :
    dataClass config model.undescribed = (dataClass config model).uncommented := by
  have parameters := parameters_undescribed config model.fields
  unfold dataClass
  simp only [Class.uncommented, Constructor.uncommented, List.map_singleton, ← parameters]
  rfl

theorem armConstructor_undescribed (key : String) (variant : Variant) :
    armConstructor config model.undescribed key variant.undescribed =
      (armConstructor config model key variant).uncommented := by
  have kept : model.undescribed.fields.filter (!variant.undescribed.has ·.name) =
      (model.fields.filter (!variant.has ·.name)).map (·.undescribed) := by
    rw [Model.undescribed, List.filter_map]
    congr 2
    funext field
    rw [Function.comp_apply, variant.has_undescribed]
    rfl
  have own : variant.undescribed.fields.map (fun field =>
        if field.name = key then discriminator config variant.undescribed.value field
        else parameter config field) =
      (variant.fields.map fun field =>
        if field.name = key then discriminator config variant.value field
        else parameter config field).map (·.uncommented) := by
    rw [Variant.undescribed, List.map_map, List.map_map]
    apply List.map_congr_left
    intro field _
    simp only [Function.comp_apply]
    by_cases isKey : field.name = key
    · rw [if_pos isKey, if_pos (show field.undescribed.name = key from isKey)]
      rfl
    · rw [if_neg isKey, if_neg (show ¬field.undescribed.name = key from isKey)]
      rfl
  unfold armConstructor armParameters
  rw [kept, own, parameters_undescribed, ← List.map_append]
  rfl

theorem arms_undescribed (key : String) :
    model.undescribed.arms.map (armConstructor config model.undescribed key) =
      (model.arms.map (armConstructor config model key)).map (·.uncommented) := by
  rw [model.arms_undescribed, List.map_map, List.map_map]
  apply List.map_congr_left
  intro variant _
  exact armConstructor_undescribed config model key variant

theorem unionClass_undescribed :
    unionClass config model.undescribed = Class.uncommented <$> unionClass config model := by
  unfold unionClass
  rw [model.checkUnion_undescribed, model.defaultArm?_undescribed]
  cases model.checkUnion with
  | error fault => rfl
  | ok key =>
    simp only [Outcome.ok_bind, arms_undescribed]
    cases model.defaultArm? <;> rfl

theorem classOf_undescribed :
    classOf config model.undescribed = Class.uncommented <$> classOf config model := by
  have isUnion : model.undescribed.isUnion = model.isUnion := by
    rw [Model.isUnion, Model.isUnion, Model.undescribed, Option.isSome_map]
  unfold classOf
  rw [isUnion, unionClass_undescribed, plainClass_undescribed, dataClass_undescribed]
  split
  · rfl
  · split <;> rfl

end

/-- A library whose classes have no comments. -/
def Library.uncommented (library : Library) : Library :=
  { library with classes := library.classes.map (·.uncommented) }

/-- A library of models without descriptions is the one of the models without its comments. -/
theorem Library.ofModels_undescribed (config : Config) (models : List Model) (fileStem : String)
    (atHand : List String) :
    ofModels config (models.map (·.undescribed)) fileStem atHand =
      Library.uncommented <$> ofModels config models fileStem atHand := by
  have classes : (models.map (·.undescribed)).mapM (classOf config) =
      List.map Class.uncommented <$> models.mapM (classOf config) := by
    rw [← Outcome.mapM_map, List.mapM_map]
    congr 1
    funext model
    exact classOf_undescribed config model
  unfold ofModels
  rw [Model.imported_undescribed, classes]
  cases modelImports config (Model.imported models atHand) with
  | error fault => rfl
  | ok imports => cases models.mapM (classOf config) <;> rfl

/-! ## Lines of comments -/

/-- Whether no character of a line would end it. -/
def InLine (line : List Char) : Prop := ∀ c ∈ line, Text.isLineEnd c = false

/-- Whether a line is a comment: three slashes behind some spaces, and nothing in it ends the line, in
particular no carriage return. -/
structure IsCommentLine (line : List Char) : Prop where
  marked : ∃ indent text, (∀ c ∈ indent, c = ' ') ∧ line = indent ++ ['/', '/', '/'] ++ text
  inLine : InLine line

theorem inLine_of_mem_lines {text line : List Char} (isLine : line ∈ Text.lines text) : InLine line := by
  fun_induction Text.lines text generalizing line with
  | case1 => cases isLine
  | case2 rest ih =>
    rcases List.mem_cons.mp isLine with rfl | isLater
    · exact nofun
    · exact ih isLater
  | case3 c rest _ isEnd ih =>
    rcases List.mem_cons.mp isLine with rfl | isLater
    · exact nofun
    · exact ih isLater
  | case4 c rest _ noEnd none_ ih =>
    rw [List.mem_singleton.mp isLine]
    exact List.forall_mem_singleton.mpr (Bool.not_eq_true _ ▸ noEnd)
  | case5 c rest _ noEnd first more some_ ih =>
    rw [some_] at ih
    rcases List.mem_cons.mp isLine with rfl | isLater
    · exact List.forall_mem_cons.mpr ⟨Bool.not_eq_true _ ▸ noEnd, ih (List.mem_cons_self ..)⟩
    · exact ih (List.mem_cons_of_mem _ isLater)

theorem mem_of_mem_trim {text : List Char} {c : Char} (isIn : c ∈ Text.trim text) : c ∈ text := by
  rw [Text.trim, Text.trimRight, List.mem_reverse] at isIn
  have isLeft := List.mem_reverse.mp ((List.dropWhile_sublist _).subset isIn)
  exact (List.dropWhile_sublist _).subset isLeft

theorem inLine_of_mem_commentLines {description : Option String} {line : String}
    (isLine : line ∈ commentLines description) : InLine line.toList := by
  cases description with
  | none => cases isLine
  | some text =>
    obtain ⟨whole, isWhole, rfl⟩ := List.mem_map.mp isLine
    obtain ⟨chars, isChars, rfl⟩ := List.mem_map.mp isWhole
    intro c isIn
    rw [Text.strip, String.toList_ofList, String.toList_ofList] at isIn
    exact inLine_of_mem_lines isChars c (mem_of_mem_trim isIn)

theorem isCommentLine_of_mem_commented {indent : String} {lines : List String}
    (spaces : indent.toList.all (· == ' ') = true) (inLine : ∀ line ∈ lines, InLine line.toList) :
    ∀ line ∈ commented indent lines, IsCommentLine line.toList := by
  intro line isLine
  obtain ⟨text, isText, rfl⟩ := List.mem_map.mp isLine
  have areSpaces : ∀ c ∈ indent.toList, c = ' ' := fun c isIn =>
    beq_iff_eq.mp (List.all_eq_true.mp spaces c isIn)
  rw [String.toList_append, String.toList_append]
  refine ⟨⟨indent.toList, ' ' :: text.toList, areSpaces, by simp⟩, ?_⟩
  intro c isIn
  rcases List.mem_append.mp isIn with isFront | isText'
  · rcases List.mem_append.mp isFront with isIndent | isMark
    · rw [areSpaces c isIndent]
      decide
    · have noEnds : "/// ".toList.all (fun c => !Text.isLineEnd c) = true := by decide
      exact (Bool.not_eq_true' _).mp (List.all_eq_true.mp noEnds c isMark)
  · exact inLine text isText c isText'

/-! ## Texts without some comments -/

/-- The second list is the first without some items, each of which can be left out. -/
inductive Omits {α : Type} (dispensable : α → Prop) : List α → List α → Prop
  | nil : Omits dispensable [] []
  | keep {item : α} {whole rest : List α} :
      Omits dispensable whole rest → Omits dispensable (item :: whole) (item :: rest)
  | leave {item : α} {whole rest : List α} :
      dispensable item → Omits dispensable whole rest → Omits dispensable (item :: whole) rest

namespace Omits

variable {α β : Type} {dispensable : α → Prop} {whole rest more others : List α}

theorem refl (list : List α) : Omits dispensable list list := by
  induction list with
  | nil => exact .nil
  | cons item rest ih => exact .keep ih

theorem append (first : Omits dispensable whole rest) (second : Omits dispensable more others) :
    Omits dispensable (whole ++ more) (rest ++ others) := by
  induction first with
  | nil => exact second
  | keep _ ih => exact .keep ih
  | leave isIn _ ih => exact .leave isIn ih

theorem append_right (omits : Omits dispensable whole rest) (list : List α) :
    Omits dispensable (whole ++ list) (rest ++ list) := omits.append (refl list)

theorem of_forall {front : List α} (all : ∀ item ∈ front, dispensable item) :
    Omits dispensable front [] := by
  induction front with
  | nil => exact .nil
  | cons item rest ih =>
    obtain ⟨first, later⟩ := List.forall_mem_cons.mp all
    exact .leave first (ih later)

theorem flatMap_map {list : List β} {f : β → List α} {g : β → β}
    (each : ∀ item ∈ list, Omits dispensable (f item) (f (g item))) :
    Omits dispensable (list.flatMap f) ((list.map g).flatMap f) := by
  induction list with
  | nil => exact .nil
  | cons item rest ih =>
    obtain ⟨first, later⟩ := List.forall_mem_cons.mp each
    exact first.append (ih later)

/-- Items that stand for several others each, which can be left out with them. -/
theorem flatMap {sort : β → Prop} {whole rest : List β} (omits : Omits sort whole rest)
    {f : β → List α} (each : ∀ item, sort item → ∀ part ∈ f item, dispensable part) :
    Omits dispensable (whole.flatMap f) (rest.flatMap f) := by
  induction omits with
  | nil => exact .nil
  | keep _ ih => exact (refl _).append ih
  | leave isSort _ ih => exact (of_forall (each _ isSort)).append ih

/-- Lists that are joined leave out what each of them does. -/
theorem intercalate_map {list : List β} {f : β → List α} {g : β → β} (separator : List α)
    (each : ∀ item ∈ list, Omits dispensable (f item) (f (g item))) :
    Omits dispensable (separator.intercalate (list.map f))
      (separator.intercalate ((list.map g).map f)) := by
  induction list with
  | nil => exact .nil
  | cons item rest ih =>
    obtain ⟨first, later⟩ := List.forall_mem_cons.mp each
    cases rest with
    | nil => simpa using first
    | cons next more =>
      simp only [List.map_cons, List.intercalate_cons_cons] at ih ⊢
      exact (first.append (refl separator)).append (ih later)

end Omits

/-- The comments of a class and its parts. -/
def Class.comments (cls : Class) : List String :=
  cls.comment ++ cls.members.flatMap (·.comment) ++
    cls.constructors.flatMap fun constructor => constructor.parameters.flatMap (·.comment)

/-- What is written before some lines as a comment can be left out. -/
theorem omits_commented {indent : String} {lines code : List String}
    (spaces : indent.toList.all (· == ' ') = true) (inLine : ∀ line ∈ lines, InLine line.toList) :
    Omits (fun line => IsCommentLine line.toList) (commented indent lines ++ code) code :=
  (Omits.of_forall (isCommentLine_of_mem_commented spaces inLine)).append_right code

theorem Constructor.omits_lines {constructor : Constructor}
    (inLine : ∀ p ∈ constructor.parameters, ∀ line ∈ p.comment, InLine line.toList) :
    Omits (fun line => IsCommentLine line.toList) constructor.lines constructor.uncommented.lines := by
  have parameters : Omits (fun line => IsCommentLine line.toList)
      (constructor.parameters.flatMap fun p => commented "    " p.comment ++ ["    " ++ p.text ++ ","])
      (constructor.uncommented.parameters.flatMap fun p =>
        commented "    " p.comment ++ ["    " ++ p.text ++ ","]) := by
    apply Omits.flatMap_map
    intro p isParameter
    exact omits_commented (by decide) (inLine p isParameter)
  have isEmpty : constructor.uncommented.parameters.isEmpty = constructor.parameters.isEmpty :=
    List.isEmpty_map
  unfold lines
  rw [isEmpty]
  apply (Omits.refl _).append
  split
  next => exact Omits.refl _
  next => exact ((Omits.refl _).append parameters).append_right _

/-- The lines of a class are those of the class without comments and the lines of its comments. -/
theorem Class.omits_lines {cls : Class} (inLine : ∀ line ∈ cls.comments, InLine line.toList) :
    Omits (fun line => IsCommentLine line.toList) cls.lines cls.uncommented.lines := by
  simp only [comments, List.forall_mem_append, List.forall_mem_flatMap] at inLine
  obtain ⟨⟨ofClass, ofMembers⟩, ofConstructors⟩ := inLine
  have members : Omits (fun line => IsCommentLine line.toList) (cls.members.flatMap (·.lines))
      (cls.uncommented.members.flatMap (·.lines)) := by
    apply Omits.flatMap_map
    intro member isMember
    exact omits_commented (by decide) (ofMembers member isMember)
  have constructors : Omits (fun line => IsCommentLine line.toList)
      ([""].intercalate (cls.constructors.map (·.lines)))
      ([""].intercalate (cls.uncommented.constructors.map (·.lines))) := by
    apply Omits.intercalate_map
    intro constructor isConstructor
    exact Constructor.omits_lines (ofConstructors constructor isConstructor)
  have front : Omits (fun line => IsCommentLine line.toList) (commented "" cls.comment)
      (commented "" cls.uncommented.comment) :=
    Omits.of_forall (isCommentLine_of_mem_commented (by decide) ofClass)
  have noMembers : cls.uncommented.members.isEmpty = cls.members.isEmpty := List.isEmpty_map
  have noConstructors : cls.uncommented.constructors.isEmpty = cls.constructors.isEmpty :=
    List.isEmpty_map
  unfold lines
  rw [noMembers, noConstructors]
  have opened := (front.append_right (cls.annotations.map (·.text))).append_right
  apply Omits.append_right
  apply Omits.append_right
  refine Omits.append ?_ constructors
  apply Omits.append_right
  refine Omits.append ?_ members
  exact opened _

theorem exists_comment_of_arm {config : Config} {model : Model} {key : String} {variant : Variant}
    {p : Parameter} (isParameter : p ∈ armParameters config model key variant) :
    ∃ description, p.comment = commentLines description := by
  rcases List.mem_append.mp isParameter with isShared | isOwn
  · obtain ⟨field, _, rfl⟩ := List.mem_map.mp isShared
    exact ⟨field.description, rfl⟩
  · obtain ⟨field, _, rfl⟩ := List.mem_map.mp isOwn
    refine ⟨field.description, ?_⟩
    split <;> rfl

/-- The comments of a class are lines of descriptions. -/
theorem exists_description {config : Config} {model : Model} {cls : Class}
    (formed : classOf config model = .ok cls) :
    ∀ line ∈ cls.comments, ∃ description, line ∈ commentLines description := by
  simp only [Class.comments, List.forall_mem_append, List.forall_mem_flatMap]
  unfold classOf at formed
  split at formed
  case isTrue =>
    cases formed
    refine ⟨⟨fun line isLine => ⟨_, isLine⟩, ?_⟩, ?_⟩
    · intro member isMember line isLine
      obtain ⟨field, _, rfl⟩ := List.mem_map.mp isMember
      exact ⟨field.description, isLine⟩
    · intro constructor isConstructor p isParameter line isLine
      rw [List.mem_singleton.mp isConstructor] at isParameter
      obtain ⟨field, _, rfl⟩ := List.mem_map.mp isParameter
      cases isLine
  case isFalse =>
    split at formed
    case isTrue =>
      obtain ⟨key, _, same⟩ := Outcome.bind_eq_ok.mp formed
      cases same
      refine ⟨⟨fun line isLine => ⟨_, isLine⟩, nofun⟩, ?_⟩
      intro constructor isConstructor p isParameter line isLine
      rcases List.mem_cons.mp isConstructor with rfl | isArm
      · cases isParameter
      · obtain ⟨variant, _, rfl⟩ := List.mem_map.mp isArm
        obtain ⟨description, same⟩ := exists_comment_of_arm isParameter
        exact ⟨description, same ▸ isLine⟩
    case isFalse =>
      cases formed
      refine ⟨⟨fun line isLine => ⟨_, isLine⟩, nofun⟩, ?_⟩
      intro constructor isConstructor p isParameter line isLine
      rw [List.mem_singleton.mp isConstructor] at isParameter
      obtain ⟨field, _, rfl⟩ := List.mem_map.mp isParameter
      exact ⟨field.description, isLine⟩

/-! ## The text of a unit -/

theorem pieces_of_commentLine {line : List Char} (isComment : IsCommentLine line) :
    Text.pieces '\n' line = [line] := by
  apply Text.pieces_of_not_mem
  intro isIn
  have noEnd := isComment.inLine _ isIn
  exact absurd noEnd (by decide)

/-- Whether a text is the other without some lines of comments. -/
def OmitsComments (text bare : List Char) : Prop :=
  Omits IsCommentLine (Text.pieces '\n' text) (Text.pieces '\n' bare)

theorem OmitsComments.append {text bare more others : List Char} (first : OmitsComments text bare)
    (second : OmitsComments more others) :
    OmitsComments (text ++ '\n' :: more) (bare ++ '\n' :: others) := by
  rw [OmitsComments, Text.pieces_append, Text.pieces_append]
  exact Omits.append first second

theorem omitsComments_lines {lines code : List String} (some_ : lines ≠ []) (someCode : code ≠ [])
    (omits : Omits (fun line => IsCommentLine line.toList) lines code) :
    OmitsComments (joinLines lines).toList (joinLines code).toList := by
  have mark : "\n".toList = ['\n'] := rfl
  rw [OmitsComments, joinLines, joinLines, String.toList_intercalate, String.toList_intercalate, mark,
    Text.pieces_intercalate_eq (by simpa using some_), Text.pieces_intercalate_eq (by simpa using someCode),
    List.flatMap_map, List.flatMap_map]
  apply omits.flatMap
  intro line isComment part isPart
  rw [pieces_of_commentLine isComment] at isPart
  rw [List.mem_singleton.mp isPart]
  exact isComment

theorem Class.lines_ne_nil (cls : Class) : cls.lines ≠ [] := by
  simp [lines]

theorem omitsComments_class {cls : Class} (inLine : ∀ line ∈ cls.comments, InLine line.toList) :
    OmitsComments (joinLines cls.lines).toList (joinLines cls.uncommented.lines).toList :=
  omitsComments_lines cls.lines_ne_nil cls.uncommented.lines_ne_nil (Class.omits_lines inLine)

/-- Classes with an empty line between each and the next. -/
theorem omitsComments_classes {classes : List Class}
    (inLine : ∀ cls ∈ classes, ∀ line ∈ cls.comments, InLine line.toList) :
    OmitsComments (['\n', '\n'].intercalate (classes.map fun cls => (joinLines cls.lines).toList))
      (['\n', '\n'].intercalate
        ((classes.map (·.uncommented)).map fun cls => (joinLines cls.lines).toList)) := by
  induction classes with
  | nil => exact Omits.refl _
  | cons cls rest ih =>
    obtain ⟨first, later⟩ := List.forall_mem_cons.mp inLine
    cases rest with
    | nil => simpa using omitsComments_class first
    | cons next more =>
      have empty : OmitsComments [] [] := Omits.refl _
      simp only [List.map_cons, List.intercalate_cons_cons, List.append_assoc] at ih ⊢
      exact (omitsComments_class first).append (empty.append (ih later))

theorem omitsComments_front {text bare : List Char} (front : List String)
    (omits : OmitsComments text bare) :
    OmitsComments ((front.map (· ++ "\n")).flatMap String.toList ++ text)
      ((front.map (· ++ "\n")).flatMap String.toList ++ bare) := by
  induction front with
  | nil => exact omits
  | cons line rest ih =>
    have first : OmitsComments line.toList line.toList := Omits.refl _
    simpa using first.append ih

theorem Library.omitsComments {library : Library}
    (inLine : ∀ cls ∈ library.classes, ∀ line ∈ cls.comments, InLine line.toList) :
    OmitsComments library.written.toList library.uncommented.written.toList := by
  have sections : library.uncommented.sections = library.sections := rfl
  have end_ : OmitsComments [] [] := Omits.refl _
  have classes := (omitsComments_classes inLine).append end_
  unfold written
  rw [sections]
  simp only [String.toList_append, String.toList_join, String.toList_intercalate, List.append_assoc,
    List.map_map]
  exact omitsComments_front _ classes

end Dart

/-- A Dart unit is the one of the models without descriptions, apart from whole lines of comments. Models
that cannot be rendered fail in the same way without descriptions. -/
theorem renderUnit_undescribed {config : Config} (isDart : config.language = .dart)
    (models : List Model) (fileStem : String) (atHand : List String) :
    (∀ text, renderUnit config models fileStem atHand = .ok text →
      ∃ bare, renderUnit config (models.map (·.undescribed)) fileStem atHand = .ok bare ∧
        Dart.OmitsComments text.toList bare.toList) ∧
    ∀ fault, renderUnit config models fileStem atHand = .error fault →
      renderUnit config (models.map (·.undescribed)) fileStem atHand = .error fault := by
  have written : ∀ models, renderUnit config models fileStem atHand =
      Dart.Library.written <$> Dart.Library.ofModels config models fileStem atHand := by
    intro models
    rw [renderUnit, Backend.draft, isDart]
    simp only
    cases Dart.Library.ofModels config models fileStem atHand <;> rfl
  rw [written, written, Dart.Library.ofModels_undescribed]
  cases formed : Dart.Library.ofModels config models fileStem atHand with
  | error fault =>
    refine ⟨?_, fun other same => same⟩
    intro text same
    cases same
  | ok library =>
    constructor
    · intro text same
      cases same
      refine ⟨_, rfl, Dart.Library.omitsComments ?_⟩
      obtain ⟨_, _, classes, ofModels, rfl⟩ := Dart.Library.ofModels_eq_ok.mp formed
      intro cls isClass line isLine
      obtain ⟨model, _, ofModel⟩ := Outcome.exists_left (Outcome.mapM_eq_ok.mp ofModels) isClass
      obtain ⟨description, isOf⟩ := Dart.exists_description ofModel line isLine
      exact Dart.inLine_of_mem_commentLines isOf
    · intro fault same
      cases same

/-- A model whose descriptions hold line ends of many kinds and code behind them. -/
def describedPet : Model where
  name := "Pet"
  description := some "A pet.\rclass Dog \x7b\x7d\n"
  fields := [{ name := "name", type := .of .string, description := some "Its name.\u2028final x = 1;" }]

/-- The lines of comments that a unit has for the descriptions of the model. -/
def petComments : String :=
  "/// A pet.\n/// class Dog \x7b\x7d\n    /// Its name.\n    /// final x = 1;\n"

/-- The unit of the model is longer than the one without its descriptions by the lines of comments. -/
theorem renderUnit_undescribed_pet : ∃ text bare,
    renderUnit {} [describedPet] "pet" ["Pet"] = .ok text ∧
      renderUnit {} [describedPet.undescribed] "pet" ["Pet"] = .ok bare ∧
      Dart.OmitsComments text.toList bare.toList ∧
      text.utf8ByteSize = bare.utf8ByteSize + petComments.utf8ByteSize := by
  obtain ⟨omits, _⟩ := @renderUnit_undescribed {} rfl [describedPet] "pet" ["Pet"]
  have run : Outcome.any (renderUnit {} [describedPet] "pet" ["Pet"]) (fun text =>
      Outcome.any (renderUnit {} [describedPet.undescribed] "pet" ["Pet"]) fun bare =>
        text.utf8ByteSize = bare.utf8ByteSize + petComments.utf8ByteSize) = true := by
    decide +kernel
  obtain ⟨text, rendered, holds⟩ := Outcome.any_iff.mp run
  obtain ⟨bare, bareRendered, longer⟩ := Outcome.any_iff.mp holds
  obtain ⟨other, isOther, omitted⟩ := omits text rendered
  rw [List.map_singleton, bareRendered] at isOther
  cases isOther
  exact ⟨text, bare, rendered, bareRendered, omitted, of_decide_eq_true longer⟩

end SchemaCodegen
