import SchemaCodegen.Proofs.ValidIdentifiers

/-!
# Literals and the keys in them

A literal on one line ends at its second apostrophe, where a backslash makes the character behind it
stand for itself. A text that is written as a literal is read back from it, whatever stands behind,
unless it has a line end, which no literal on one line can have. So a class names the properties of its
fields as they are in JSON, in annotations and where it reads and writes JSON itself, but for those with
line ends.
-/

namespace SchemaCodegen.Dart

/-! ## Literals -/

/-- Lines end at line feeds and at carriage returns. -/
def isLineEnd (c : Char) : Bool := c = '\n' || c = '\r'

/-- Whether a text goes over more than one line. -/
def hasLineEnd (text : String) : Bool := text.toList.any isLineEnd

/-- What stands in a literal up to the apostrophe that ends it, with what is behind that. A backslash
makes a backslash, an apostrophe or a dollar sign stand for itself. Other dollar signs and line ends
cannot be there. -/
def content : List Char → Option (List Char × List Char)
  | [] => none
  | '\'' :: rest => some ([], rest)
  | '\\' :: c :: rest =>
    if c = '\\' || c = '\'' || c = '$' then
      (content rest).map fun (text, behind) => (c :: text, behind)
    else none
  | c :: rest =>
    if c = '\\' || c = '$' || isLineEnd c then none
    else (content rest).map fun (text, behind) => (c :: text, behind)

/-- The text that a literal stands for, with what is behind the literal. -/
def readLiteral : List Char → Option (List Char × List Char)
  | '\'' :: rest => content rest
  | _ => none

/-- What is read of a text that is written as a literal. -/
def readBack (text : String) : Option String := if hasLineEnd text then none else some text

theorem content_escape (c : Char) (rest : List Char) :
    content (escape c ++ rest) =
      if isLineEnd c then none else (content rest).map fun (text, behind) => (c :: text, behind) := by
  unfold escape
  split
  next special =>
    simp only [Bool.or_eq_true, decide_eq_true_eq] at special
    have plain : isLineEnd c = false := by
      rcases special with (rfl | rfl) | rfl <;> decide
    simp [content, special, plain]
  next other =>
    simp only [Bool.or_eq_true, decide_eq_true_eq, not_or] at other
    obtain ⟨⟨noBackslash, noMark⟩, noDollar⟩ := other
    rw [List.singleton_append, content.eq_def]
    split
    next isEmpty => cases isEmpty
    next same =>
      cases same
      exact absurd rfl noMark
    next same =>
      cases same
      exact absurd rfl noBackslash
    next same =>
      cases same
      simp [noBackslash, noDollar]

theorem content_escaped (text rest : List Char) :
    content (text.flatMap escape ++ '\'' :: rest) =
      if text.any isLineEnd then none else some (text, rest) := by
  induction text with
  | nil => rfl
  | cons c more ih =>
    rw [List.flatMap_cons, List.append_assoc, content_escape, ih, List.any_cons]
    cases isLineEnd c with
    | true => rfl
    | false =>
      cases more.any isLineEnd <;> rfl

theorem readLiteral_literal (text : String) (rest : List Char) :
    readLiteral ((literal text).toList ++ rest) =
      if hasLineEnd text then none else some (text.toList, rest) := by
  rw [literal, String.toList_ofList, List.cons_append, List.append_assoc, List.singleton_append]
  exact content_escaped text.toList rest

/-! ## Keys in annotations -/

/-- The key that an annotation names, as it is read. -/
def Annotation.key? (tag : Annotation) : Option String :=
  match tag.arguments with
  | some [argument] =>
    if "name: ".toList.isPrefixOf argument.toList then
      match readLiteral (argument.toList.drop 6) with
      | some (key, []) => some (String.ofList key)
      | _ => none
    else none
  | _ => none

/-- The key that a parameter stands for in JSON: the one in its annotation, or else its own name, if that
is one. -/
def Parameter.key? (parameter : Parameter) : Option String :=
  match parameter.annotations.find? (·.name = "JsonKey") with
  | some tag => tag.key?
  | none => if isIdentifier parameter.name.toList then some parameter.name else none

theorem key?_annotation (name : String) :
    ({ name := "JsonKey", arguments := some ["name: " ++ literal name] } : Annotation).key? =
      readBack name := by
  have isPrefix : "name: ".toList.isPrefixOf ("name: " ++ literal name).toList = true := by
    rw [List.isPrefixOf_iff_prefix, String.toList_append]
    exact List.prefix_append ..
  have behind : ("name: " ++ literal name).toList.drop 6 = (literal name).toList ++ [] := by
    rw [String.toList_append, List.append_nil]
    rfl
  unfold Annotation.key?
  simp only [isPrefix, if_true, behind, readLiteral_literal, readBack]
  cases hasLineEnd name
  · exact congrArg some String.ofList_toList
  · rfl

/-- A property keeps its name as the identifier of its field only if that can be read, or if it is a name
with a line feed behind it. -/
theorem isIdentifier_of_kept {name : String} (kept : identifier name = name) :
    (if isIdentifier name.toList then some name else none) = readBack name := by
  obtain ⟨_, _, keeps⟩ := identifier_isName_iff name
  rw [readBack]
  rcases keeps.mp kept with ⟨isName, _⟩ | ⟨front, isName, rfl⟩
  · have isWhole : isIdentifier name.toList = true := by
      rwa [isIdentifier_iff, String.ofList_toList]
    have oneLine : hasLineEnd name = false := by
      rw [hasLineEnd, List.any_eq_false]
      intro c isIn ends
      rw [isLineEnd, Bool.or_eq_true, decide_eq_true_eq, decide_eq_true_eq] at ends
      have part := isName.goesOn c isIn
      rcases ends with rfl | rfl <;> exact absurd part (by decide)
    rw [isWhole, oneLine]
    rfl
  · have noName : isIdentifier (front ++ "\n").toList = false := by
      rw [← Bool.not_eq_true, isIdentifier_iff, String.ofList_toList]
      intro isWhole
      apply isWhole.lineFeed_not_mem
      rw [String.toList_append]
      exact List.mem_append_right _ (List.mem_singleton_self _)
    have twoLines : hasLineEnd (front ++ "\n") = true := by
      rw [hasLineEnd, String.toList_append, List.any_append]
      exact Bool.or_true _
    rw [noName, twoLines]
    rfl

section

variable {config : Config} (serialization : config.serialization.isOn = true)
include serialization

/-- Whatever annotations stand behind that of the key, the parameter of a field stands for its property. -/
theorem key?_of_jsonKey {parameter : Parameter} {field : Field} {more : List Annotation}
    (annotations : parameter.annotations = jsonKey config field ++ more)
    (named : parameter.name = identifier field.name)
    (others : ∀ tag ∈ more, tag.name ≠ "JsonKey") : parameter.key? = readBack field.name := by
  rw [Parameter.key?, annotations, jsonKey, serialization, named]
  by_cases kept : identifier field.name = field.name
  · have noKey : more.find? (·.name = "JsonKey") = none := by
      rw [List.find?_eq_none]
      intro tag isTag
      simpa using others tag isTag
    rw [kept, decide_eq_true rfl, Bool.true_or, if_pos rfl, List.nil_append, noKey]
    exact isIdentifier_of_kept kept
  · rw [decide_eq_false kept]
    exact key?_annotation field.name

theorem key?_parameter (field : Field) : (parameter config field).key? = readBack field.name :=
  key?_of_jsonKey serialization (List.append_nil _).symm rfl nofun

theorem key?_discriminator (value : Bool) (field : Field) :
    (discriminator config value field).key? = readBack field.name := by
  refine key?_of_jsonKey serialization rfl rfl ?_
  intro tag isTag
  obtain rfl := List.mem_singleton.mp isTag
  exact show "Default" ≠ "JsonKey" by decide

theorem keys_armParameters (model : Model) (key : String) (variant : Variant) :
    (armParameters config model key variant).map (·.key?) =
      (armFields model variant).map (readBack ·.name) := by
  rw [armParameters, armFields, List.map_append, List.map_append, List.map_map, List.map_map]
  congr 1
  · apply List.map_congr_left
    intro field _
    exact key?_parameter serialization field
  · apply List.map_congr_left
    intro field _
    rw [Function.comp_apply]
    split
    · exact key?_discriminator serialization _ field
    · exact key?_parameter serialization field

/-- In the style of unions the parameters of each constructor stand for the properties of its fields. -/
theorem keys_of_constructors {model : Model} {cls : Class} (unions : config.unions.isOn = true)
    (formed : classOf config model = .ok cls) :
    cls.constructors.map (·.parameters.map (·.key?)) =
      (classFields config model).tail.map fun fields => fields.map (readBack ·.name) := by
  rw [classOf, unions, Bool.not_true, if_neg Bool.false_ne_true] at formed
  rw [classFields, unions, Bool.not_true, if_neg Bool.false_ne_true]
  split at formed
  next isUnion =>
    obtain ⟨key, _, same⟩ := Outcome.bind_eq_ok.mp formed
    cases same
    rw [if_pos isUnion]
    simp [armConstructor, keys_armParameters serialization]
  next noUnion =>
    cases formed
    rw [if_neg noUnion]
    simp [dataClass, key?_parameter serialization]

end

/-! ## Keys that are looked up -/

/-- The texts that an expression is made from, in order. -/
def Expr.sources : Expr → List String
  | .source text => [text]
  | .asType value _ => value.sources
  | .call _ argument => argument.sources
  | .method value _ _ => value.sources
  | .mapped items _ body => items.sources ++ body.sources
  | .group value => value.sources
  | .guarded origin value => origin.sources ++ value.sources

/-- The key that is looked up in decoded JSON, as it is read. -/
def lookedUp? (text : String) : Option String :=
  if "json[".toList.isPrefixOf text.toList then
    match readLiteral (text.toList.drop 5) with
    | some (key, [']']) => some (String.ofList key)
    | _ => none
  else none

/-- The keys that an expression looks up, one for each text that it is made from and that is no item of an
array. -/
def Expr.keys (e : Expr) : List (Option String) := (e.sources.filter (· ≠ "e")).map lookedUp?

theorem lookedUp?_literal (name : String) :
    lookedUp? ("json[" ++ literal name ++ "]") = readBack name := by
  have isPrefix : "json[".toList.isPrefixOf ("json[" ++ literal name ++ "]").toList = true := by
    rw [List.isPrefixOf_iff_prefix, String.append_assoc, String.toList_append]
    exact List.prefix_append ..
  have behind : ("json[" ++ literal name ++ "]").toList.drop 5 = (literal name).toList ++ [']'] := by
    rw [String.toList_append, String.toList_append]
    rfl
  simp only [lookedUp?, isPrefix, if_true, behind, readLiteral_literal, readBack]
  cases hasLineEnd name
  · exact congrArg some String.ofList_toList
  · rfl

section

variable {nullable : Bool} {text : String}

theorem sources_guardIf {value : Expr} (made : ∀ other ∈ value.sources, other = text ∨ other = "e")
    (some_ : text ∈ value.sources) :
    text ∈ (guardIf nullable (.source text) value).sources ∧
      ∀ other ∈ (guardIf nullable (.source text) value).sources, other = text ∨ other = "e" := by
  cases nullable with
  | false => exact ⟨some_, made⟩
  | true => exact ⟨List.mem_cons_self .., List.forall_mem_cons.mpr ⟨.inl rfl, made⟩⟩

theorem sources_castBase (kind : Kind) (target : Option String) :
    text ∈ (castBase kind target nullable (.source text)).sources ∧
      ∀ other ∈ (castBase kind target nullable (.source text)).sources, other = text ∨ other = "e" := by
  have alone : ∀ other ∈ [text], other = text ∨ other = "e" :=
    fun other isIn => .inl (List.mem_singleton.mp isIn)
  have isIn : text ∈ [text] := List.mem_singleton_self text
  unfold castBase
  split
  case h_1 | h_2 | h_3 | h_4 => exact ⟨isIn, alone⟩
  case h_5 => exact sources_guardIf alone isIn
  case h_6 =>
    split
    · exact sources_guardIf alone isIn
    · exact ⟨isIn, alone⟩

/-- A value that is read is made from its source, and from items of the arrays in it. -/
theorem sources_cast (type : FieldType) :
    text ∈ (cast type nullable (.source text)).sources ∧
      ∀ other ∈ (cast type nullable (.source text)).sources, other = text ∨ other = "e" := by
  induction type using FieldType.rec_core generalizing nullable text with
  | plain kind target => exact sources_castBase kind target
  | nested kind target item noArray =>
    cases kind <;> first | exact absurd rfl noArray | exact sources_castBase _ target
  | array target item ih =>
    apply sources_guardIf
    · show ∀ other ∈ text :: (cast item false (.source "e")).sources, other = text ∨ other = "e"
      refine List.forall_mem_cons.mpr ⟨.inl rfl, fun other isItem => .inr ?_⟩
      exact (ih.2 other isItem).elim id id
    · exact List.mem_cons_self ..

end

/-- A field is read from the key of its property alone. -/
theorem keys_reading (field : Field) :
    (reading field).keys ≠ [] ∧ ∀ key ∈ (reading field).keys, key = readBack field.name := by
  obtain ⟨some_, made⟩ := @sources_cast field.nullable ("json[" ++ literal field.name ++ "]") field.type
  have noItem : "json[" ++ literal field.name ++ "]" ≠ "e" := by
    intro same
    have first := congrArg (·.toList.head?) same
    simp only [String.append_assoc, String.toList_append, List.head?_append] at first
    cases first
  constructor
  · apply List.ne_nil_of_mem (a := lookedUp? ("json[" ++ literal field.name ++ "]"))
    exact List.mem_map_of_mem (List.mem_filter.mpr ⟨some_, decide_eq_true noItem⟩)
  · intro key isKey
    obtain ⟨text, isSource, rfl⟩ := List.mem_map.mp isKey
    obtain ⟨isIn, other⟩ := List.mem_filter.mp isSource
    obtain rfl := (made text isIn).resolve_right (of_decide_eq_true other)
    exact lookedUp?_literal field.name

/-! ## Keys of a class -/

/-- Whether a line passes on the value of a field, which is looked up by the key of its property alone. -/
def LooksUp (field : Field) (line : String) : Prop :=
  ∃ value : Expr, line = "    " ++ identifier field.name ++ ": " ++ value.text ++ "," ∧
    value.keys ≠ [] ∧ ∀ key ∈ value.keys, key = readBack field.name

/-- The key on a line behind four blanks, as it is read. -/
def writtenKey? (line : String) : Option String :=
  (readLiteral (line.toList.drop 4)).map fun (key, _) => String.ofList key

theorem writtenKey?_entry (name text : String) :
    writtenKey? ("    " ++ literal name ++ ": " ++ text ++ ",") = readBack name := by
  have behind : ("    " ++ literal name ++ ": " ++ text ++ ",").toList.drop 4 =
      (literal name).toList ++ (": " ++ text ++ ",").toList := by
    simp only [String.toList_append, List.append_assoc]
    rfl
  rw [writtenKey?, behind, readLiteral_literal, readBack]
  cases hasLineEnd name
  · exact congrArg some String.ofList_toList
  · rfl

/-- A text is read back from its literal, whatever stands behind that, exactly if it has no line end. So
where a class names the keys of its fields, they are those of their properties unless these have line ends:
for the parameters of its constructors, and in the plain style where it reads JSON and where it writes
it. -/
theorem literals_read_back (config : Config) (model : Model) :
    (∀ text rest, readLiteral ((literal text).toList ++ rest) =
      if hasLineEnd text then none else some (text.toList, rest)) ∧
    ∀ cls : Class, config.serialization.isOn = true → classOf config model = .ok cls →
      (config.unions.isOn = true → cls.constructors.map (·.parameters.map (·.key?)) =
        (classFields config model).tail.map fun fields => fields.map (readBack ·.name)) ∧
      (config.unions.isOn = false → ∃ reads writes, cls.methods = [reads, writes] ∧
        List.Forall₂ LooksUp model.flattened (innerLines reads) ∧
        (innerLines writes).map writtenKey? = model.flattened.map (readBack ·.name)) := by
  refine ⟨readLiteral_literal, ?_⟩
  intro cls serialization formed
  refine ⟨fun unions => keys_of_constructors serialization unions formed, ?_⟩
  intro plain
  rw [classOf, plain] at formed
  cases formed
  refine ⟨readFields model model.flattened, writeFields model.flattened, ?_, ?_, ?_⟩
  · simp only [plainClass, methods, serialization, if_true]
  · rw [innerLines_readFields, List.forall₂_map_right_iff, List.forall₂_same]
    exact fun field _ => ⟨reading field, rfl, keys_reading field⟩
  · rw [innerLines_writeFields, List.map_map]
    apply List.map_congr_left
    intro field _
    rw [Function.comp_apply, writtenKey?_entry]

/-- An offer whose properties have all characters with a meaning in literals. -/
def offerModel : Model := modelOf "Offer" ["it's", "$5", "a\\b", "due"]

/-- The keys of an offer are those of its properties, in either style. -/
theorem literals_read_back_offer :
    (∃ cls reads writes, classOf (plainStyle .dart) offerModel = .ok cls ∧
      cls.methods = [reads, writes] ∧
      (innerLines writes).map writtenKey? = [some "it's", some "$5", some "a\\b", some "due"]) ∧
    ∃ cls, classOf {} offerModel = .ok cls ∧ cls.constructors.map (·.parameters.map (·.key?)) =
      [[some "it's", some "$5", some "a\\b", some "due"]] := by
  have keys : offerModel.flattened.map (readBack ·.name) =
      [some "it's", some "$5", some "a\\b", some "due"] := by
    decide +kernel
  obtain ⟨_, ofPlain⟩ := (literals_read_back (plainStyle .dart) offerModel).2 _ rfl rfl
  obtain ⟨ofUnions, _⟩ := (literals_read_back {} offerModel).2 _ rfl rfl
  obtain ⟨reads, writes, methods, _, written⟩ := ofPlain rfl
  refine ⟨⟨_, reads, writes, rfl, methods, written.trans keys⟩, _, rfl, (ofUnions rfl).trans ?_⟩
  exact congrArg ([·]) keys

/-- A line feed stands in the literal as it is, where none can. -/
theorem literal_breaks_at_line_feed :
    literal "a\nb" = "'a\nb'" ∧ readLiteral (literal "a\nb").toList = none := by
  have written : literal "a\nb" = "'a\nb'" := by decide +kernel
  refine ⟨written, ?_⟩
  rw [written]
  decide +kernel

end SchemaCodegen.Dart
