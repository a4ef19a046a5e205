import SchemaCodegen.Proofs.Conversion
import SchemaCodegen.Proofs.WrittenTypes
import SchemaCodegen.Python.Unit

/-!
# Codecs of points in time

In the style of unions a field says how its values are written and read exactly if the innermost type is
that of points in time. What is read of texts in lists is written as these texts again, however deep the
lists are, and null is written as null.
-/

namespace SchemaCodegen

/-! ## Types of points in time -/

namespace FieldType

theorem holdsDateTime_iff {type : FieldType} :
    type.holdsDateTime = true ↔ type.coreKind = .dateTime := by
  induction type using rec_core with
  | plain kind target => exact beq_iff_eq
  | nested kind target item noArray =>
    cases kind <;> first | exact absurd rfl noArray | exact beq_iff_eq
  | array target item ih => exact ih

/-- A type that is no array is of the kind that is innermost. -/
theorem kind_of_coreKind {kind core : Kind} {target : Option String} {item : FieldType}
    (noArray : kind ≠ .array) (isCore : (nested kind target item).coreKind = core) : kind = core := by
  cases kind <;> first | exact absurd rfl noArray | exact isCore

/-- A type of points in time refers to no model. -/
theorem innermost_of_dateTime {type : FieldType} (dates : type.coreKind = .dateTime) :
    type.innermost = none := by
  induction type using rec_core with
  | plain kind target =>
    obtain rfl : kind = .dateTime := dates
    rfl
  | nested kind target item noArray =>
    obtain rfl := kind_of_coreKind noArray dates
    rfl
  | array target item ih => exact ih dates

end FieldType

/-- Whether a value is a text in `depth` lists, with other texts beside it, and a statement holds of all of
them. -/
def Json.Value.TextsAt (holds : String → Prop) : Nat → Json.Value → Prop
  | 0, value => ∃ s, value = .str s ∧ holds s
  | depth + 1, value => ∃ items, value = .arr items ∧ ∀ item ∈ items, TextsAt holds depth item

namespace Python

variable {τ : Type}

/-- Whether a text is read as a point in time and written again as it was. -/
def Environment.Keeps (env : Environment τ) (s : String) : Prop :=
  ∃ t, env.moment? s = some t ∧ env.momentText t = s

/-- Texts that are kept, in as many lists as a type of points in time has, are of the type. -/
theorem fits_of_textsAt {env : Environment τ} {type : FieldType} (dates : type.coreKind = .dateTime)
    {value : Json.Value} (texts : value.TextsAt env.Keeps type.depth) : Fits env type value := by
  induction type using FieldType.rec_core generalizing value with
  | plain kind target =>
    obtain rfl : kind = .dateTime := dates
    obtain ⟨s, isText, t, isRead, isWritten⟩ := texts
    exact ⟨s, t, isText, isRead, isWritten⟩
  | nested kind target item noArray =>
    obtain rfl := FieldType.kind_of_coreKind noArray dates
    obtain ⟨s, isText, t, isRead, isWritten⟩ := texts
    exact ⟨s, t, isText, isRead, isWritten⟩
  | array target item ih =>
    obtain ⟨items, isList, each⟩ := texts
    exact ⟨items, isList, fun value isItem => ih dates (each value isItem)⟩

/-! ## The two functions -/

theorem clear_argument (object : Object τ) : Clear [("v", object)] := by
  intro name isName
  obtain rfl : name = "v" := List.mem_singleton.mp isName
  decide

/-- What writes values writes null as null. -/
theorem encoder_null (env : Environment τ) (type : FieldType) :
    (encoder type).apply env .null = some .null :=
  eval_dump_null type rfl

/-- What is read of texts in lists is written as the texts were. -/
theorem encoder_decoder {env : Environment τ} {type : FieldType} (dates : type.coreKind = .dateTime)
    {value : Json.Value} (texts : value.TextsAt env.Keeps type.depth) :
    ∃ object, (decoder type).apply env (.ofJson value) = some object ∧
      (encoder type).apply env object = some (.ofJson value) := by
  have free : ∀ name, type.innermost = some name → name ≠ "" ∧ name ∉ locals := by
    intro name refers
    rw [FieldType.innermost_of_dateTime dates] at refers
    cases refers
  have isRead : ∃ object, (cast type false (.name "v")).eval env [("v", .ofJson value)] = some object ∧
      Decoded env type value object :=
    eval_cast type (clear_argument (.ofJson value)) free (fits_of_textsAt dates texts) rfl
  obtain ⟨object, isRead, decoded⟩ := isRead
  exact ⟨object, isRead, eval_dump type decoded rfl⟩

/-! ## What a field says -/

/-- What a field of a class says about its form in JSON. -/
def Part.form : Part → Entries Expr
  | .field _ _ (some (.call (.name "field") [] said)) =>
    match Entries.get? said "metadata" with
    | some (.call (.name "config") [] form) => form
    | _ => []
  | _ => []

/-- A field says about its form what it should, whatever it is by default. -/
theorem form_of_fieldPart {config : Config} {field : Field} {value : Option Bool} {part : Part}
    (formed : fieldPart config field (value.map truth) = .ok part) :
    part.form = metadata config field := by
  obtain ⟨type, _, same⟩ := Outcome.bind_eq_ok.mp formed
  cases same
  unfold fieldOf fieldValue
  cases metadata config field with
  | nil => cases value <;> cases field.nullable <;> rfl
  | cons first rest => cases value <;> cases field.nullable <;> rfl

theorem get?_metadata {config : Config} (library : usesLibrary config = true) (field : Field)
    {key : String} (isOther : key ≠ "field_name") :
    Entries.get? (metadata config field) key =
      if field.type.coreKind = .dateTime then
        Entries.get? [("encoder", encoder field.type), ("decoder", decoder field.type)] key
      else none := by
  have skipped : ∀ rest : Entries Expr, Entries.get?
      ((if attributeName field.name = field.name then [] else [("field_name", quoted field.name)]) ++
        rest) key = Entries.get? rest key := by
    intro rest
    split
    · rfl
    · exact if_neg isOther.symm
  rw [metadata, if_pos library, skipped]
  by_cases dates : field.type.coreKind = .dateTime
  · rw [if_pos dates, if_pos (FieldType.holdsDateTime_iff.mpr dates)]
  · rw [if_neg dates, if_neg fun holds => dates (FieldType.holdsDateTime_iff.mp holds)]
    rfl

/-- A field that a library reads and writes carries an encoder and a decoder exactly if its innermost type
is that of points in time. Then the encoder leaves null as it is, and takes what the decoder makes of texts
in lists, as deep as the type has them, back to these texts, if each is kept as a point in time. -/
theorem fieldPart_codec {config : Config} (library : usesLibrary config = true) (field : Field)
    (value : Option Bool) {part : Part} (formed : fieldPart config field (value.map truth) = .ok part) :
    ((part.form.has "encoder" = true ↔ field.type.coreKind = .dateTime) ∧
      (part.form.has "decoder" = true ↔ field.type.coreKind = .dateTime)) ∧
    ∀ encodes decodes,
      part.form.get? "encoder" = some encodes → part.form.get? "decoder" = some decodes →
      ∀ (τ : Type) (env : Environment τ), encodes.apply env .null = some .null ∧
        ∀ json : Json.Value, json.TextsAt env.Keeps field.type.depth →
          ∃ object, decodes.apply env (.ofJson json) = some object ∧
            encodes.apply env object = some (.ofJson json) := by
  have atEncoder := get?_metadata library field (show "encoder" ≠ "field_name" by decide)
  have atDecoder := get?_metadata library field (show "decoder" ≠ "field_name" by decide)
  rw [form_of_fieldPart formed]
  by_cases dates : field.type.coreKind = .dateTime
  · rw [if_pos dates] at atEncoder atDecoder
    refine ⟨by simp [Entries.has, atEncoder, atDecoder, dates, Entries.get?], ?_⟩
    rintro encodes decodes isEncoder isDecoder τ env
    rw [atEncoder] at isEncoder
    rw [atDecoder] at isDecoder
    cases isEncoder
    cases isDecoder
    exact ⟨encoder_null env field.type, fun json texts => encoder_decoder dates texts⟩
  · rw [if_neg dates] at atEncoder atDecoder
    refine ⟨by simp [Entries.has, atEncoder, atDecoder, dates], ?_⟩
    intro encodes decodes isEncoder
    rw [atEncoder] at isEncoder
    cases isEncoder

/-- Days as points in time: texts of ten characters. -/
def days : Environment String where
  moment? s := if s.length = 10 then some s else none
  momentText := id
  isClass _ := false
  read _ _ := none
  write _ _ := none

/-- When someone was seen: lists of lists of points in time, or null. -/
def seenField : Field :=
  { name := "seen-at", type := .array (.array (.of .dateTime)), nullable := true }

/-- A list with a list of one day and an empty one comes back from its reading. -/
theorem fieldPart_codec_seen : ∃ part encodes decodes object,
    fieldPart { language := .python } seenField = .ok part ∧
      part.form.get? "encoder" = some encodes ∧ part.form.get? "decoder" = some decodes ∧
      encodes.apply days .null = some .null ∧
      decodes.apply days (.ofJson (.arr [.arr [.str "2024-05-01"], .arr []])) = some object ∧
      encodes.apply days object = some (.ofJson (.arr [.arr [.str "2024-05-01"], .arr []])) := by
  have isOk : Outcome.any (fieldPart { language := .python } seenField) (fun _ => true) = true := by
    decide +kernel
  obtain ⟨part, formed, _⟩ := Outcome.any_iff.mp isOk
  obtain ⟨⟨hasEncoder, hasDecoder⟩, backs⟩ := fieldPart_codec rfl seenField none formed
  obtain ⟨encodes, isEncoder⟩ := Option.isSome_iff_exists.mp (hasEncoder.mpr rfl)
  obtain ⟨decodes, isDecoder⟩ := Option.isSome_iff_exists.mp (hasDecoder.mpr rfl)
  obtain ⟨ofNull, ofTexts⟩ := backs encodes decodes isEncoder isDecoder String days
  have texts : Json.Value.TextsAt days.Keeps 2 (.arr [.arr [.str "2024-05-01"], .arr []]) := by
    have kept : days.Keeps "2024-05-01" := ⟨"2024-05-01", by decide, rfl⟩
    refine ⟨_, rfl, ?_⟩
    rw [List.forall_mem_cons, List.forall_mem_singleton]
    refine ⟨⟨_, rfl, ?_⟩, ⟨_, rfl, nofun⟩⟩
    rw [List.forall_mem_singleton]
    exact ⟨_, rfl, kept⟩
  obtain ⟨object, isRead, isWritten⟩ := ofTexts _ texts
  exact ⟨part, encodes, decodes, object, formed, isEncoder, isDecoder, ofNull, isRead, isWritten⟩

end Python

end SchemaCodegen
