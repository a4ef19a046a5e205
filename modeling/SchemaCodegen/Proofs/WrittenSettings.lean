import SchemaCodegen.Proofs.Sharing

/-!
# Settings that are written and read again

A configuration is read member by member, and each member is kept as it is, whatever its value. So
what is written is read as it was, with two exceptions. Conventions and options that are no objects
are kept and cannot be written; rules on stems that are no object may be written, but then as one.
Reading is followed with the entries that the members so far leave: conventions and options are of
their types exactly if these entries say so. Members with no setting's name have no effect, apart
from a few names of other parts that every configuration has.
-/

namespace SchemaCodegen

open Json (Value Members)

/-- What every step keeps, together with the entries that the writes so far leave, holds in the end. -/
theorem Outcome.holds_of_foldlM {σ α : Type} {step : σ → String × α → Outcome σ}
    (Holds : σ → Entries α → Prop) {writes : List (String × α)} {start final : σ}
    (keeps : ∀ state entries key value next, (key, value) ∈ writes → Holds state entries →
      step state (key, value) = .ok next → Holds next (entries.put key value))
    (atStart : Holds start []) (given : writes.foldlM step start = .ok final) :
    Holds final (Entries.ofWrites writes) := by
  have fromHere : ∀ (entries : Entries α), Holds start entries →
      Holds final (writes.foldl (fun entries (key, value) => entries.put key value) entries) := by
    clear atStart
    induction writes generalizing start with
    | nil =>
      intro entries holds
      cases given
      exact holds
    | cons write rest ih =>
      intro entries holds
      rw [List.foldlM_cons] at given
      obtain ⟨next, first, others⟩ := Outcome.bind_eq_ok.mp given
      apply ih (fun state entries key value next isLater =>
        keeps state entries key value next (List.mem_cons_of_mem _ isLater)) others
      exact keeps _ _ _ _ _ (List.mem_cons_self ..) holds first
  exact fromHere [] atStart

/-! ## Settings -/

namespace Setting

theorem toJson_text (value : Value) : (text value).toJson .str = value :=
  toJson_ofJson (fun _ _ isText => (Value.text?_eq_some.mp isText).symm) value

theorem toJson_number (value : Value) : (number value).toJson .int = value := by
  cases value <;> rfl

theorem toJson_switch (value : Value) : (switch value).toJson .bool = value := by
  cases value <;> rfl

end Setting

/-! ## Conventions -/

namespace Naming

/-- Conventions as they are read: each is what some value is read as. -/
structure IsRead (naming : Naming) : Prop where
  ending : ∃ value, naming.ending = .text value
  replacement : ∃ value, naming.replacement = .text value
  stemRules : ∃ value, naming.stemRules = .ofJson rules? value
  cut : ∃ value, naming.cut = .number value
  otherwise : ∃ value, naming.otherwise = .text value
  baseName : ∃ value, naming.baseName = .text value
  rootName : ∃ value, naming.rootName = .text value
  orderKey : ∃ value, naming.orderKey = .text value

/-- Whether rules on stems are an object where they are given. -/
def HasRules (members : Members) : Prop :=
  ∀ value, Entries.get? members "file_stem_suffixes" = some value → ∃ rules, value = .obj rules

theorem isRead_default : IsRead {} where
  ending := ⟨.str "Params", rfl⟩
  replacement := ⟨.str "AdapterParams", rfl⟩
  stemRules := ⟨.obj [("_adapter_params", .str "_adapter"), ("_params", .str "_adapter")], rfl⟩
  cut := ⟨.int 2, rfl⟩
  otherwise := ⟨.str "Default", rfl⟩
  baseName := ⟨.str "BaseClass", rfl⟩
  rootName := ⟨.str "Root", rfl⟩
  orderKey := ⟨.str "propertyOrder", rfl⟩

theorem isRead_set {naming next : Naming} {key : String} {value : Value} (isRead : naming.IsRead)
    (given : naming.set key value = .ok next) : next.IsRead := by
  unfold set at given
  split at given <;> cases given
  · exact { isRead with ending := ⟨value, rfl⟩ }
  · exact { isRead with replacement := ⟨value, rfl⟩ }
  · exact { isRead with stemRules := ⟨value, rfl⟩ }
  · exact { isRead with cut := ⟨value, rfl⟩ }
  · exact { isRead with otherwise := ⟨value, rfl⟩ }
  · exact { isRead with baseName := ⟨value, rfl⟩ }
  · exact { isRead with rootName := ⟨value, rfl⟩ }
  · exact { isRead with orderKey := ⟨value, rfl⟩ }

theorem stemRules_of_set {naming next : Naming} {key : String} {value : Value}
    (given : naming.set key value = .ok next) :
    next.stemRules =
      if key = "file_stem_suffixes" then .ofJson rules? value else naming.stemRules := by
  unfold set at given
  split at given <;> cases given <;> rfl

theorem exists_rules_iff {value : Value} :
    (∃ rules, Setting.ofJson rules? value = .typed rules) ↔ ∃ rules, value = .obj rules := by
  cases value <;> simp [Setting.ofJson, rules?]

theorem rulesJson_of_rules? {value : Value} {rules : Entries (Setting String)}
    (isRules : rules? value = some rules) : rulesJson rules = value := by
  cases value with
  | obj members =>
    cases isRules
    simp [rulesJson, Function.comp_def, Setting.toJson_text]
  | _ => cases isRules

/-- The rules of conventions that are read from members are rules exactly if they are an object in
these. -/
theorem ofMembers_eq_ok {members : Members} {naming : Naming}
    (given : ofMembers members = .ok naming) :
    naming.IsRead ∧
      ((∃ rules, naming.stemRules = .typed rules) ↔ HasRules (Entries.ofWrites members)) := by
  apply Outcome.holds_of_foldlM (fun naming entries => naming.IsRead ∧
    ((∃ rules, naming.stemRules = .typed rules) ↔ HasRules entries)) ?_ ?_ given
  · rintro naming entries key value next _ ⟨isRead, hasRules⟩ given
    refine ⟨isRead_set isRead given, ?_⟩
    rw [stemRules_of_set given, HasRules]
    by_cases isRules : key = "file_stem_suffixes"
    · simp [isRules, exists_rules_iff]
    · simp [isRules, hasRules, HasRules]
  · exact ⟨isRead_default, by simp [HasRules]⟩

/-- What is read from what conventions write, where the rules are written as an object. -/
def again (naming : Naming) (rules : Members) : Naming where
  ending := .text (naming.ending.toJson .str)
  replacement := .text (naming.replacement.toJson .str)
  stemRules := .ofJson rules? (.obj rules)
  cut := .number (naming.cut.toJson .int)
  otherwise := .text (naming.otherwise.toJson .str)
  baseName := .text (naming.baseName.toJson .str)
  rootName := .text (naming.rootName.toJson .str)
  orderKey := .text (naming.orderKey.toJson .str)

/-- Rules are written as an object, whatever they were. -/
theorem isObject_of_rulesObject {rules : Setting (Entries (Setting String))} {written : Value}
    (given : rulesObject rules = .ok written) : ∃ members, written = .obj members := by
  unfold rulesObject at given
  split at given
  next => exact ⟨_, (Except.ok.inj given).symm⟩
  next =>
    obtain ⟨pairs, _, same⟩ := Outcome.bind_eq_ok.mp given
    exact ⟨_, (Except.ok.inj same).symm⟩
  next =>
    split at given
    · exact ⟨_, (Except.ok.inj given).symm⟩
    · cases given
  next => cases given

/-- Conventions are written if their rules can be, and read again from that. -/
theorem toJson_of_rules {naming : Naming} {rules : Members}
    (isRules : rulesObject naming.stemRules = .ok (.obj rules)) :
    ∃ members, naming.toJson = .ok (.obj members) ∧
      ofMembers members = .ok (naming.again rules) := by
  rw [toJson, isRules]
  exact ⟨_, rfl, rfl⟩

theorem exists_rules_of_toJson {naming : Naming} {written : Value}
    (given : naming.toJson = .ok written) :
    ∃ rules, rulesObject naming.stemRules = .ok (.obj rules) := by
  obtain ⟨value, isRules, _⟩ := Outcome.bind_eq_ok.mp given
  obtain ⟨rules, rfl⟩ := isObject_of_rulesObject isRules
  exact ⟨rules, isRules⟩

theorem again_eq {naming : Naming} (isRead : naming.IsRead) {rules : Members}
    (typed : naming.stemRules = .ofJson rules? (.obj rules)) : naming.again rules = naming := by
  obtain ⟨ending, ofEnding⟩ := isRead.ending
  obtain ⟨replacement, ofReplacement⟩ := isRead.replacement
  obtain ⟨cut, ofCut⟩ := isRead.cut
  obtain ⟨otherwise_, ofOtherwise⟩ := isRead.otherwise
  obtain ⟨baseName, ofBaseName⟩ := isRead.baseName
  obtain ⟨rootName, ofRootName⟩ := isRead.rootName
  obtain ⟨orderKey, ofOrderKey⟩ := isRead.orderKey
  cases naming
  simp only at ofEnding ofReplacement typed ofCut ofOtherwise ofBaseName ofRootName ofOrderKey
  simp only [again, ofEnding, ofReplacement, typed, ofCut, ofOtherwise, ofBaseName, ofRootName,
    ofOrderKey, Setting.toJson_text, Setting.toJson_number]

/-- Conventions that were read are read again as they were exactly if their rules are rules. -/
theorem exists_toJson_iff {naming : Naming} (isRead : naming.IsRead) :
    (∃ rules, rulesObject naming.stemRules = .ok (.obj rules) ∧ naming.again rules = naming) ↔
      ∃ rules, naming.stemRules = .typed rules := by
  constructor
  · rintro ⟨rules, _, same⟩
    rw [← same]
    exact ⟨_, rfl⟩
  · rintro ⟨rules, typed⟩
    obtain ⟨value, ofValue⟩ := isRead.stemRules
    obtain ⟨members, rfl⟩ := exists_rules_iff.mp ⟨rules, ofValue ▸ typed⟩
    refine ⟨members, ?_, again_eq isRead ofValue⟩
    rw [ofValue]
    exact congrArg Except.ok (rulesJson_of_rules? rfl)

end Naming

/-! ## Configurations -/

namespace Formatting

theorem ofMembers_toJson (formatting : Formatting) :
    ∃ members, formatting.toJson = .obj members ∧ ofMembers members = .ok formatting :=
  ⟨_, rfl, rfl⟩

theorem options_eq_ok {setting : Setting Formatting} {options : Formatting}
    (given : setting.options = .ok options) : setting = .typed options := by
  cases setting with
  | typed other =>
    cases given
    rfl
  | untyped _ => cases given

end Formatting

namespace Config

/-- The keys of the settings. -/
def settingKeys : List String :=
  ["language", "generate_discriminated_union", "include_serialization", "add_generation_comment",
    "use_future_annotations", "validate_references", "conditional_discriminator_policy",
    "conditional_requires_required", "naming", "formatter"]

/-- The names that are no settings, but with which members reach other parts that every
configuration has. -/
def partKeys : List String := ["to_dict", "__post_init__", "__class__", "__dict__", "__weakref__"]

/-- A configuration as it is read: switches are what some value is read as, and so are conventions
where they are an object. -/
structure IsRead (config : Config) : Prop where
  unions : ∃ value, config.unions = .switch value
  serialization : ∃ value, config.serialization = .switch value
  comment : ∃ value, config.comment = .switch value
  postponed : ∃ value, config.postponed = .switch value
  checkReferences : ∃ value, config.checkReferences = .switch value
  needsRequired : ∃ value, config.needsRequired = .switch value
  naming : ∀ conventions, config.naming = .typed conventions → conventions.IsRead

theorem isRead_default : IsRead {} where
  unions := ⟨.bool true, rfl⟩
  serialization := ⟨.bool true, rfl⟩
  comment := ⟨.bool true, rfl⟩
  postponed := ⟨.bool true, rfl⟩
  checkReferences := ⟨.bool false, rfl⟩
  needsRequired := ⟨.bool true, rfl⟩
  naming := by
    rintro conventions ⟨⟩
    exact Naming.isRead_default

/-! ### Reading members -/

namespace Draft

/-- Members that are no conventions, options or parts are set if they are settings at all. -/
theorem read_of_plain {key : String} (noNaming : key ≠ "naming") (noFormatter : key ≠ "formatter")
    (noPart : key ∉ partKeys) (draft : Draft) (value : Value) :
    draft.read key value = .ok ((draft.set key value).getD draft) := by
  unfold read
  split
  case h_1 | h_2 => exact absurd rfl noNaming
  case h_3 | h_4 => exact absurd rfl noFormatter
  case h_11 => rfl
  all_goals exact absurd (by decide) noPart

theorem read_naming {members : Members} {conventions : Naming}
    (given : Naming.ofMembers members = .ok conventions) (draft : Draft) :
    draft.read "naming" (.obj members) =
      .ok { draft with
        config := { draft.config with naming := .typed conventions }, hasNaming := true } := by
  rw [read, given]
  rfl

theorem read_formatter {members : Members} {options : Formatting}
    (given : Formatting.ofMembers members = .ok options) (draft : Draft) :
    draft.read "formatter" (.obj members) =
      .ok { draft with
        config := { draft.config with formatting := .typed options }, hasFormatting := true } := by
  rw [read, given]
  rfl

theorem read_naming_other {value : Value} (noObject : ¬∃ members, value = .obj members)
    {draft : Draft} (hasNaming : draft.hasNaming = true) :
    draft.read "naming" value =
      .ok { draft with config := { draft.config with naming := .untyped value } } := by
  cases value with
  | obj members => exact absurd ⟨members, rfl⟩ noObject
  | _ =>
    rw [read, if_pos hasNaming]
    · rfl
    · nofun

theorem read_formatter_other {value : Value} (noObject : ¬∃ members, value = .obj members)
    {draft : Draft} (hasFormatting : draft.hasFormatting = true) :
    draft.read "formatter" value =
      .ok { draft with config := { draft.config with formatting := .untyped value } } := by
  cases value with
  | obj members => exact absurd ⟨members, rfl⟩ noObject
  | _ =>
    rw [read, if_pos hasFormatting]
    · rfl
    · nofun

/-- Reads members one after another. -/
def readAll (draft : Draft) (members : Members) : Outcome Draft :=
  members.foldlM (fun draft (key, value) => draft.read key value) draft

theorem readAll_append (draft : Draft) (first others : Members) :
    draft.readAll (first ++ others) = draft.readAll first >>= fun next => next.readAll others := by
  rw [readAll, List.foldlM_append]
  rfl

theorem readAll_cons (draft : Draft) (key : String) (value : Value) (others : Members) :
    draft.readAll ((key, value) :: others) =
      draft.read key value >>= fun next => next.readAll others := by
  rw [readAll, List.foldlM_cons]
  rfl

end Draft

theorem ofJson_obj (members : Members) :
    ofJson (.obj members) = Draft.readAll {} members >>= Draft.finish := rfl

/-! ### Reading what is written -/

/-- What is written of a configuration apart from its conventions and options. -/
def settingsJson (config : Config) : Members :=
  [("language", .str config.language.name),
    ("generate_discriminated_union", config.unions.toJson .bool),
    ("include_serialization", config.serialization.toJson .bool),
    ("add_generation_comment", config.comment.toJson .bool),
    ("use_future_annotations", config.postponed.toJson .bool),
    ("validate_references", config.checkReferences.toJson .bool),
    ("conditional_discriminator_policy", .str config.policy.name),
    ("conditional_requires_required", config.needsRequired.toJson .bool)]

/-- A configuration with the switches that are read from what it writes, and with conventions and
options. -/
def again (config : Config) (conventions : Naming) (options : Formatting) : Config where
  language := config.language
  unions := .switch (config.unions.toJson .bool)
  serialization := .switch (config.serialization.toJson .bool)
  comment := .switch (config.comment.toJson .bool)
  postponed := .switch (config.postponed.toJson .bool)
  checkReferences := .switch (config.checkReferences.toJson .bool)
  policy := config.policy
  needsRequired := .switch (config.needsRequired.toJson .bool)
  naming := .typed conventions
  formatting := .typed options

theorem readAll_settingsJson (config : Config) :
    Draft.readAll {} config.settingsJson =
      .ok {
        config := {
          unions := .switch (config.unions.toJson .bool)
          serialization := .switch (config.serialization.toJson .bool)
          comment := .switch (config.comment.toJson .bool)
          postponed := .switch (config.postponed.toJson .bool)
          checkReferences := .switch (config.checkReferences.toJson .bool)
          needsRequired := .switch (config.needsRequired.toJson .bool) }
        language := .str config.language.name
        policy := .str config.policy.name } := rfl

theorem ofJson_written (config : Config) {namingMembers optionMembers : Members}
    {conventions : Naming} {options : Formatting}
    (readNaming : Naming.ofMembers namingMembers = .ok conventions)
    (readOptions : Formatting.ofMembers optionMembers = .ok options) :
    ofJson (.obj (config.settingsJson ++
        [("naming", .obj namingMembers), ("formatter", .obj optionMembers)])) =
      .ok (config.again conventions options) := by
  rw [ofJson_obj, Draft.readAll_append, readAll_settingsJson, Outcome.ok_bind, Draft.readAll_cons,
    Draft.read_naming readNaming, Outcome.ok_bind, Draft.readAll_cons,
    Draft.read_formatter readOptions, Outcome.ok_bind, Draft.readAll, List.foldlM_nil]
  rw [again]
  cases config.language <;> cases config.policy <;> rfl

/-- A configuration is written if its conventions and options can be, and read again from that. -/
theorem toJson_of_typed {config : Config} {conventions : Naming} {options : Formatting}
    {rules : Members} (isOpen : config.isSealed = false)
    (isNaming : config.naming = .typed conventions)
    (isFormatting : config.formatting = .typed options)
    (isRules : Naming.rulesObject conventions.stemRules = .ok (.obj rules)) :
    ∃ written, config.toJson = .ok written ∧
      ofJson written = .ok (config.again (conventions.again rules) options) := by
  obtain ⟨namingMembers, writtenNaming, readNaming⟩ := Naming.toJson_of_rules isRules
  obtain ⟨optionMembers, writtenOptions, readOptions⟩ := Formatting.ofMembers_toJson options
  refine ⟨_, ?_, ofJson_written config readNaming readOptions⟩
  rw [toJson, isOpen, isNaming, isFormatting, Setting.conventions, Outcome.ok_bind, writtenNaming,
    ← writtenOptions]
  rfl

theorem typed_of_toJson {config : Config} {written : Value} (given : config.toJson = .ok written) :
    config.isSealed = false ∧ ∃ conventions options rules, config.naming = .typed conventions ∧
      config.formatting = .typed options ∧
      Naming.rulesObject conventions.stemRules = .ok (.obj rules) := by
  unfold toJson at given
  cases isSealed : config.isSealed with
  | true =>
    rw [isSealed] at given
    cases given
  | false =>
    rw [isSealed] at given
    obtain ⟨conventions, isNaming, given⟩ := Outcome.bind_eq_ok.mp given
    obtain ⟨namingJson, writtenNaming, given⟩ := Outcome.bind_eq_ok.mp given
    obtain ⟨options, isFormatting, _⟩ := Outcome.bind_eq_ok.mp given
    obtain ⟨rules, isRules⟩ := Naming.exists_rules_of_toJson writtenNaming
    exact ⟨rfl, conventions, options, rules, Conditional.conventions_eq_ok isNaming,
      Formatting.options_eq_ok isFormatting, isRules⟩

theorem again_eq {config : Config} (isRead : config.IsRead) (isOpen : config.isSealed = false)
    {conventions : Naming} {options : Formatting} (isNaming : config.naming = .typed conventions)
    (isFormatting : config.formatting = .typed options) :
    config.again conventions options = config := by
  obtain ⟨unions, ofUnions⟩ := isRead.unions
  obtain ⟨serialization, ofSerialization⟩ := isRead.serialization
  obtain ⟨comment, ofComment⟩ := isRead.comment
  obtain ⟨postponed, ofPostponed⟩ := isRead.postponed
  obtain ⟨checkReferences, ofCheckReferences⟩ := isRead.checkReferences
  obtain ⟨needsRequired, ofNeedsRequired⟩ := isRead.needsRequired
  cases config
  simp only at isOpen isNaming isFormatting
  simp only at ofUnions ofSerialization ofComment ofPostponed ofCheckReferences ofNeedsRequired
  simp only [again, isOpen, isNaming, isFormatting, ofUnions, ofSerialization, ofComment,
    ofPostponed, ofCheckReferences, ofNeedsRequired, Setting.toJson_switch]

/-- A configuration that was read is read again from what it writes exactly if its conventions, the
rules in them and its options are of their types. -/
theorem exists_toJson_iff {config : Config} (isRead : config.IsRead)
    (isOpen : config.isSealed = false) :
    (∃ written, config.toJson = .ok written ∧ ofJson written = .ok config) ↔
      (∃ conventions rules, config.naming = .typed conventions ∧
        conventions.stemRules = .typed rules) ∧
      ∃ options, config.formatting = .typed options := by
  constructor
  · rintro ⟨written, given, same⟩
    obtain ⟨_, conventions, options, rules, isNaming, isFormatting, isRules⟩ := typed_of_toJson given
    obtain ⟨other, isOther, readAgain⟩ := toJson_of_typed isOpen isNaming isFormatting isRules
    obtain rfl := Except.ok.inj (given.symm.trans isOther)
    have isAgain := Except.ok.inj (same.symm.trans readAgain)
    rw [isAgain]
    exact ⟨⟨_, _, rfl, rfl⟩, _, rfl⟩
  · rintro ⟨⟨conventions, ruleEntries, isNaming, typed⟩, options, isFormatting⟩
    have ofConventions := isRead.naming conventions isNaming
    obtain ⟨rules, isRules, sameNaming⟩ :=
      (Naming.exists_toJson_iff ofConventions).mpr ⟨ruleEntries, typed⟩
    obtain ⟨written, given, readAgain⟩ := toJson_of_typed isOpen isNaming isFormatting isRules
    rw [sameNaming, again_eq isRead isOpen isNaming isFormatting] at readAgain
    exact ⟨written, given, readAgain⟩

/-! ### What is read from members -/

/-- Whether the conventions and the rules in them are objects where they are given. -/
def NestsNaming (entries : Entries Value) : Prop :=
  ∀ value, entries.get? "naming" = some value →
    ∃ members, value = .obj members ∧ Naming.HasRules (Entries.ofWrites members)

/-- Whether the options are an object where they are given. -/
def NestsFormatter (entries : Entries Value) : Prop :=
  ∀ value, entries.get? "formatter" = some value → ∃ members, value = .obj members

namespace Draft

/-- What is read from members that touch no parts, in terms of the entries that they leave. -/
structure Follows (draft : Draft) (entries : Entries Value) : Prop where
  isRead : draft.config.IsRead
  isOpen : draft.config.isSealed = false
  hasNaming : draft.hasNaming = true
  hasFormatting : draft.hasFormatting = true
  naming : (∃ conventions rules, draft.config.naming = .typed conventions ∧
    conventions.stemRules = .typed rules) ↔ NestsNaming entries
  formatting : (∃ options, draft.config.formatting = .typed options) ↔ NestsFormatter entries

theorem follows_nil : Follows {} [] where
  isRead := isRead_default
  isOpen := rfl
  hasNaming := rfl
  hasFormatting := rfl
  naming := iff_of_true ⟨_, _, rfl, rfl⟩ nofun
  formatting := iff_of_true ⟨_, rfl⟩ nofun

theorem nestsNaming_put {entries : Entries Value} {value : Value} :
    NestsNaming (entries.put "naming" value) ↔
      ∃ members, value = .obj members ∧ Naming.HasRules (Entries.ofWrites members) := by
  simp [NestsNaming]

theorem nestsFormatter_put {entries : Entries Value} {value : Value} :
    NestsFormatter (entries.put "formatter" value) ↔ ∃ members, value = .obj members := by
  simp [NestsFormatter]

theorem nestsNaming_put_other (entries : Entries Value) {key : String} (other : key ≠ "naming")
    (value : Value) : NestsNaming (entries.put key value) ↔ NestsNaming entries := by
  simp [NestsNaming, other]

theorem nestsFormatter_put_other (entries : Entries Value) {key : String}
    (other : key ≠ "formatter") (value : Value) :
    NestsFormatter (entries.put key value) ↔ NestsFormatter entries := by
  simp [NestsFormatter, other]

/-- Conventions come from an object of conventions; any other value is kept as it is. -/
theorem follows_read_naming {draft next : Draft} {entries : Entries Value} {value : Value}
    (follows : draft.Follows entries) (given : draft.read "naming" value = .ok next) :
    next.Follows (entries.put "naming" value) := by
  have other : "naming" ≠ "formatter" := by decide
  have formatting := follows.formatting.trans (nestsFormatter_put_other entries other value).symm
  by_cases isObject : ∃ members, value = .obj members
  · obtain ⟨members, rfl⟩ := isObject
    obtain ⟨conventions, isNaming, same⟩ := Outcome.bind_eq_ok.mp given
    cases same
    obtain ⟨isRead, hasRules⟩ := Naming.ofMembers_eq_ok isNaming
    refine ⟨{ follows.isRead with naming := ?_ }, follows.isOpen, rfl, follows.hasFormatting, ?_,
      formatting⟩
    · rintro _ ⟨⟩
      exact isRead
    · rw [nestsNaming_put]
      simpa using hasRules
  · rw [read_naming_other isObject follows.hasNaming] at given
    cases given
    refine ⟨{ follows.isRead with naming := ?_ }, follows.isOpen, follows.hasNaming,
      follows.hasFormatting, ?_, formatting⟩
    · rintro _ ⟨⟩
    · rw [nestsNaming_put]
      constructor
      · rintro ⟨_, _, ⟨⟩, _⟩
      · rintro ⟨members, same, _⟩
        exact absurd ⟨members, same⟩ isObject

/-- Options come from an object of options; any other value is kept as it is. -/
theorem follows_read_formatter {draft next : Draft} {entries : Entries Value} {value : Value}
    (follows : draft.Follows entries) (given : draft.read "formatter" value = .ok next) :
    next.Follows (entries.put "formatter" value) := by
  have other : "formatter" ≠ "naming" := by decide
  have naming := follows.naming.trans (nestsNaming_put_other entries other value).symm
  by_cases isObject : ∃ members, value = .obj members
  · obtain ⟨members, rfl⟩ := isObject
    obtain ⟨options, _, same⟩ := Outcome.bind_eq_ok.mp given
    cases same
    refine ⟨{ follows.isRead with }, follows.isOpen, follows.hasNaming, rfl, naming, ?_⟩
    rw [nestsFormatter_put]
    simp
  · rw [read_formatter_other isObject follows.hasFormatting] at given
    cases given
    refine ⟨{ follows.isRead with }, follows.isOpen, follows.hasNaming, follows.hasFormatting,
      naming, ?_⟩
    rw [nestsFormatter_put]
    exact iff_of_false nofun isObject

/-- Settings other than conventions and options leave these as they are. -/
theorem follows_set {draft next : Draft} {entries : Entries Value} {key : String} {value : Value}
    (follows : draft.Follows entries) (noNaming : key ≠ "naming") (noFormatter : key ≠ "formatter")
    (given : draft.set key value = some next) : next.Follows entries := by
  unfold set at given
  split at given <;> cases given
  case h_1 | h_2 => exact { follows with isRead := { follows.isRead with } }
  case h_3 => exact { follows with isRead := { follows.isRead with unions := ⟨value, rfl⟩ } }
  case h_4 => exact { follows with isRead := { follows.isRead with serialization := ⟨value, rfl⟩ } }
  case h_5 => exact { follows with isRead := { follows.isRead with comment := ⟨value, rfl⟩ } }
  case h_6 => exact { follows with isRead := { follows.isRead with postponed := ⟨value, rfl⟩ } }
  case h_7 => exact { follows with isRead := { follows.isRead with checkReferences := ⟨value, rfl⟩ } }
  case h_8 => exact { follows with isRead := { follows.isRead with needsRequired := ⟨value, rfl⟩ } }
  case h_9 => exact absurd rfl noNaming
  case h_10 => exact absurd rfl noFormatter

/-- One member is read as the entries with it say. -/
theorem follows_read {draft next : Draft} {entries : Entries Value} {key : String} {value : Value}
    (noPart : key ∉ partKeys) (follows : draft.Follows entries)
    (given : draft.read key value = .ok next) : next.Follows (entries.put key value) := by
  by_cases isNaming : key = "naming"
  · subst isNaming
    exact follows_read_naming follows given
  by_cases isFormatter : key = "formatter"
  · subst isFormatter
    exact follows_read_formatter follows given
  · rw [read_of_plain isNaming isFormatter noPart] at given
    cases given
    have kept : ((draft.set key value).getD draft).Follows entries := by
      cases isSet : draft.set key value with
      | none => exact follows
      | some next => exact follows_set follows isNaming isFormatter isSet
    exact { kept with
      naming := kept.naming.trans (nestsNaming_put_other entries isNaming value).symm
      formatting := kept.formatting.trans (nestsFormatter_put_other entries isFormatter value).symm }

theorem follows_readAll {members : Members} {draft : Draft}
    (plain : ∀ key ∈ Entries.keys members, key ∉ partKeys)
    (given : Draft.readAll {} members = .ok draft) : draft.Follows (Entries.ofWrites members) := by
  refine Outcome.holds_of_foldlM Follows ?_ follows_nil given
  intro draft entries key value next isWrite follows given
  exact follows_read (plain key (List.mem_map_of_mem isWrite)) follows given

/-- A member that is no setting and no part has no effect. -/
theorem read_of_unknown {key : String} (noSetting : key ∉ settingKeys) (noPart : key ∉ partKeys)
    (draft : Draft) (value : Value) : draft.read key value = .ok draft := by
  have noNaming : key ≠ "naming" := by
    rintro rfl
    exact noSetting (by decide)
  have noFormatter : key ≠ "formatter" := by
    rintro rfl
    exact noSetting (by decide)
  have isUnset : draft.set key value = none := by
    unfold set
    split
    case h_11 => rfl
    all_goals exact absurd (by decide) noSetting
  rw [read_of_plain noNaming noFormatter noPart, isUnset]
  rfl

theorem readAll_filter {members : Members} (plain : ∀ key ∈ Entries.keys members, key ∉ partKeys)
    (draft : Draft) :
    draft.readAll (members.filter fun member => settingKeys.contains member.1) =
      draft.readAll members := by
  induction members generalizing draft with
  | nil => rfl
  | cons member rest ih =>
    obtain ⟨key, value⟩ := member
    have others := ih fun key isKey => plain key (List.mem_cons_of_mem _ isKey)
    cases isSetting : settingKeys.contains key with
    | true =>
      rw [List.filter_cons, if_pos isSetting, readAll_cons, readAll_cons]
      exact congrArg _ (funext others)
    | false =>
      have noSetting : key ∉ settingKeys := by simpa using isSetting
      have noPart := plain key (List.mem_cons_self ..)
      rw [List.filter_cons, if_neg (Bool.eq_false_iff.mp isSetting), readAll_cons,
        read_of_unknown noSetting noPart, Outcome.ok_bind, others]

theorem finish_eq_ok {draft : Draft} {config : Config} (given : draft.finish = .ok config) :
    ∃ language policy, config = { draft.config with language, policy } := by
  unfold finish at given
  split at given
  · cases given
  · split at given
    · split at given <;> cases given
      exact ⟨_, _, rfl⟩
    all_goals cases given

end Draft

/-- Settings that touch no parts of a configuration: other members have no effect, and the
configuration is written and read again as it was exactly if conventions, the rules in them and
options are objects where they are given. -/
theorem ofJson_toJson_iff {members : Members}
    (plain : ∀ key ∈ Entries.keys members, key ∉ partKeys) :
    ofJson (.obj (members.filter fun member => settingKeys.contains member.1)) =
        ofJson (.obj members) ∧
      ∀ config, ofJson (.obj members) = .ok config →
        ((∃ written, config.toJson = .ok written ∧ ofJson written = .ok config) ↔
          NestsNaming (Entries.ofWrites members) ∧ NestsFormatter (Entries.ofWrites members)) := by
  refine ⟨by rw [ofJson_obj, ofJson_obj, Draft.readAll_filter plain], ?_⟩
  intro config given
  rw [ofJson_obj] at given
  obtain ⟨draft, isDraft, finished⟩ := Outcome.bind_eq_ok.mp given
  have follows := Draft.follows_readAll plain isDraft
  obtain ⟨language, policy, rfl⟩ := Draft.finish_eq_ok finished
  have readAgain := @exists_toJson_iff { draft.config with language, policy }
    { follows.isRead with } follows.isOpen
  exact readAgain.trans (and_congr follows.naming follows.formatting)

theorem ofJson_toJson_other :
    ofJson (.obj [("language", .str "python"), ("naming", .obj [("else_prefix", .str "Other")])]) =
        ofJson (.obj [("language", .str "python"), ("naming", .obj [("else_prefix", .str "Other")]),
          ("unknown_key", .int 1)]) ∧
      ∃ config : Config, ofJson (.obj [("language", .str "python"),
          ("naming", .obj [("else_prefix", .str "Other")]), ("unknown_key", .int 1)]) = .ok config ∧
        config.language = .python ∧
        ∃ written, config.toJson = .ok written ∧ ofJson written = .ok config := by
  have law := @ofJson_toJson_iff [("language", .str "python"),
    ("naming", .obj [("else_prefix", .str "Other")]), ("unknown_key", .int 1)] (by decide)
  refine ⟨law.1, _, rfl, rfl, (law.2 _ rfl).mpr ⟨?_, nofun⟩⟩
  intro value given
  cases given
  exact ⟨_, rfl, nofun⟩

/-- Conventions and options that are no objects cannot be written, rules as a list are written as an
object, which is read differently, and members with the name of a part do have an effect. -/
theorem ofJson_toJson_differs :
    (∀ settings ∈ [[("naming", .null)], [("formatter", .null)],
        [("naming", .obj [("file_stem_suffixes", .arr [.arr [.str "a", .str "b"]])])]],
      ∃ config : Config, ofJson (.obj settings) = .ok config ∧
        ¬∃ written, config.toJson = .ok written ∧ ofJson written = .ok config) ∧
    ∀ key ∈ partKeys, ofJson (.obj [(key, .int 1)]) ≠ ofJson (.obj []) := by
  constructor
  · simp only [List.forall_mem_cons]
    refine ⟨⟨_, rfl, ?_⟩, ⟨_, rfl, ?_⟩, ⟨_, rfl, ?_⟩, nofun⟩
    · rintro ⟨written, given, _⟩
      cases given
    · rintro ⟨written, given, _⟩
      cases given
    · rintro ⟨written, given, same⟩
      cases given
      exact absurd same (by decide)
  · simp only [partKeys, List.forall_mem_cons]
    decide

end Config

end SchemaCodegen
