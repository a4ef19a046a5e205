import SchemaCodegen.Fault
import Mathlib.Data.List.Forall2

/-!
# Outcomes of several steps

When steps that follow one another give a result, each of them does, and the result is made of
theirs.
-/

namespace SchemaCodegen.Outcome

variable {α β : Type}

/-- Whether there is a result that passes a test. -/
def any (outcome : Outcome α) (test : α → Bool) : Bool :=
  match outcome with
  | .ok result => test result
  | .error _ => false

theorem any_iff {outcome : Outcome α} {test : α → Bool} :
    any outcome test = true ↔ ∃ result, outcome = .ok result ∧ test result = true := by
  cases outcome with
  | error fault => exact ⟨nofun, nofun⟩
  | ok result =>
    constructor
    · intro passes
      exact ⟨result, rfl, passes⟩
    · rintro ⟨other, same, passes⟩
      cases same
      exact passes

theorem ok_bind (value : α) (next : α → Outcome β) : Except.ok value >>= next = next value := rfl

theorem bind_eq_ok {first : Outcome α} {next : α → Outcome β} {result : β} :
    first >>= next = .ok result ↔ ∃ value, first = .ok value ∧ next value = .ok result := by
  cases first with
  | error fault => exact ⟨nofun, nofun⟩
  | ok value =>
    constructor
    · intro h
      exact ⟨value, rfl, h⟩
    · rintro ⟨other, same, h⟩
      cases same
      exact h

theorem exists_bind {first : Outcome α} {next : α → Outcome β} :
    (∃ result, first >>= next = .ok result) ↔
      ∃ value, first = .ok value ∧ ∃ result, next value = .ok result := by
  simp only [bind_eq_ok]
  exact ⟨fun ⟨result, value, given, h⟩ => ⟨value, given, result, h⟩,
    fun ⟨value, given, result, h⟩ => ⟨result, value, given, h⟩⟩

theorem map_eq_ok {f : α → β} {first : Outcome α} {result : β} :
    f <$> first = .ok result ↔ ∃ value, first = .ok value ∧ f value = result := by
  cases first with
  | error fault => exact ⟨nofun, nofun⟩
  | ok value =>
    constructor
    · intro h
      cases h
      exact ⟨value, rfl, rfl⟩
    · rintro ⟨other, same, h⟩
      cases same
      exact congrArg Except.ok h

/-- A step for each item of a list gives one result for each item, at its place. -/
theorem mapM_eq_ok {f : α → Outcome β} {list : List α} {results : List β} :
    list.mapM f = .ok results ↔ List.Forall₂ (fun item result => f item = .ok result) list results := by
  induction list generalizing results with
  | nil =>
    rw [List.mapM_nil, List.forall₂_nil_left_iff]
    constructor
    · intro h
      cases h
      rfl
    · rintro rfl
      rfl
  | cons item rest ih =>
    rw [List.mapM_cons, bind_eq_ok, List.forall₂_cons_left_iff]
    constructor
    · rintro ⟨first, ofItem, h⟩
      obtain ⟨more, ofRest, same⟩ := bind_eq_ok.mp h
      cases same
      exact ⟨first, more, ofItem, ih.mp ofRest, rfl⟩
    · rintro ⟨first, more, ofItem, ofRest, rfl⟩
      exact ⟨first, ofItem, bind_eq_ok.mpr ⟨more, ih.mpr ofRest, rfl⟩⟩

/-- The result of each item is among the results. -/
theorem exists_mem_of_mapM {f : α → Outcome β} {list : List α} {results : List β}
    (given : list.mapM f = .ok results) {item : α} (isItem : item ∈ list) :
    ∃ result ∈ results, f item = .ok result := by
  have each := mapM_eq_ok.mp given
  clear given
  induction each with
  | nil => cases isItem
  | cons first _ ih =>
    rcases List.mem_cons.mp isItem with rfl | isLater
    · exact ⟨_, List.mem_cons_self .., first⟩
    · obtain ⟨result, isResult, ofItem⟩ := ih isLater
      exact ⟨result, List.mem_cons_of_mem _ isResult, ofItem⟩

/-- What is related place by place to some items is related to one of them. -/
theorem exists_left {related : α → β → Prop} {list : List α} {results : List β}
    (each : List.Forall₂ related list results) {result : β} (isResult : result ∈ results) :
    ∃ item ∈ list, related item result := by
  induction each with
  | nil => cases isResult
  | cons first _ ih =>
    rcases List.mem_cons.mp isResult with rfl | isLater
    · exact ⟨_, List.mem_cons_self .., first⟩
    · obtain ⟨item, isItem, ofItem⟩ := ih isLater
      exact ⟨item, List.mem_cons_of_mem _ isItem, ofItem⟩

/-- Where some items are parted in two, so is what is related to them. -/
theorem exists_parted {related : α → β → Prop} {first rest : List α} {results : List β}
    (each : List.Forall₂ related (first ++ rest) results) :
    ∃ before after, results = before ++ after ∧ List.Forall₂ related rest after := by
  induction first generalizing results with
  | nil => exact ⟨[], results, rfl, each⟩
  | cons item more ih =>
    cases each with
    | cons _ others =>
      obtain ⟨before, after, rfl, ofRest⟩ := ih others
      exact ⟨_ :: before, after, rfl, ofRest⟩

/-! ## Faults -/

/-- Whether an outcome that is no result is one of the faults that are allowed. -/
def FailsBy (allowed : Fault → Prop) (outcome : Outcome α) : Prop :=
  ∀ fault, outcome = .error fault → allowed fault

section FailsBy

variable {allowed : Fault → Prop}

theorem failsBy_ok (value : α) : FailsBy allowed (.ok value : Outcome α) := by
  intro fault fails
  cases fails

theorem failsBy_error {fault : Fault} (isAllowed : allowed fault) :
    FailsBy allowed (.error fault : Outcome α) := by
  intro other fails
  cases fails
  exact isAllowed

theorem FailsBy.bind {first : Outcome α} {next : α → Outcome β} (ofFirst : FailsBy allowed first)
    (ofNext : ∀ value, first = .ok value → FailsBy allowed (next value)) :
    FailsBy allowed (first >>= next) := by
  intro fault fails
  cases given : first with
  | error other =>
    rw [given] at fails
    cases fails
    exact ofFirst fault given
  | ok value =>
    rw [given] at fails
    exact ofNext value given fault fails

theorem FailsBy.map {f : α → β} {first : Outcome α} (ofFirst : FailsBy allowed first) :
    FailsBy allowed (f <$> first) := by
  intro fault fails
  cases given : first with
  | error other =>
    rw [given] at fails
    cases fails
    exact ofFirst fault given
  | ok value =>
    rw [given] at fails
    cases fails

/-- A step fails by what is allowed together with the next one exactly if it does so itself, and the
next one does so on what it gives. -/
theorem failsBy_bind_iff {first : Outcome α} {next : α → Outcome β} :
    FailsBy allowed (first >>= next) ↔
      FailsBy allowed first ∧ ∀ value, first = .ok value → FailsBy allowed (next value) := by
  constructor
  · intro failsBy
    constructor
    · intro fault fails
      apply failsBy
      rw [fails]
      rfl
    · rintro value given
      rwa [given, ok_bind] at failsBy
  · rintro ⟨ofFirst, ofNext⟩
    exact ofFirst.bind ofNext

/-- Steps that follow one another fail by what each of them may fail by. -/
theorem FailsBy.mapM {f : α → Outcome β} {list : List α}
    (each : ∀ item ∈ list, FailsBy allowed (f item)) : FailsBy allowed (list.mapM f) := by
  induction list with
  | nil =>
    rw [List.mapM_nil]
    exact failsBy_ok []
  | cons item rest ih =>
    obtain ⟨first, others⟩ := List.forall_mem_cons.mp each
    rw [List.mapM_cons]
    apply first.bind
    intro result _
    apply (ih others).bind
    intro results _
    exact failsBy_ok _

end FailsBy

/-! ## Results of a traversal -/

/-- Results can be turned into others one by one or all at the end. -/
theorem mapM_map {γ : Type} (f : α → Outcome β) (g : β → γ) (list : List α) :
    (list.mapM fun item => g <$> f item) = List.map g <$> list.mapM f := by
  induction list with
  | nil => rfl
  | cons item rest ih =>
    rw [List.mapM_cons, List.mapM_cons, ih]
    cases f item with
    | error fault => rfl
    | ok first => cases rest.mapM f <;> rfl

/-- There are results for a list exactly if there is one for each item. -/
theorem exists_mapM {f : α → Outcome β} {list : List α} :
    (∃ results, list.mapM f = .ok results) ↔ ∀ item ∈ list, ∃ result, f item = .ok result := by
  induction list with
  | nil => exact ⟨fun _ _ member => (List.not_mem_nil member).elim, fun _ => ⟨[], rfl⟩⟩
  | cons item rest ih =>
    rw [List.forall_mem_cons, ← ih]
    simp only [List.mapM_cons, bind_eq_ok]
    constructor
    · rintro ⟨_, first, ofItem, more, ofRest, _⟩
      exact ⟨⟨first, ofItem⟩, ⟨more, ofRest⟩⟩
    · rintro ⟨⟨first, ofItem⟩, ⟨more, ofRest⟩⟩
      exact ⟨first :: more, first, ofItem, more, ofRest, rfl⟩

/-! ## Why there is no result -/

/-- The fault of an outcome that is no result. -/
def fault? : Outcome α → Option Fault
  | .ok _ => none
  | .error fault => some fault

theorem fault?_eq_none {outcome : Outcome α} :
    outcome.fault? = none ↔ ∃ result, outcome = .ok result := by
  cases outcome with
  | ok result => exact ⟨fun _ => ⟨result, rfl⟩, fun _ => rfl⟩
  | error fault => exact ⟨nofun, nofun⟩

theorem fault?_eq_some {outcome : Outcome α} {fault : Fault} :
    outcome.fault? = some fault ↔ outcome = .error fault := by
  cases outcome with
  | ok result => exact ⟨nofun, nofun⟩
  | error other => simp [fault?]

theorem fault?_map (f : α → β) (outcome : Outcome α) : (f <$> outcome).fault? = outcome.fault? := by
  cases outcome <;> rfl

/-- A step that never fails on what another one gives adds no fault. -/
theorem fault?_bind_ok (outcome : Outcome α) (next : α → β) :
    (outcome >>= fun value => .ok (next value)).fault? = outcome.fault? := by
  cases outcome <;> rfl

/-- The fault of one step after another that is apart from it is that of the first that fails. -/
theorem fault?_bind {first : Outcome α} {next : α → Outcome β} {later : Option Fault}
    (apart : ∀ value, (next value).fault? = later) : (first >>= next).fault? = first.fault?.or later := by
  cases first with
  | ok value => exact apart value
  | error fault => rfl

/-- The fault of steps that follow one another is that of the first that fails. -/
theorem fault?_mapM (f : α → Outcome β) (list : List α) :
    (list.mapM f).fault? = list.findSome? fun item => (f item).fault? := by
  induction list with
  | nil => rfl
  | cons item rest ih =>
    rw [List.mapM_cons, List.findSome?_cons, ← ih]
    cases f item with
    | error fault => rfl
    | ok first => exact fault?_bind_ok _ _

end SchemaCodegen.Outcome
