import SchemaCodegen.Proofs.Renaming

/-!
# Endings that are replaced

A rule takes an ending off a text and puts another in its place. Class names have one rule; of the
rules on file stems that one counts which is the first in order whose ending the stem has. What stands
in front of the ending stays, except under the rule of the empty ending: every text has that one, and
the whole text goes with it, so that such a rule makes one name of all.
-/

namespace SchemaCodegen.Naming

/-- A stem ends with none of the endings of some rules. -/
def NoneApplies (rules : Entries (Setting String)) (stem : String) : Prop :=
  ∀ rule ∈ rules, ∀ front, stem ≠ front ++ rule.1

theorem noneApplies_iff {rules : Entries (Setting String)} {stem : String} :
    NoneApplies rules stem ↔ ∀ rule ∈ rules, Ending.isEndOf rule.1 stem = false := by
  refine forall₂_congr fun rule _ => ?_
  constructor
  · intro noFront
    rw [← Bool.not_eq_true]
    intro isEnd
    obtain ⟨front, joined⟩ := Ending.exists_of_isEndOf isEnd
    exact noFront front joined
  · rintro noEnd front rfl
    exact absurd (noEnd.symm.trans (Ending.isEndOf_append front rule.1)) Bool.false_ne_true

instance (rules : Entries (Setting String)) (stem : String) : Decidable (NoneApplies rules stem) :=
  decidable_of_iff' _ noneApplies_iff

/-- Rules that do not apply are passed over. -/
theorem applyRules_append {before : Entries (Setting String)} {stem : String}
    (none_ : NoneApplies before stem) (rules : Entries (Setting String)) :
    applyRules (before ++ rules) stem = applyRules rules stem := by
  rw [noneApplies_iff] at none_
  induction before with
  | nil => rfl
  | cons rule rest ih =>
    obtain ⟨noEnd, noneBehind⟩ := List.forall_mem_cons.mp none_
    rw [List.cons_append, applyRules, noEnd, if_neg Bool.false_ne_true, ih noneBehind]

/-- The first rule whose ending a stem has is applied to it, whatever the rules behind it are. -/
theorem applyRules_first {before after : Entries (Setting String)} {ending replacement front : String}
    (none_ : NoneApplies before (front ++ ending)) :
    applyRules (before ++ (ending, .typed replacement) :: after) (front ++ ending) =
      .ok (Ending.replaced ending replacement (front ++ ending)) := by
  rw [applyRules_append none_, applyRules, if_pos (Ending.isEndOf_append front ending)]
  rfl

/-- Where an ending is replaced, the front stays if there is an ending, and with the empty one the
replacement alone is left. -/
theorem front_stays_iff {ending front replacement : String} {result : Outcome String}
    (isReplaced : result = .ok (Ending.replaced ending replacement (front ++ ending))) :
    (result = .ok (front ++ replacement) ↔ ending ≠ "" ∨ front = "") ∧
      (ending = "" → result = .ok replacement) := by
  rw [isReplaced, Except.ok.injEq]
  refine ⟨Ending.replaced_eq_iff, ?_⟩
  rintro rfl
  rw [Ending.replaced_empty]

/-- In a class name with the reserved ending, and in a stem with the ending of a rule where none of
the rules before that applies, what stands in front of the ending stays and the replacement follows
it, exactly if the ending is not empty or nothing stands in front. With the empty ending the
replacement alone is left. -/
theorem endings_replaced_iff (naming : Naming) :
    (∀ ending replacement front, naming.ending = .typed ending →
        naming.replacement = .typed replacement →
      (naming.withNewEnding (front ++ ending) = .ok (front ++ replacement) ↔
          ending ≠ "" ∨ front = "") ∧
        (ending = "" → naming.withNewEnding (front ++ ending) = .ok replacement)) ∧
      ∀ before ending replacement after name front,
          naming.stemRules = .typed (before ++ (ending, .typed replacement) :: after) →
          NoneApplies before (Words.snakeCase name) → Words.snakeCase name = front ++ ending →
        (naming.fileStem name = .ok (front ++ replacement) ↔ ending ≠ "" ∨ front = "") ∧
          (ending = "" → naming.fileStem name = .ok replacement) := by
  constructor
  · intro ending replacement front reserved replaced
    exact front_stays_iff
      (withNewEnding_of_isEndOf reserved replaced (Ending.isEndOf_append front ending))
  · intro before ending replacement after name front typed none_ joined
    rw [joined] at none_
    have first := @applyRules_first before after ending replacement front none_
    apply front_stays_iff
    rw [fileStem, typed, joined]
    exact first

/-- Conventions for calls: the endings of the rules on stems are parts of one another. -/
def callNaming : Naming where
  ending := .typed "Args"
  replacement := .typed "InputArgs"
  stemRules := .typed [("_input_args", .typed "_input"), ("_args", .typed "_call"), ("s", .typed "")]

/-- The longest ending that a stem has stands first and is replaced. A class name can be all ending. -/
theorem endings_replaced_calls :
    callNaming.withNewEnding ("Build" ++ "Args") = .ok ("Build" ++ "InputArgs") ∧
      callNaming.withNewEnding ("" ++ "Args") = .ok ("" ++ "InputArgs") ∧
      callNaming.fileStem "BuildInputArgs" = .ok ("build" ++ "_input") ∧
      callNaming.fileStem "BuildArgs" = .ok ("build" ++ "_call") ∧
      callNaming.fileStem "Args" = .ok ("arg" ++ "") := by
  obtain ⟨names, stems⟩ := endings_replaced_iff callNaming
  have byRule : ∀ before ending replacement after name front,
      callNaming.stemRules = .typed (before ++ (ending, .typed replacement) :: after) →
      NoneApplies before (Words.snakeCase name) → Words.snakeCase name = front ++ ending →
      ending ≠ "" → callNaming.fileStem name = .ok (front ++ replacement) := by
    intro before ending replacement after name front typed none_ joined some_
    exact (stems _ _ _ _ _ _ typed none_ joined).1.mpr (.inl some_)
  refine ⟨?_, ?_, ?_, ?_, ?_⟩
  · exact (names _ _ "Build" rfl rfl).1.mpr (.inl (by decide))
  · exact (names _ _ "" rfl rfl).1.mpr (.inr rfl)
  · exact byRule [] _ _ _ _ "build" rfl (by decide) (by decide) (by decide)
  · exact byRule [_] _ _ _ _ "build" rfl (by decide) (by decide) (by decide)
  · exact byRule [_, _] _ _ _ _ "arg" rfl (by decide) (by decide) (by decide)

/-- Under an empty ending, tasks and jobs get one class name and one stem, without their own words. -/
theorem empty_ending_takes_task :
    withNewEnding { ending := .typed "" } ("Task" ++ "") ≠ .ok ("Task" ++ "AdapterParams") ∧
      withNewEnding { ending := .typed "" } "Task" = .ok "AdapterParams" ∧
      withNewEnding { ending := .typed "" } "Job" = .ok "AdapterParams" ∧
      Words.snakeCase "Task" = "task" ++ "" ∧
      fileStem { stemRules := .typed [("", .typed "_model")] } "Task" ≠ .ok ("task" ++ "_model") ∧
      fileStem { stemRules := .typed [("", .typed "_model")] } "Task" = .ok "_model" ∧
      fileStem { stemRules := .typed [("", .typed "_model")] } "Job" = .ok "_model" := by
  decide

end SchemaCodegen.Naming
