import SchemaCodegen.Fault

/-!
# Settings

A setting is kept as it was configured. If its value is not of the expected type, that is a fault
only where the setting is used.
-/

namespace SchemaCodegen

/-- A configured value, of the expected type or of another. -/
inductive Setting (α : Type) where
  | typed (value : α)
  | untyped (value : Json.Value)
  deriving DecidableEq

namespace Setting

variable {α : Type}

/-- A configured value, typed if it can be read so. -/
def ofJson (read : Json.Value → Option α) (value : Json.Value) : Setting α :=
  match read value with
  | some a => .typed a
  | none => .untyped value

/-- The value as it was configured. -/
def toJson (write : α → Json.Value) : Setting α → Json.Value
  | .typed a => write a
  | .untyped value => value

/-- The value of the expected type; any other has the wrong type for its use. -/
def get : Setting α → Outcome α
  | .typed a => .ok a
  | .untyped _ => .error .wrongType

/-- A configured text. -/
def text : Json.Value → Setting String := ofJson Json.Value.text?

/-- Whether a switch is on. A value of another type counts as on if it is set. -/
def isOn : Setting Bool → Bool
  | .typed b => b
  | .untyped value => value.isSet

/-- A configured switch. -/
def switch : Json.Value → Setting Bool := ofJson fun
  | .bool b => some b
  | _ => none

/-- A configured number. -/
def number : Json.Value → Setting Int := ofJson fun
  | .int n => some n
  | _ => none

theorem toJson_ofJson {read : Json.Value → Option α} {write : α → Json.Value}
    (h : ∀ v a, read v = some a → write a = v) (v : Json.Value) : (ofJson read v).toJson write = v := by
  unfold ofJson toJson
  cases hr : read v <;> simp
  exact h v _ hr

@[simp] theorem get_typed (a : α) : (Setting.typed a).get = .ok a := rfl

end Setting

end SchemaCodegen
