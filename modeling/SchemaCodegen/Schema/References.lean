import SchemaCodegen.Fault
import SchemaCodegen.Remark

/-!
# Checking references

A reference is declared if some model of the schema has its name. The check fails with all
references that are not.
-/

namespace SchemaCodegen

/-- The references of a model, field by field. -/
def Model.fieldReferences (model : Model) : List Reference :=
  model.allFields.flatMap fun field =>
    field.type.references.map fun target => ⟨model.name, field.name, target⟩

namespace Schema

/-- Whether some model has the name. -/
def declares (schema : Schema) (name : String) : Bool := schema.names.contains name

/-- The references that point at no model, in order. -/
def unresolved (schema : Schema) : List Reference :=
  (schema.models.flatMap (·.fieldReferences)).filter fun r => !schema.declares r.target

/-- Fails if some reference points at no model. -/
def check (schema : Schema) : Outcome Unit :=
  match schema.unresolved with
  | [] => .ok ()
  | references => .error (.unresolved references)

/-- What is noted of references that point at no model. -/
def referenceRemarks (schema : Schema) : List Remark :=
  schema.unresolved.map fun r =>
    ⟨.warning, .references, s!"Unresolved reference {r.model}.{r.field} -> {r.target}"⟩

end Schema

end SchemaCodegen
