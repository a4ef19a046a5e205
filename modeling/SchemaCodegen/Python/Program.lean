import SchemaCodegen.Fault
import SchemaCodegen.Python.Grammar.Statement

/-!
# Python programs

Whether a text is a program: its tokens fit the grammar, and so do the expressions in its formatted
texts. What names refer to, and whether a statement has a place where it stands, does not matter.
-/

namespace SchemaCodegen.Python

/-- Whether a text fits a rule of the grammar. The number bounds how deeply formatted texts stand in
each other. -/
def fits : Nat → Rule → List Char → Bool
  | 0, _, _ => false
  | depth + 1, start, text =>
    match Token.scan text with
    | none => false
    | some tokens =>
      Grammar.accepts Grammar.ofRule start tokens &&
        tokens.all fun
          | .formatted fields => fields.all fun field => fits depth .field ('(' :: field ++ [')'])
          | _ => true

/-- Whether a text is a program. -/
def isProgram (text : String) : Bool := fits (text.length + 1) .program text.toList

/-- Fails if a unit is no program. -/
def checkProgram (unit : String) : Outcome Unit :=
  if isProgram unit then .ok () else .error (.refused "Generated Python code is not valid")

end SchemaCodegen.Python
