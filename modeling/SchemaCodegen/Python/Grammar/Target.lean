import SchemaCodegen.Python.Grammar.Expression

/-!
# The grammar of targets

What a value can be assigned to: names, members, subscripts, and tuples and lists of those. What can
be deleted has the same form without stars.
-/

namespace SchemaCodegen.Python.Grammar

open Phrase

/-- What a member, a call or a subscript begins with. -/
def trailerAhead : Piece := .ahead (oneOf [sign "(", sign "[", sign "."])

/-- A member or a subscript that nothing more is taken of. -/
def member : Piece :=
  series [.rule .atom, trailerAhead, repeated (series [trailer, trailerAhead]),
    oneOf [series [sign ".", name], between "[" (commaListed slice) "]"],
    .notAhead trailerAhead]

/-- One target alone, in parentheses or not. -/
def single : Piece := oneOf [member, name, between "(" (.rule .single) ")"]

/-- A target. -/
def target : Piece :=
  let inParentheses :=
    optional (oneOf [
      series [sign "*", .rule .target, comma, optional (commaListed (.rule .starredTarget))],
      series [.rule .target, furtherItems (.rule .starredTarget)]])
  oneOf [
    member, name,
    between "(" inParentheses ")",
    between "[" (optional (commaListed (.rule .starredTarget))) "]"]

/-- A target that may be starred. -/
def starredTarget : Piece := series [optional (sign "*"), .rule .target]

/-- Targets with commas between. -/
def targets : Piece := commaListed (.rule .starredTarget)

/-- What can be deleted. -/
def deleted : Piece :=
  let several := optional (commaListed (.rule .deleted))
  oneOf [member, name, between "(" several ")", between "[" several "]"]

end SchemaCodegen.Python.Grammar
