import SchemaCodegen.Python.Grammar.Expression

/-!
# The grammar of patterns

What the cases of a `match` are compared with: constants, names, sequences, mappings and classes.
-/

namespace SchemaCodegen.Python.Grammar

open Phrase

/-- A name that a pattern gives to what it meets. -/
def capture : Piece :=
  series [.notAhead (word "_"), name, .notAhead (oneOf [sign ".", sign "(", sign "="])]

/-- A name, or names joined by dots. -/
def dotted : Piece := separated (sign ".") name

/-- A constant. -/
def constant : Piece :=
  let minus := optional (sign "-")
  oneOf [
    series [minus, real, oneOf [sign "+", sign "-"], imaginary],
    series [minus, number],
    quotations, word "None", word "True", word "False"]

/-- Any number of further items, with a name for them. -/
def starredPattern : Piece := series [sign "*", oneOf [word "_", capture]]

/-- An item of a sequence. -/
def patternItem : Piece := oneOf [starredPattern, .rule .pattern]

/-- Alternatives, which may get a name. -/
def pattern : Piece :=
  series [separated (sign "|") (.rule .closedPattern), optional (series [word "as", capture])]

/-- The patterns of a class: those by position, then those by name. -/
def classPatterns : Piece :=
  let byName := separated comma (series [name, sign "=", .rule .pattern])
  let byPosition := series [.notAhead (series [name, sign "="]), .rule .pattern]
  oneOf [
    series [separated comma byPosition, optional (series [comma, byName]), optional comma],
    series [byName, optional comma]]

/-- The patterns of a mapping; a name for all other entries comes last. -/
def mappingPatterns : Piece :=
  let others := series [sign "**", capture]
  let key := oneOf [constant, series [name, Phrase.some (series [sign ".", name])]]
  let one := series [key, sign ":", .rule .pattern]
  oneOf [
    series [others, optional comma],
    series [separated comma one, optional (series [comma, others]), optional comma]]

/-- What parentheses hold: a pattern, or those of a sequence. -/
def groupPatterns : Piece :=
  oneOf [
    series [starredPattern, comma, optional (commaListed patternItem)],
    series [.rule .pattern, furtherItems patternItem]]

/-- A pattern without alternatives. -/
def closedPattern : Piece :=
  oneOf [
    constant, word "_",
    series [dotted, optional (between "(" (optional classPatterns) ")")],
    between "(" (optional groupPatterns) ")",
    between "[" (optional (commaListed patternItem)) "]",
    between "\x7b" (optional mappingPatterns) "\x7d"]

/-- The pattern of a case; a sequence needs no brackets. -/
def casePattern : Piece := groupPatterns

end SchemaCodegen.Python.Grammar
