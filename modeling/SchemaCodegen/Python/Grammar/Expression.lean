import SchemaCodegen.Python.Grammar.Rule

/-!
# The grammar of expressions

The phrases of expressions. How tightly operators bind does not matter for what is an expression, so
all operators between operands are alike, and so are `or` and `and`. Phrases that begin alike share
their beginning, so that nested brackets are read once.
-/

namespace SchemaCodegen.Python.Grammar

open Phrase

/-! ## Operators -/

/-- The operators between operands. -/
def binaryOperator : Piece :=
  oneOf (["|", "^", "&", "<<", ">>", "+", "-", "*", "/", "//", "%", "@"].map sign)

/-- The comparisons. -/
def comparisonOperator : Piece :=
  oneOf ([series [word "not", word "in"], word "in", series [word "is", word "not"], word "is"] ++
    ["==", "!=", "<=", "<", ">=", ">"].map sign)

/-- An expression with a condition, or a function, or neither. -/
def expression : Piece :=
  oneOf [
    .rule .lambda,
    series [.rule .disjunction,
      optional (series [word "if", .rule .disjunction, word "else", .rule .expression])]]

/-- Expressions joined by `or` and `and`. -/
def disjunction : Piece :=
  separated (oneOf [word "or", word "and"]) (.rule .negation)

/-- A comparison, or its negation. -/
def negation : Piece :=
  oneOf [
    series [word "not", .rule .negation],
    separated comparisonOperator (.rule .operand)]

/-- Factors joined by operators. -/
def operand : Piece := separated binaryOperator (.rule .factor)

/-- A power, or a factor with a sign in front of it. -/
def factor : Piece :=
  oneOf [
    series [oneOf (["+", "-", "~"].map sign), .rule .factor],
    series [optional (word "await"), .rule .primary, optional (series [sign "**", .rule .factor])]]

/-! ## Items -/

/-- A starred operand. -/
def starred : Piece := series [sign "*", .rule .operand]

/-- An expression that gets a name. -/
def naming : Piece := series [name, sign ":=", .rule .expression]

/-- An expression that may get a name. -/
def named : Piece := oneOf [naming, .rule .expression]

/-- An item of a display. -/
def item : Piece := oneOf [starred, named]

/-- An expression, or a starred operand. -/
def starrable : Piece := oneOf [starred, .rule .expression]

/-- Expressions with commas between, which form a tuple where there is a comma. -/
def expressions : Piece := commaListed starrable

/-- `yield`, alone, with expressions, or from another generator. -/
def yielding : Piece :=
  series [word "yield", oneOf [series [word "from", .rule .expression], optional expressions]]

/-- The clauses of a comprehension. -/
def clauses : Piece :=
  Phrase.some (series [optional (word "async"), word "for", commaListed (.rule .starredTarget),
    word "in", .rule .disjunction, repeated (series [word "if", .rule .disjunction])])

/-! ## Calls and subscripts -/

/-- An argument by name. -/
def byName : Piece := series [name, sign "=", .rule .expression]

/-- An argument that stands for all items of a value. -/
def spread : Piece := series [sign "*", .rule .expression]

/-- An argument that stands for all entries of a value. -/
def spreadByName : Piece := series [sign "**", .rule .expression]

/-- Arguments from the first by name on. Once entries are spread, no items are. -/
def argumentsByName : Piece :=
  let early := oneOf [byName, spread]
  let late := oneOf [byName, spreadByName]
  oneOf [
    series [early, repeated (series [comma, early]), repeated (series [comma, late])],
    separated comma late]

/-- An argument by position. -/
def byPosition : Piece := series [.notAhead (series [name, sign "="]), oneOf [spread, named]]

/-- The arguments after the first one. -/
def furtherArguments : Piece :=
  series [repeated (series [comma, byPosition]), optional (series [comma, argumentsByName]),
    optional comma]

/-- The arguments of a call. A generator needs no parentheses of its own if it is the only one. -/
def arguments (isCall : Bool) : Piece :=
  oneOf [
    series [spread, furtherArguments],
    series [.notAhead (series [name, sign "="]), named,
      if isCall then oneOf [clauses, furtherArguments] else furtherArguments],
    series [argumentsByName, optional comma]]

/-- The later parts of a slice, after its first colon. -/
def sliceEnd : Piece :=
  series [optional (.rule .expression),
    optional (series [sign ":", optional (.rule .expression)])]

/-- An index or a slice. -/
def slice : Piece :=
  oneOf [
    naming,
    series [sign ":", sliceEnd],
    spread,
    series [.rule .expression, optional (series [sign ":", sliceEnd])]]

/-- What follows a primary: a member, a call or a subscript. -/
def trailer : Piece :=
  oneOf [
    series [sign ".", name],
    between "(" (optional (arguments true)) ")",
    between "[" (commaListed slice) "]"]

/-- A name, a constant or a bracket, with members, calls and subscripts. -/
def primary : Piece := series [.rule .atom, repeated trailer]

/-! ## Brackets -/

/-- What parentheses hold: nothing, a `yield`, a tuple, a generator or an expression. -/
def parentheses : Piece :=
  optional (oneOf [
    .rule .yielding,
    series [starred, comma, optional (commaListed (.rule .item))],
    series [named, oneOf [clauses, furtherItems (.rule .item)]]])

/-- What square brackets hold: items, or a comprehension. -/
def listContent : Piece :=
  optional (oneOf [
    series [starred, furtherItems (.rule .item)],
    series [named, oneOf [clauses, furtherItems (.rule .item)]]])

/-- An entry of a dictionary. -/
def entry : Piece :=
  oneOf [
    series [sign "**", .rule .operand],
    series [.rule .expression, sign ":", .rule .expression]]

/-- What braces hold: entries, items, or a comprehension of either. -/
def braceContent : Piece :=
  optional (oneOf [
    series [sign "**", .rule .operand, furtherItems entry],
    series [starred, furtherItems (.rule .item)],
    series [naming, oneOf [clauses, furtherItems (.rule .item)]],
    series [.rule .expression,
      oneOf [
        series [sign ":", .rule .expression, oneOf [clauses, furtherItems entry]],
        clauses,
        furtherItems (.rule .item)]]])

/-- A name, a constant or a bracket. -/
def atom : Piece :=
  oneOf [
    name, word "True", word "False", word "None", number, quotations, sign "...",
    between "(" parentheses ")",
    between "[" listContent "]",
    between "\x7b" braceContent "\x7d"]

/-! ## Parameters -/

/-- Parameters of a function, which a mark closes. Those without a default come first, one `/` may
follow those by position only, and a `*` goes before those by name only. -/
def parameters (isAnnotated : Bool) (closing : Piece) : Piece :=
  let annotation (content : Piece) : Piece :=
    if isAnnotated then optional (series [sign ":", content]) else .empty
  let parameter := series [name, annotation (.rule .expression)]
  let done := oneOf [comma, .ahead closing]
  let plain := series [parameter, done]
  let defaulted := series [parameter, sign "=", .rule .expression, done]
  let either := series [parameter, optional (series [sign "=", .rule .expression]), done]
  let slash := series [sign "/", done]
  let keywords := series [sign "**", parameter, done]
  let star := oneOf [
    series [sign "*", name, annotation starrable, done, repeated either, optional keywords],
    series [sign "*", comma, Phrase.some either, optional keywords],
    keywords]
  oneOf [
    series [Phrase.some plain,
      oneOf [
        series [slash, repeated plain, repeated defaulted],
        series [Phrase.some defaulted, optional (series [slash, repeated defaulted])],
        .empty],
      optional star],
    series [Phrase.some defaulted, optional (series [slash, repeated defaulted]), optional star],
    star]

/-- A function without a name. -/
def lambda : Piece :=
  series [word "lambda", optional (parameters false (sign ":")), sign ":", .rule .expression]

end SchemaCodegen.Python.Grammar
