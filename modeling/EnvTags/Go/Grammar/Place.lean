import EnvTags.Go.Parser

/-!
# Places

What may follow a type or an expression depends on where it stands: in brackets
a line end is a blank, at the end of a statement it finishes the statement, and
in the header of a statement an opening brace starts the body.

The rules of the grammar call each other in circles. Each rule is written over a
record of the rules it may call, all of which are run on fewer tokens.
-/

namespace EnvTags
namespace Go

/-- Where a type or an expression stands. -/
structure Place where
  /-- Whether a line end finishes it. -/
  newlineEnds : Bool
  /-- Whether an operator of a statement may follow it. -/
  beforeOperator : Bool
  /-- Whether an opening brace after a plain name starts a literal. -/
  nameOpensLiteral : Bool
  deriving DecidableEq

namespace Place

/-- Inside brackets of any kind. -/
def nested : Place := ⟨false, false, true⟩

/-- At the end of a statement. -/
def line : Place := ⟨true, true, true⟩

/-- Before the body of a statement. -/
def header : Place := ⟨false, true, false⟩

/-- In a statement that stands before a mark in a header or in a clause. -/
def clause : Place := ⟨false, true, true⟩

end Place

/-- Rules that may be called on fewer tokens. -/
structure Rules where
  /-- A type. -/
  type : Place → Parser Node
  /-- An expression. -/
  expression : Place → Parser Forest
  /-- The body of a composite literal. -/
  literalBody : Parser Forest
  /-- A block. -/
  block : Parser Forest
  /-- A statement, in the body of a clause or not. -/
  statement : Bool → Parser Forest

namespace Rules

/-- No rule at all. -/
def none : Rules where
  type _ := failure
  expression _ := failure
  literalBody := failure
  block := failure
  statement _ := failure

end Rules

namespace Parser

/-- Succeed if the next token may continue what stands in a place. -/
def continues (place : Place) : Parser Unit :=
  ahead fun first => !(place.newlineEnds && first.afterNewline)

/-- Take a mark that continues what stands in a place. -/
def symbolOn (place : Place) (text : String) : Parser Unit := do
  continues place
  symbol text

/-- One or more values with commas between them. -/
def commaList (place : Place) (parser : Parser α) : Parser (List α) :=
  separated (symbolOn place ",") parser

end Parser
end Go
end EnvTags
