/-!
# Variables

The result of an analysis is a list of variables with their default values. It
is printed one variable a line.
-/

namespace EnvTags

/-- One environment variable. -/
structure Variable where
  /-- The package of the record that declares the variable. -/
  package : String
  /-- The name with all prefixes. -/
  name : String
  /-- The default value, empty when there is none. -/
  value : String
  deriving DecidableEq

namespace Variable

/-- The line that shows a variable, without its end. -/
def line (entry : Variable) : String :=
  entry.name ++ "=" ++ entry.value

/-- One line for each variable, in order. -/
def render (entries : List Variable) : String :=
  String.join (entries.map fun entry => entry.line ++ "\n")

end Variable
end EnvTags
