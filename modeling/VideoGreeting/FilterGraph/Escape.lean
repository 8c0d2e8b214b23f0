/-!
# Values inside a filter graph

A value is read twice by the engine: as part of the graph, where brackets, commas and semicolons
separate, and then as an option, where colons do. At both levels a backslash makes the next
character literal and white space at the ends is dropped unless it is literal. So a value is escaped
once for each level, the inner one first.
-/

namespace VideoGreeting.FilterGraph

/-- Puts a backslash before every character in `special`. -/
def escapeWith (special : List Char) (cs : List Char) : List Char :=
  cs.flatMap fun c => if c ∈ special then ['\\', c] else [c]

/-- The characters with a meaning of their own in an option. -/
def optionSpecial : List Char := ['\\', '\'', ':', ' ', '\t', '\n']

/-- The characters with a meaning of their own in a graph. -/
def graphSpecial : List Char := ['\\', '\'', '[', ']', ',', ';', ' ', '\t', '\n']

/-- A value escaped for both levels. -/
def escapeValue (value : String) : String :=
  String.ofList (escapeWith graphSpecial (escapeWith optionSpecial value.toList))

end VideoGreeting.FilterGraph
