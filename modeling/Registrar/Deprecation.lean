/-!
# Deprecation marks

A doc comment marks what it documents as deprecated when one of two marks occurs anywhere in it.
-/

namespace Registrar

/-- The first text occurs in the second. -/
def occursIn (needle : List Char) : List Char → Bool
  | [] => needle.isEmpty
  | c :: rest => needle.isPrefixOf (c :: rest) || occursIn needle rest

/-- The marks of a deprecated declaration. -/
def deprecationMarks : List String :=
  ["Deprecated:", "Deprecated."]

/-- A doc comment with a mark; a missing comment has none. -/
def isDeprecated : Option String → Bool
  | none => false
  | some doc => deprecationMarks.any fun mark => occursIn mark.toList doc.toList

end Registrar
