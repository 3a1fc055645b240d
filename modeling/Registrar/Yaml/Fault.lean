/-!
# Faults of YAML texts

Most faults make a text something other than YAML, or ask for a kind of value that is not known.
The others stand in a text that is YAML: the kind of a value is known, but its text has no value
of that kind.
-/

namespace Registrar.Yaml

/-- What is wrong with a YAML text. -/
inductive Fault where
  /-- The text is not YAML, or a value is of no known kind. -/
  | malformed
  /-- A number or a date that does not exist, or the code of no character. -/
  | noSuchValue
  /-- The code of a surrogate, which is no character of a text by itself. -/
  | surrogate
  /-- A number without any digit. -/
  | emptyNumber
  /-- A truth value that is none, in lower case. -/
  | noTruth (word : String)
  /-- A date that is not written as one. -/
  | notDate
  deriving DecidableEq, Repr

end Registrar.Yaml
