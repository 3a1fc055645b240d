import Registrar.Go.Directory
import Registrar.Go.Reader
import Registrar.Text.Template
import Registrar.Yaml.Value

/-!
# Hosts

The program runs on a host that reads its two languages, says what attributes the texts in its
templates have, and knows the home directories of its users. All of this can be any: what is shown
here holds on every host. `{}` is the host that reads Go and YAML with the readers of this library,
whose texts have no attributes, and on which nobody has a home directory.
-/

namespace Registrar

/-- What the program is given beside its arguments and files. -/
structure Host where
  /-- The syntax tree of a Go source. -/
  readTree : Go.TreeReader := Go.readSource
  /-- The value of a YAML text. -/
  readValue : List Char → Except Yaml.Fault Yaml.Value := Yaml.Value.ofText
  /-- Why a text is not YAML, in words. -/
  explain : List Char → String := fun _ => "<yaml error>"
  /-- What the attributes of a text lead to. -/
  attributes : Text.Template.Attributes := Text.Template.noAttributes
  /-- The home directory that a name with a tilde stands for. -/
  userHome : String → Option String := fun _ => none

end Registrar
