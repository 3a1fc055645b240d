import Registrar.Config
import Registrar.Go.Directory
import Registrar.Registry

/-!
# Failures

Everything that can go wrong on the way from a directory to a generated text. Some failures are
about the input and are reported with a message; the others end a command at once.
-/

namespace Registrar

/-- Why nothing is generated. -/
inductive Fault where
  /-- A Go file or directory cannot be read. -/
  | read (e : Go.ReadError)
  /-- A directory has several candidates to choose from. -/
  | ambiguous (directory : String) (candidates : List String)
  /-- There is no configuration. -/
  | config (e : Config.Error)
  /-- An accessor template has no expression. -/
  | accessor (e : AccessorError)
  /-- No strategy or format has the key. -/
  | unknownKey (e : Registry.Unknown)
  /-- A file or directory cannot be made. -/
  | file (e : FileError)
  /-- Another failure, in words. -/
  | other (text : String)
  deriving DecidableEq, Repr

namespace Fault

/-- Several candidates in a directory, in increasing order. -/
def ambiguity (directory : String) (candidates : List String) : Fault :=
  .ambiguous directory (candidates.mergeSort fun a b => decide (a ≤ b))

/-- The message of a failure that is reported; the others have none. -/
def message? : Fault → Option String
  | read (.parse e) => some e.message
  | ambiguous directory candidates =>
    some (directory ++ ": expected exactly one non-main, non-test package, found " ++
      ", ".intercalate candidates)
  | config (.rejected r) => some r.message
  | other text => some text
  | _ => none

/-- A failure in words. -/
def text (f : Fault) : String :=
  match f with
  | read (.path e) => e.reason
  | config (.file e) => e.reason
  | config .notUtf8 => "the configuration is not in UTF-8"
  | config .namelessSetting => "a setting of the dialect has no name"
  | config (.noValue _) => "a scalar of the configuration has no value"
  | config .noHome => "the home directory is not known"
  | accessor _ => "an accessor of the dialect cannot be written"
  | unknownKey e => e.message
  | file e => e.reason
  | f => f.message?.getD ""

/-- The failure is about the input and is reported. -/
def isReported (f : Fault) : Bool :=
  f.message?.isSome

end Fault

end Registrar
