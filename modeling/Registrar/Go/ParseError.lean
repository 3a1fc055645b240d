import Registrar.FileError
import Registrar.Text.Lines
import Registrar.Text.Blank
import Registrar.Text.Quoted

/-!
# Rejected files and directories

A parse error says which file or directory is rejected and why, with the position where one is
known. Its message is one line in the usual form: path, line and column, then the reason.
-/

namespace Registrar.Go

/-- Why a Go file or a directory of Go files is rejected. -/
inductive ParseError.Reason where
  /-- The grammar asks for something that is not there. -/
  | missing (kind : String)
  /-- The grammar does not know the text that begins like this. -/
  | near (snippet : List Char)
  /-- The grammar does not know an empty text. -/
  | nothing
  /-- The grammar refuses the file. -/
  | refused
  /-- There is no package clause. -/
  | noPackage
  /-- The directory cannot be listed. -/
  | directory (e : FileError)
  /-- The file cannot be read. -/
  | file (e : FileError)
  /-- Another reason, in words. -/
  | other (text : String)
  deriving DecidableEq, Repr

/-- A rejected file or directory. -/
structure ParseError where
  /-- The path of the file or directory. -/
  path : String
  /-- Why it is rejected. -/
  reason : ParseError.Reason
  /-- The line, counted from one. -/
  line : Option Int := none
  /-- The column, counted from one. -/
  column : Option Int := none
  deriving DecidableEq, Repr

namespace ParseError

/-- A reason in words. -/
def Reason.text : Reason → String
  | .missing kind => "missing " ++ kind
  | .near snippet => "syntax error near " ++ String.ofList (Text.Quoted.encode snippet)
  | .nothing => "syntax error"
  | .refused => "<syntax error>"
  | .noPackage => "expected 'package' clause"
  | .directory e => "cannot read directory: " ++ e.reason
  | .file e => "cannot read file: " ++ e.reason
  | .other text => text

/-- The path with the position; without a line there is no column either, and a column that is
missing or zero counts as the first. -/
def location (e : ParseError) : String :=
  match e.line with
  | none => e.path
  | some line =>
    let column := match e.column with
      | none => 1
      | some c => if c = 0 then 1 else c
    e.path ++ ":" ++ toString line ++ ":" ++ toString column

/-- The message of a parse error. -/
def message (e : ParseError) : String :=
  e.location ++ ": " ++ e.reason.text

end ParseError

end Registrar.Go
